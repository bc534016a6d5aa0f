import VariantIter.Proofs.Delivery
import VariantIter.Proofs.GivenOptions
import VariantIter.Proofs.Tracing

/-!
Which target counts.

The target can be given in three places: on the command line, by a variable of the environment, and in the section
of generation. A variable that is set and not empty takes the place of what the section says before anything is
checked, so what the section says is never looked at. The command line only chooses the printer, once settings are
loaded and checked. Main statement: two sections that differ in the target alone end in the same way under such a
variable, and two commands that differ in the target alone do the same up to what they print.
-/

namespace VariantIter

/-! ## Entries under a text -/

namespace Entries

variable {entries : Entries} {name other : Text}

/-- A text is the key of at most one entry. -/
def Once (entries : Entries) (name : Text) : Prop :=
  (entries.filter fun entry => entry.1.sameKey (.text name)).length ≤ 1

/-- The entries whose key is not the given text. -/
def without (entries : Entries) (name : Text) : Entries :=
  entries.filter fun entry => !entry.1.isText name

theorem sameKey_text (first second : Text) :
    (Value.text first).sameKey (.text second) = (first == second) := by
  rw [Value.sameKey]

theorem without_cons_text (value : Value) (rest : Entries) :
    without ((.text name, value) :: rest) name = without rest name := by
  simp [without, Value.isText]

theorem without_cons_of_ne {key : Value} (differ : key ≠ .text name) (value : Value) (rest : Entries) :
    without ((key, value) :: rest) name = (key, value) :: without rest name := by
  have isOther : key.isText name = false := by
    simpa using mt Value.isText_iff.mp differ
  simp [without, isOther]

theorem get?_without (differ : other ≠ name) : (entries.without name).get? other = entries.get? other := by
  induction entries with
  | nil => rfl
  | cons entry rest ih =>
    obtain ⟨key, value⟩ := entry
    by_cases same : key = .text name
    · have passed : key ≠ .text other := by
        rw [same]
        simpa using differ.symm
      rw [same, without_cons_text, ← same, get?_cons_of_ne passed, ih]
    · rw [without_cons_of_ne same, get?, get?, ih]

theorem get?_without_self : (entries.without name).get? name = none := by
  rw [get?_eq_none_iff]
  intro value member
  have refused := (List.mem_filter.mp member).2
  simp [Value.isText] at refused

/-- Putting a value under a text changes nothing under other texts. -/
theorem get?_put_of_ne (differ : other ≠ name) (value : Value) :
    (entries.put (.text name) value).get? other = entries.get? other := by
  induction entries with
  | nil => exact get?_cons_of_ne (by simpa using differ.symm) value []
  | cons entry rest ih =>
    obtain ⟨key, held⟩ := entry
    rw [put]
    split
    · next found =>
      have passed : key ≠ .text other := by
        rintro rfl
        rw [sameKey_text, beq_iff_eq] at found
        exact differ found
      rw [get?_cons_of_ne passed, get?_cons_of_ne passed]
    · rw [get?, get?, ih]

/-- What is put under a text is found there, unless the text is a key behind a label. -/
theorem get?_put_self (bare : ∀ entry ∈ entries, entry.1.sameKey (.text name) = true → entry.1 = .text name)
    (value : Value) : (entries.put (.text name) value).get? name = some value := by
  induction entries with
  | nil => exact get?_cons_text name value []
  | cons entry rest ih =>
    obtain ⟨first, others⟩ := List.forall_mem_cons.mp bare
    obtain ⟨key, held⟩ := entry
    rw [put]
    split
    · next found =>
      cases first found
      exact get?_cons_text name value rest
    · next missed =>
      have passed : key ≠ .text name := by
        rintro rfl
        rw [sameKey_text, beq_self_eq_true] at missed
        exact missed rfl
      rw [get?_cons_of_ne passed, ih others]

/-- A text that is a key behind a label is no key without one. -/
theorem Once.absent (once : entries.Once name) {entry : Value × Value} (member : entry ∈ entries)
    (found : entry.1.sameKey (.text name) = true) (labelled : entry.1 ≠ .text name) :
    ∀ other ∈ entries, other.1 ≠ .text name := by
  intro other among same
  have both : other.1.sameKey (.text name) = true := by
    rw [same, sameKey_text, beq_self_eq_true]
  have first : entry ∈ entries.filter fun entry => entry.1.sameKey (.text name) :=
    List.mem_filter.mpr ⟨member, found⟩
  have second : other ∈ entries.filter fun entry => entry.1.sameKey (.text name) :=
    List.mem_filter.mpr ⟨among, both⟩
  obtain ⟨only, alone⟩ := List.length_eq_one_iff.mp (le_antisymm once (List.length_pos_of_mem first))
  rw [alone, List.mem_singleton] at first second
  exact labelled (first.trans second.symm ▸ same)

/-- What is put under a text that is a key behind a label is not found under the text. -/
theorem get?_put_of_labelled (absent : ∀ entry ∈ entries, entry.1 ≠ .text name)
    {entry : Value × Value} (member : entry ∈ entries) (found : entry.1.sameKey (.text name) = true)
    (value : Value) : (entries.put (.text name) value).get? name = none := by
  induction entries with
  | nil => cases member
  | cons first rest ih =>
    obtain ⟨passed, others⟩ := List.forall_mem_cons.mp absent
    obtain ⟨key, held⟩ := first
    rw [put]
    split
    · rw [get?_cons_of_ne passed, get?_eq_none_iff]
      intro value member
      exact others _ member rfl
    · next missed =>
      rw [get?_cons_of_ne passed]
      rcases List.mem_cons.mp member with rfl | later
      · exact absurd found missed
      · exact ih others later

end Entries

/-! ## Options with a target of their own -/

namespace Options

variable {entries others : Entries}

/-- The options of a mapping, if they pass the check. -/
def checked (entries : Entries) : Except Fault Options := do
  let options ← ofEntries entries
  let _ ← options.check
  return options

theorem refuseUnknown_congr (same : strangeKeys others = strangeKeys entries) :
    refuseUnknown others = refuseUnknown entries := by
  unfold strangeKeys at same
  unfold refuseUnknown
  rw [same]

theorem refuseUnknown_of_strange {key : Value} (strange : key ∈ strangeKeys entries) :
    ∃ fault, refuseUnknown entries = .error fault := by
  unfold strangeKeys at strange
  unfold refuseUnknown
  split
  · next none =>
    rw [none] at strange
    cases strange
  · cases sortKeys _ with
    | error fault => exact ⟨fault, rfl⟩
    | ok sorted => exact ⟨_, rfl⟩

theorem strangeKeys_without {name : Text} (known : isName (.text name) = true) :
    strangeKeys (entries.without name) = strangeKeys entries := by
  induction entries with
  | nil => rfl
  | cons entry rest ih =>
    obtain ⟨key, value⟩ := entry
    unfold strangeKeys at ih ⊢
    by_cases same : key = .text name
    · rw [same, Entries.without_cons_text, ih, List.filterMap_cons]
      simp only [known, if_true]
    · rw [Entries.without_cons_of_ne same, List.filterMap_cons, List.filterMap_cons, ih]

/-- The target is read last. -/
theorem readAll_eq (entries : Entries) :
    readAll entries = readAll (entries.without "target_dialect") >>= fun options =>
      Field.read entries .target >>= fun target => .ok { options with target := target } := by
  have read (field : Field) (other : field.name ≠ "target_dialect") :
      field.read (entries.without "target_dialect") = field.read entries := by
    have found : (entries.without "target_dialect").get? field.name = entries.get? field.name :=
      Entries.get?_without other
    cases held : entries.get? field.name with
    | none => rw [Field.read_of_none held, Field.read_of_none (found.trans held)]
    | some value => rw [Field.read_of_some held, Field.read_of_some (found.trans held)]
  have unset : Field.read (entries.without "target_dialect") .target = .ok (.text "rust") :=
    Field.read_of_none Entries.get?_without_self
  simp only [readAll, read .capability (by decide), read .stem (by decide), read .entry (by decide),
    read .mapping (by decide), read .counter (by decide), unset, bind_assoc]
  rfl

/-- The target is checked last. -/
theorem check_aimed {options : Options} {dialect : Dialect}
    (aimed : checkTarget options.target = .ok dialect) (target : Value) :
    { options with target := target }.check = options.check >>= fun recipe =>
      checkTarget target >>= fun dialect => .ok { recipe with target := dialect } := by
  unfold check
  simp only [aimed]
  cases options.capability.truthy with
  | false => rfl
  | true =>
    simp only [Bool.not_true, Bool.false_eq_true, if_false, bind_assoc]
    rfl

/-- A key that is the name of an option stands there without a label, where no key is refused. -/
theorem bare_of_refuseUnknown {name : Text} (accepted : refuseUnknown entries = .ok ()) :
    ∀ entry ∈ entries, entry.1.sameKey (.text name) = true → entry.1 = .text name := by
  intro entry member found
  have named : isName entry.1 = true := by
    by_contra unnamed
    have strange : entry.1 ∈ strangeKeys entries :=
      List.mem_filterMap.mpr ⟨entry, member, by simp [unnamed]⟩
    obtain ⟨fault, refused⟩ := refuseUnknown_of_strange strange
    cases accepted.symm.trans refused
  rw [isName, List.any_eq_true] at named
  obtain ⟨other, _, same⟩ := named
  have text := Value.isText_iff.mp same
  rw [text, Entries.sameKey_text, beq_iff_eq] at found
  rw [text, found]

theorem read_put_of_bare
    (bare : ∀ entry ∈ entries, entry.1.sameKey (.text "target_dialect") = true → entry.1 = .text "target_dialect")
    (target : Text) :
    Field.read (entries.put (.text "target_dialect") (.text target)) .target =
      .ok (.text (Text.lower target)) := by
  rw [Field.read_of_some (Entries.get?_put_self bare (.text target))]
  rfl

/-- What is put under the target is read, where no key is refused. -/
theorem read_put (once : entries.Once "target_dialect") (target : Text) :
    ∃ value, Field.read (entries.put (.text "target_dialect") (.text target)) .target = .ok value ∧
      (refuseUnknown entries = .ok () → value = .text (Text.lower target)) := by
  by_cases bare : ∀ entry ∈ entries, entry.1.sameKey (.text "target_dialect") = true →
      entry.1 = .text "target_dialect"
  · exact ⟨_, read_put_of_bare bare target, fun _ => rfl⟩
  · have unread : Field.read (entries.put (.text "target_dialect") (.text target)) .target =
        .ok (({} : Options).get .target) := by
      push Not at bare
      obtain ⟨entry, member, found, labelled⟩ := bare
      exact Field.read_of_none
        (Entries.get?_put_of_labelled (once.absent member found labelled) member found _)
    exact ⟨_, unread, fun accepted => absurd (bare_of_refuseUnknown accepted) bare⟩

/-- The target of options that were read from a mapping with a target put over it. -/
theorem target_of_put {target : Text} {options : Options}
    (accepted : ofEntries (entries.put (.text "target_dialect") (.text target)) = .ok options) :
    options.target = .text (Text.lower target) := by
  rw [ofEntries_eq_readAll] at accepted
  obtain ⟨found, read, rest⟩ := Outcome.bind_eq_ok.mp accepted
  obtain ⟨_, known, same⟩ := Outcome.bind_eq_ok.mp rest
  cases same
  rw [refuseUnknown_congr (strangeKeys_put rfl _)] at known
  rw [readAll_eq] at read
  obtain ⟨_, _, rest⟩ := Outcome.bind_eq_ok.mp read
  rw [read_put_of_bare (bare_of_refuseUnknown known), Outcome.ok_bind] at rest
  cases rest
  rfl

/-- Options that pass the check have the target that the mapping gives, or the default. -/
theorem takes_of_checked {options : Options} (accepted : checked entries = .ok options) :
    Field.Takes entries .target options.target := by
  obtain ⟨found, read, rest⟩ := Outcome.bind_eq_ok.mp accepted
  obtain ⟨_, _, same⟩ := Outcome.bind_eq_ok.mp rest
  cases same
  rw [ofEntries_eq_readAll] at read
  obtain ⟨found, read, rest⟩ := Outcome.bind_eq_ok.mp read
  obtain ⟨_, _, same⟩ := Outcome.bind_eq_ok.mp rest
  cases same
  exact (readAll_ends entries).ok read .target

/-- A target that is put over a mapping goes before what the mapping says, and changes nothing else. -/
theorem checked_put (once : entries.Once "target_dialect") (target : Text) :
    checked (entries.put (.text "target_dialect") (.text target)) =
      checked (entries.without "target_dialect") >>= fun options =>
        checkTarget (.text (Text.lower target)) >>= fun _ =>
          .ok { options with target := .text (Text.lower target) } := by
  have keys : refuseUnknown (entries.put (.text "target_dialect") (.text target)) =
      refuseUnknown (entries.without "target_dialect") := by
    refine refuseUnknown_congr ?_
    rw [strangeKeys_put rfl, strangeKeys_without rfl]
  have rest : readAll ((entries.put (.text "target_dialect") (.text target)).without "target_dialect") =
      readAll (entries.without "target_dialect") := by
    refine readAll_congr fun name => ?_
    by_cases same : name = "target_dialect"
    · rw [same, Entries.get?_without_self, Entries.get?_without_self]
    · rw [Entries.get?_without same, Entries.get?_without same, Entries.get?_put_of_ne same]
  obtain ⟨value, read, fresh⟩ := read_put once target
  have known : refuseUnknown (entries.without "target_dialect") = refuseUnknown entries :=
    refuseUnknown_congr (strangeKeys_without rfl)
  rw [← known] at fresh
  unfold checked
  rw [ofEntries_eq_readAll, ofEntries_eq_readAll, readAll_eq, rest, read, keys]
  cases outcome : readAll (entries.without "target_dialect") with
  | error fault => rfl
  | ok options =>
    have unset : options.target = .text "rust" :=
      ((readAll_ends _).ok outcome .target).default Entries.get?_without_self
    cases refusal : refuseUnknown (entries.without "target_dialect") with
    | error fault => rfl
    | ok done =>
      have aimed : checkTarget options.target = .ok .rust := by
        rw [unset]
        rfl
      cases fresh refusal
      simp only [Outcome.ok_bind]
      rw [check_aimed aimed]
      cases options.check with
      | error fault => rfl
      | ok recipe =>
        cases checkTarget (.text (Text.lower target)) with
        | error fault => rfl
        | ok dialect => rfl

end Options

namespace Settings

variable {data entries : Entries}

/-- The section of generation is a mapping, or it does not count as given and has no entries. -/
def IsSection (data entries : Entries) : Prop :=
  (part data "generation").content = .map entries ∨
    (part data "generation").truthy = false ∧ entries = []

theorem IsSection.entriesOf_eq (isSection : IsSection data entries) :
    entriesOf (part data "generation") = .ok entries := by
  unfold entriesOf
  rcases isSection with mapping | ⟨absent, rfl⟩
  · have given := (part data "generation").truthy_content
    rw [mapping] at given ⊢
    rw [← given]
    cases entries with
    | nil => rfl
    | cons entry rest => rfl
  · rw [absent]
    rfl

theorem generationOptions_eq (data : Entries) (target : Option Text) :
    generationOptions data target = entriesOf (part data "generation") >>= fun entries =>
      Options.checked (overridden entries (target.getD [])) := rfl

theorem overridden_of_set {target : Text} (set : target ≠ []) (entries : Entries) :
    overridden entries target = entries.put (.text "target_dialect") (.text target) := by
  have filled : target.isEmpty = false := by simpa using set
  simp only [overridden, filled, Bool.false_eq_true, if_false]

theorem IsSection.generationOptions_eq (isSection : IsSection data entries) (target : Option Text) :
    generationOptions data target = Options.checked (overridden entries (target.getD [])) := by
  rw [Settings.generationOptions_eq, isSection.entriesOf_eq, Outcome.ok_bind]

/-- Without a variable, or with an empty one, the section counts alone. -/
theorem IsSection.generationOptions_unset (isSection : IsSection data entries) {target : Option Text}
    (unset : target.getD [] = []) : generationOptions data target = Options.checked entries := by
  rw [isSection.generationOptions_eq, unset]
  rfl

/-- A variable that is set goes before what the section says about the target. -/
theorem IsSection.generationOptions_set (isSection : IsSection data entries)
    (once : entries.Once "target_dialect") {target : Text} (set : target ≠ []) :
    generationOptions data (some target) =
      Options.checked (entries.without "target_dialect") >>= fun options =>
        Options.checkTarget (.text (Text.lower target)) >>= fun _ =>
          .ok { options with target := .text (Text.lower target) } := by
  rw [isSection.generationOptions_eq, Option.getD_some, overridden_of_set set, Options.checked_put once]

/-- Whatever the section is, options that are accepted under a variable have the target of the variable. -/
theorem target_of_generationOptions {target : Text} (set : target ≠ []) {options : Options}
    (accepted : generationOptions data (some target) = .ok options) :
    options.target = .text (Text.lower target) := by
  rw [generationOptions_eq] at accepted
  obtain ⟨entries, _, rest⟩ := Outcome.bind_eq_ok.mp accepted
  rw [Option.getD_some, overridden_of_set set] at rest
  obtain ⟨found, read, rest⟩ := Outcome.bind_eq_ok.mp rest
  obtain ⟨_, _, same⟩ := Outcome.bind_eq_ok.mp rest
  cases same
  exact Options.target_of_put read

theorem target_of_load {path : Option Text} {settings : Settings} {world after : World}
    (loaded : load path world = (.ok settings, after)) {target : Text}
    (given : world.lookUp? "ENUMERANT_TARGET" = some target) (set : target ≠ []) :
    settings.generation.target = .text (Text.lower target) := by
  obtain ⟨data, _, _, _, accepted, _⟩ := load_eq_ok loaded
  rw [given] at accepted
  exact target_of_generationOptions set accepted

end Settings

namespace Action

variable {α β γ : Type}

theorem bind_assoc (action : Action α) (next : α → Action β) (last : β → Action γ) :
    (action >>= next) >>= last = action >>= fun a => next a >>= last := by
  funext world
  cases done : action world with
  | mk outcome after =>
    cases outcome with
    | ok a =>
      rw [bind_of_ok done]
      cases again : next a after with
      | mk outcome later =>
        have joined : (action >>= next) world = (outcome, later) := (bind_of_ok done).trans again
        cases outcome with
        | ok b => rw [bind_of_ok joined, bind_of_ok again]
        | error fault => rw [bind_of_error joined, bind_of_error again]
    | error fault =>
      rw [bind_of_error done, bind_of_error (bind_of_error done)]

theorem bind_congr_of_ok {action : Action α} {next next' : α → Action β} {world : World}
    (same : ∀ a after, action world = (.ok a, after) → next a after = next' a after) :
    (action >>= next) world = (action >>= next') world := by
  cases done : action world with
  | mk outcome after =>
    cases outcome with
    | ok a => rw [bind_of_ok done, bind_of_ok done, same a after done]
    | error fault => rw [bind_of_error done, bind_of_error done]

end Action

namespace Settings

/-- How the target of a variable and that of a section go together. -/
structure TakesTarget (entries : Entries) : Prop where
  /-- Under a variable, sections that differ in the target alone make no difference. -/
  hidden : ∀ entries', entries.Once "target_dialect" → entries'.Once "target_dialect" →
    entries'.without "target_dialect" = entries.without "target_dialect" →
    ∀ data data', IsSection data entries → IsSection data' entries' → ∀ value : Text, value ≠ [] →
      generationOptions data' (some value) = generationOptions data (some value)
  /-- A variable is the target. -/
  set : ∀ data value options, value ≠ [] → generationOptions data (some value) = .ok options →
    options.target = .text (Text.lower value)
  /-- Without a variable, the section decides. -/
  unset : ∀ data value, IsSection data entries → value.getD [] = [] →
    generationOptions data value = Options.checked entries
  /-- The section gives the target, or leaves the default. -/
  taken : ∀ options, Options.checked entries = .ok options →
    Options.Field.Takes entries .target options.target

theorem takesTarget (entries : Entries) : TakesTarget entries where
  hidden entries' once once' agree data data' isSection isSection' value set := by
    rw [isSection.generationOptions_set once set, isSection'.generationOptions_set once' set, agree]
  set _ _ _ set accepted := target_of_generationOptions set accepted
  unset _ _ isSection unset := isSection.generationOptions_unset unset
  taken _ accepted := Options.takes_of_checked accepted

end Settings

/-! ## Runs in two dialects -/

/-- Two lists of results of the same items, side by side. -/
theorem Outcome.forall₂_beside {α β γ : Type} {related : α → β → Prop} {related' : α → γ → Prop}
    {items : List α} {results : List β} {others : List γ} (each : List.Forall₂ related items results)
    (each' : List.Forall₂ related' items others) :
    List.Forall₂ (fun result other => ∃ item, related item result ∧ related' item other) results others := by
  induction each generalizing others with
  | nil =>
    cases each'
    exact .nil
  | @cons item result items results head _ ih =>
    obtain ⟨other, rest, head', tail', rfl⟩ := List.forall₂_cons_left_iff.mp each'
    exact .cons ⟨item, head, head'⟩ (ih tail')

/-- Batches with the same failures and the same fragments, which are printed in a dialect each. -/
structure Batch.Reprints (dialect dialect' : Dialect) (batch batch' : Batch) : Prop where
  failures : batch'.failures = batch.failures
  outputs : List.Forall₂ (fun output output' =>
      output'.typeName = output.typeName ∧ output'.fragment = output.fragment ∧
      ((Printer.ofDialect dialect).render output.fragment).outcome = .ok output.text ∧
      ((Printer.ofDialect dialect').render output'.fragment).outcome = .ok output'.text)
    batch.outputs batch'.outputs

theorem Batch.Divides.reprints {generator : Generator} {dialect dialect' : Dialect}
    {descriptors : List Descriptor} {batch batch' : Batch}
    (divides : batch.Divides generator (.ofDialect dialect) descriptors)
    (divides' : batch'.Divides generator (.ofDialect dialect') descriptors) :
    batch.Reprints dialect dialect' batch' where
  failures := divides'.failures.trans divides.failures.symm
  outputs := by
    refine (Outcome.forall₂_beside divides.outputs divides'.outputs).imp ?_
    rintro output output' ⟨descriptor, isOf, isOf'⟩
    refine ⟨isOf'.named.trans isOf.named.symm, ?_, (Printer.render_outcome _ _).trans isOf.printed,
      (Printer.render_outcome _ _).trans isOf'.printed⟩
    exact Except.ok.inj (isOf'.generated.symm.trans isOf.generated)

theorem Batch.Reprints.finished_eq {dialect dialect' : Dialect} {batch batch' : Batch}
    (reprints : batch.Reprints dialect dialect' batch') :
    Pipeline.finished batch' = Pipeline.finished batch := by
  rw [Pipeline.finished, Pipeline.finished, reprints.failures, reprints.outputs.length_eq]

namespace Pipeline

/-- What is recorded besides the texts that are printed. -/
def unprinted (records : List Log.Record) : List Log.Record :=
  records.filter fun record => record.logger != Log.rendererLogger

/-- Two runs do the same up to what they print: they end with the same fault, or with the same fragments and
failures, and only their printers leave different records. -/
structure SameButPrint (dialect dialect' : Dialect) (first second : Traced Batch) : Prop where
  ends : (∃ fault, first.outcome = .error fault ∧ second.outcome = .error fault) ∨
    ∃ batch batch', first.outcome = .ok batch ∧ second.outcome = .ok batch' ∧
      batch.Reprints dialect dialect' batch'
  records : unprinted second.records = unprinted first.records

variable (generator : Generator) (dialect dialect' : Dialect) (failFast : Bool)

/-- Whether a type has a text does not depend on the dialect. -/
theorem isSome_text_ofDialect (descriptor : Descriptor) :
    ((Pipeline.mk generator (.ofDialect dialect') failFast).text? descriptor).isSome =
      ((Pipeline.mk generator (.ofDialect dialect) failFast).text? descriptor).isSome := by
  unfold text?
  cases (generator.generate descriptor).outcome with
  | error fault => rfl
  | ok f =>
    rw [Outcome.ok_bind, Outcome.ok_bind, Printer.layOut_ofDialect, Printer.layOut_ofDialect]
    split <;> rfl

theorem goesOn_ofDialect (descriptor : Descriptor) :
    (Pipeline.mk generator (.ofDialect dialect') failFast).goesOn descriptor =
      (Pipeline.mk generator (.ofDialect dialect) failFast).goesOn descriptor := by
  rw [goesOn, goesOn, isSome_text_ofDialect generator dialect dialect']

theorem unprinted_traceOf (descriptor : Descriptor) :
    unprinted ((Pipeline.mk generator (.ofDialect dialect') failFast).traceOf descriptor) =
      unprinted ((Pipeline.mk generator (.ofDialect dialect) failFast).traceOf descriptor) := by
  have dropped (dialect : Dialect) (text : Option Text) :
      unprinted (text.map (descriptor.printed dialect)).toList = [] := by
    cases text <;> rfl
  unfold traceOf
  split
  · unfold unprinted at dropped ⊢
    rw [List.filter_append, List.filter_append, dropped, dropped]
  · rfl

theorem unprinted_trace (descriptors : List Descriptor) :
    unprinted ((Pipeline.mk generator (.ofDialect dialect') failFast).trace descriptors) =
      unprinted ((Pipeline.mk generator (.ofDialect dialect) failFast).trace descriptors) := by
  induction descriptors with
  | nil => rfl
  | cons descriptor descriptors ih =>
    have head := unprinted_traceOf generator dialect dialect' failFast descriptor
    unfold unprinted at head ih ⊢
    rw [trace, trace, goesOn_ofDialect generator dialect dialect', List.filter_append, List.filter_append, head]
    split
    · rw [ih]
    · rfl

end Pipeline

namespace Command

variable {words : List Text} {world : World} {arguments : Arguments}

/-- The run of a command does the same for every target, up to what it prints. -/
theorem sameButPrint_pipeline {descriptors : List Descriptor} (generator : Generator)
    (shaped : ∀ descriptor ∈ descriptors, ∀ variant ∈ descriptor.variants,
      ∃ shape, variant.payload.classify = .ok shape)
    (canShow : ∀ descriptor ∈ descriptors, generator.CanShow descriptor)
    (arguments : Arguments) (target : Option Dialect) :
    Pipeline.SameButPrint (arguments.target.getD generator.recipe.target)
      (target.getD generator.recipe.target) ((pipeline arguments generator).run descriptors)
      ((pipeline { arguments with target := target } generator).run descriptors) := by
  obtain ⟨returning, failing⟩ := (pipeline arguments generator).run_records shaped
  obtain ⟨returning', failing'⟩ :=
    (pipeline { arguments with target := target } generator).run_records shaped
  have traced := Pipeline.unprinted_trace generator (arguments.target.getD generator.recipe.target)
    (target.getD generator.recipe.target) arguments.failFast descriptors
  by_cases going : arguments.failFast = false ∨ ∀ descriptor ∈ descriptors, descriptor.kind = .sum
  · obtain ⟨batch, ended, divides⟩ := pipeline_going generator shaped canShow going
    obtain ⟨batch', ended', divides'⟩ :=
      @pipeline_going { arguments with target := target } _ generator shaped canShow going
    have reprints := divides.reprints divides'
    refine ⟨.inr ⟨batch, batch', ended, ended', reprints⟩, ?_⟩
    rw [returning batch ended, returning' batch' ended', reprints.finished_eq]
    unfold Pipeline.unprinted at traced ⊢
    rw [List.filter_append, List.filter_append]
    exact congrArg (· ++ _) traced
  · -- Both runs stop at the first type that is not a sum type.
    obtain ⟨stopping, others⟩ := not_or.mp going
    push Not at others
    obtain ⟨descriptor, first⟩ := Outcome.exists_first.mpr others
    have stops : arguments.failFast = true := by simpa using stopping
    have ended := pipeline_stopping generator shaped canShow stops first
    have ended' :=
      @pipeline_stopping { arguments with target := target } _ generator shaped canShow stops _ first
    refine ⟨.inl ⟨_, ended, ended'⟩, ?_⟩
    rw [failing _ ended, failing' _ ended']
    exact traced

/-! ## Before and after the run -/

/-- What a command does before the run. The target has no part in it. -/
def prepare (arguments : Arguments) : Action (Generator × List Descriptor) := do
  let settings ← Settings.load arguments.config
  Action.setUpLogging (logLevel arguments settings) (logFile settings)
  let generator ← Action.ofExcept (Generator.make settings.generation none)
  let descriptors ← Descriptor.load arguments.descriptors
  return (generator, descriptors)

/-- What a command does after the run. The target has no part in it. -/
def conclude (arguments : Arguments) : Except Fault Batch → Action Nat
  | .ok batch => finish arguments batch
  | .error fault => match exitCode? fault with
    | some code => do
        reportError fault.text
        return code
    | none => Action.fail fault

theorem execute_eq (arguments : Arguments) (world : World) :
    execute arguments world = conclude arguments (generate arguments world).1 (generate arguments world).2 := by
  cases done : generate arguments world with
  | mk outcome after =>
    have attempted : Action.attempt (generate arguments) world = (.ok outcome, after) := by
      rw [Action.attempt, done]
    rw [execute, Action.bind_of_ok attempted]
    cases outcome with
    | ok batch => rfl
    | error fault => rfl

theorem generate_eq (arguments : Arguments) (world : World) :
    generate arguments world = (prepare arguments >>= fun start =>
      Action.ofTraced ((pipeline arguments start.1).run start.2)) world := by
  unfold generate prepare
  simp only [Action.bind_assoc]
  refine Action.bind_congr_of_ok fun settings configured loaded => ?_
  refine Action.bind_congr_of_ok fun _ ready _ => ?_
  -- The options of settings that were loaded have passed the check, so there is a printer for every target.
  obtain ⟨recipe, checked⟩ := Settings.check_of_load loaded
  rw [Action.bind_of_ok (Action.ofExcept_eq_ok.mpr ⟨Generator.make_of_check checked, rfl⟩),
    Action.bind_of_ok (Action.ofExcept_eq_ok.mpr ⟨Generator.make_of_check checked, rfl⟩),
    Action.bind_of_ok (Action.ofExcept_eq_ok.mpr ⟨printer_of_check checked arguments, rfl⟩)]
  rfl

/-- A command that comes as far as its run has loaded settings, and its types have shapes and can be shown. -/
theorem prepare_eq_ok {generator : Generator} {descriptors : List Descriptor} {ready : World}
    (done : prepare arguments world = (.ok (generator, descriptors), ready)) :
    (∃ settings after, Settings.load arguments.config world = (.ok settings, after) ∧
      settings.generation.target.content = .text generator.recipe.target.name) ∧
    (∀ descriptor ∈ descriptors, ∀ variant ∈ descriptor.variants,
      ∃ shape, variant.payload.classify = .ok shape) ∧
    ∀ descriptor ∈ descriptors, generator.CanShow descriptor := by
  obtain ⟨settings, configured, loaded, afterLoading⟩ := Action.bind_eq_ok.mp done
  obtain ⟨_, _, _, afterSetup⟩ := Action.bind_eq_ok.mp afterLoading
  obtain ⟨_, _, made, afterMaking⟩ := Action.bind_eq_ok.mp afterSetup
  obtain ⟨found, rfl⟩ := Action.ofExcept_eq_ok.mp made
  obtain ⟨_, _, described, returned⟩ := Action.bind_eq_ok.mp afterMaking
  cases returned
  obtain ⟨_, _, _, afterReading⟩ := Action.bind_eq_ok.mp described
  obtain ⟨_, _, _, afterParsing⟩ := Action.bind_eq_ok.mp afterReading
  obtain ⟨_, _, decoded, afterDecoding⟩ := Action.bind_eq_ok.mp afterParsing
  obtain ⟨_, _, _, same⟩ := Action.bind_eq_ok.mp afterDecoding
  cases same
  have wellFormed (descriptor : Descriptor) (member : descriptor ∈ descriptors) :=
    Descriptor.wellFormed_of_decodeDocument (Action.ofExcept_eq_ok.mp decoded).1 member
  refine ⟨⟨settings, configured, loaded, ?_⟩, fun descriptor member =>
    (wellFormed descriptor member).shaped, fun descriptor member => ?_⟩
  · obtain ⟨recipe, checked⟩ := Settings.check_of_load loaded
    cases found.symm.trans (Generator.make_of_check checked)
    exact Options.checkTarget_eq_ok (Options.check_eq_ok.mp checked).2.2.2.2.2.2
  · exact Settings.canShow_of_load loaded found (wellFormed descriptor member)

theorem run_of_prepare {generator : Generator} {descriptors : List Descriptor} {ready : World}
    (parsed : Arguments.parse words = .ok arguments)
    (done : prepare arguments world = (.ok (generator, descriptors), ready)) :
    run words world = conclude arguments ((pipeline arguments generator).run descriptors).outcome
      (ready.recordAll ((pipeline arguments generator).run descriptors).records) := by
  have generated : generate arguments world =
      Action.ofTraced ((pipeline arguments generator).run descriptors) ready := by
    rw [generate_eq, Action.bind_of_ok done]
  rw [run, parsed]
  simp only
  rw [execute_eq, generated]
  rfl

theorem run_of_unprepared {fault : Fault} {after : World} (parsed : Arguments.parse words = .ok arguments)
    (failed : prepare arguments world = (.error fault, after)) :
    run words world = conclude arguments (.error fault) after := by
  have generated : generate arguments world = (.error fault, after) := by
    rw [generate_eq, Action.bind_of_error failed]
  rw [run, parsed]
  simp only
  rw [execute_eq, generated]

theorem conclude_settings {fault : Fault} (rejected : fault.isSettings = true) (world : World) :
    conclude arguments (.error fault) world = (.ok 2, world.printError (errorLine fault.text)) := by
  cases fault with
  | settings cause field => rfl
  | _ => cases rejected

/-! ## Where the target comes from -/

/-- What commands have in common that differ in the target alone. -/
structure Retargets (words words' : List Text) (arguments : Arguments) (target : Option Dialect)
    (world : World) : Prop where
  /-- Settings that are refused end both before the run. -/
  unloaded : ∀ fault after, Settings.load arguments.config world = (.error fault, after) →
    prepare arguments world = (.error fault, after)
  /-- What ends one before the run ends the other in the same way. -/
  refused : ∀ fault after, prepare arguments world = (.error fault, after) →
    run words' world = run words world ∧
    (fault.isSettings = true → run words world = (.ok 2, after.printError (errorLine fault.text)))
  /-- Their runs end in the same way, but for the dialect that the fragments are printed in. -/
  ran : ∀ generator descriptors ready, prepare arguments world = (.ok (generator, descriptors), ready) →
    (∃ settings after, Settings.load arguments.config world = (.ok settings, after) ∧
      settings.generation.target.content = .text generator.recipe.target.name) ∧
    (∀ value, world.lookUp? "ENUMERANT_TARGET" = some value → value ≠ [] →
      generator.recipe.target.name = Text.lower value) ∧
    ∃ first second,
      Pipeline.SameButPrint (arguments.target.getD generator.recipe.target)
        (target.getD generator.recipe.target) first second ∧
      run words world = conclude arguments first.outcome (ready.recordAll first.records) ∧
      run words' world = conclude arguments second.outcome (ready.recordAll second.records)

theorem retargets_of_parse {words' : List Text} {target : Option Dialect}
    (parsed : Arguments.parse words = .ok arguments)
    (parsed' : Arguments.parse words' = .ok { arguments with target := target }) (world : World) :
    Retargets words words' arguments target world := by
  refine ⟨fun fault after failed => Action.bind_of_error failed, fun fault after failed => ?_,
    fun generator descriptors ready done => ?_⟩
  · have ended := run_of_unprepared parsed failed
    have failed' : prepare { arguments with target := target } world = (.error fault, after) := failed
    refine ⟨(run_of_unprepared parsed' failed').trans ended.symm, fun rejected => ?_⟩
    rw [ended, conclude_settings rejected]
  · obtain ⟨⟨settings, after, loaded, aimed⟩, shaped, canShow⟩ := prepare_eq_ok done
    refine ⟨⟨settings, after, loaded, aimed⟩, fun value given set => ?_, _, _,
      sameButPrint_pipeline generator shaped canShow arguments target,
      run_of_prepare parsed done, run_of_prepare parsed' done⟩
    rw [Settings.target_of_load loaded given set] at aimed
    exact (Value.text.inj aimed).symm

/-- A target on the command line goes before one in the environment, that goes before one in the section of
generation, and a target that is given nowhere is the default. What is hidden has no effect. Under a variable that
is set, sections that differ in the target alone give the same options or the same fault. Commands that differ in the
target alone do the same before the run and after it: they are refused alike, and their runs end in the same way but
for the dialect that the fragments are printed in. -/
theorem run_target (entries : Entries) (arguments : Arguments) (target : Option Dialect) (world : World) :
    Settings.TakesTarget entries ∧
      ∀ words words', Arguments.parse words = .ok arguments →
        Arguments.parse words' = .ok { arguments with target := target } →
        Retargets words words' arguments target world :=
  ⟨Settings.takesTarget entries, fun _ _ parsed parsed' => retargets_of_parse parsed parsed' world⟩

/-- Settings with a target that there is none of. -/
def unknownTarget : String :=
  "\x7b\"generation\": \x7b\"target_dialect\": \"cobol\"\x7d\x7d"

theorem load_unknownTarget :
    ∃ after, Settings.load (some "c.json") (Settings.configured unknownTarget) =
      (.error (.settings (.unsupportedDialect (.text "cobol")) (some (.text "target_dialect"))), after) := by
  have data : Settings.readDocument ⟨[], ["c.json"]⟩ (.text unknownTarget) =
      .ok [(.text "generation", .map [(.text "target_dialect", .text "cobol")])] := by cbv
  have failed := @Settings.load_present (some "c.json") ⟨[], ["c.json"]⟩ (Settings.configured unknownTarget)
    (.text unknownTarget) rfl rfl
  rw [Settings.loadContent, data] at failed
  exact ⟨_, failed⟩

theorem prepare_flagAndPoint :
    ∃ ready, prepare { descriptors := "types.json" } (.holding Document.flagAndPoint) =
      (.ok (.standard, [.flag, .point]), ready) := by
  have prepared : Prepared ["types.json"] (.holding Document.flagAndPoint) { descriptors := "types.json" }
      .unset (.holding Document.flagAndPoint) [.flag, .point] := prepared_holding (by cbv) (by cbv)
  obtain ⟨configured, loaded, logging⟩ := prepared.settled
  have made : Generator.make Settings.unset.generation none = .ok .standard := Generator.make_default
  rw [prepare, Action.bind_of_ok loaded, Action.bind_of_ok logging,
    Action.bind_of_ok (Action.ofExcept_eq_ok.mpr ⟨made, rfl⟩), Action.bind_of_ok prepared.load_eq]
  exact ⟨_, rfl⟩

/-- A target that there is none of is hidden by a variable, but not by the command line. Without settings, a type and
a record are printed in the default, or in the dialect of the command line. -/
theorem run_target_hidden :
    Settings.generationOptions [] (some "PYTHON") =
      Settings.generationOptions
        [(.text "generation", .map [(.text "target_dialect", .text "cobol")])] (some "PYTHON") ∧
    (∃ after, run ["types.json", "--config", "c.json"] (Settings.configured unknownTarget) = (.ok 2, after) ∧
      run ["types.json", "--config", "c.json", "--target", "python"] (Settings.configured unknownTarget) =
        (.ok 2, after)) ∧
    ∃ first second, ∃ ready : World, Pipeline.SameButPrint .rust .python first second ∧
      run ["types.json"] (.holding Document.flagAndPoint) =
        conclude { descriptors := "types.json" } first.outcome (ready.recordAll first.records) ∧
      run ["types.json", "--target", "python"] (.holding Document.flagAndPoint) =
        conclude { descriptors := "types.json" } second.outcome (ready.recordAll second.records) := by
  have once : Entries.Once [(.text "target_dialect", .text "cobol")] "target_dialect" :=
    List.length_filter_le _ _
  have once' : Entries.Once [] "target_dialect" := Nat.zero_le 1
  have agree : Entries.without [] "target_dialect" =
      Entries.without [(.text "target_dialect", .text "cobol")] "target_dialect" :=
    (Entries.without_cons_text _ _).symm
  refine ⟨?_, ?_, ?_⟩
  · obtain ⟨takes, _⟩ := run_target [(.text "target_dialect", .text "cobol")]
      { descriptors := "types.json" } none (.holding Document.flagAndPoint)
    exact takes.hidden [] once once' agree _ [] (.inl rfl) (.inr ⟨rfl, rfl⟩) "PYTHON" (by decide)
  · have words : Arguments.parse ["types.json", "--config", "c.json"] =
        .ok { descriptors := "types.json", config := some "c.json" } := by cbv
    have words' : Arguments.parse ["types.json", "--config", "c.json", "--target", "python"] =
        .ok { descriptors := "types.json", config := some "c.json", target := some .python } := by cbv
    obtain ⟨_, commands⟩ := run_target [] { descriptors := "types.json", config := some "c.json" }
      (some .python) (Settings.configured unknownTarget)
    obtain ⟨unloaded, refused, _⟩ := commands _ _ words words'
    obtain ⟨after, failed⟩ := load_unknownTarget
    obtain ⟨again, told⟩ := refused _ after (unloaded _ after failed)
    exact ⟨_, told rfl, again.trans (told rfl)⟩
  · have words : Arguments.parse ["types.json"] = .ok { descriptors := "types.json" } := by cbv
    have words' : Arguments.parse ["types.json", "--target", "python"] =
        .ok { descriptors := "types.json", target := some .python } := by cbv
    obtain ⟨ready, prepared⟩ := prepare_flagAndPoint
    obtain ⟨_, commands⟩ := run_target [] { descriptors := "types.json" } (some .python)
      (.holding Document.flagAndPoint)
    obtain ⟨_, _, first, second, similar, ended, ended'⟩ :=
      (commands _ _ words words').ran _ _ _ prepared
    exact ⟨first, second, ready, similar, ended, ended'⟩

end Command

end VariantIter
