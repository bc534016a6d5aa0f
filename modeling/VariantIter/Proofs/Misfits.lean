import VariantIter.Command
import VariantIter.Proofs.KeyOrder
import VariantIter.Proofs.LogSetup
import VariantIter.Proofs.Saving

/-!
Settings of the wrong kind.

A document that is no mapping is refused as settings, and so is every option that does not pass its
check. But the sections of a mapping are opened unchecked, and the level and the file of the log are taken
as they are, so a value of the wrong kind there ends in a fault that is not about settings. Main
statement: for every document in JSON, loading it ends with such a fault exactly if a section is of the
wrong kind, and setting up the log from what was loaded exactly if its level or its file is.
-/

namespace VariantIter

open Json (Readable ReadableEntries)
open Outcome (Accounted)

/-! ## Kinds of faults -/

namespace Fault

/-- A fault of the settings. -/
def isSettings : Fault → Bool
  | .settings _ _ => true
  | _ => false

/-- A fault of the settings that is reported as it is. -/
def Told (fault : Fault) : Prop :=
  fault.isSettings = true ∧ fault.isShowable = true

/-- Another fault that is reported as it is. -/
def Stray (fault : Fault) : Prop :=
  fault.isSettings = false ∧ fault.isShowable = true

end Fault

/-! ## The section of generation -/

namespace Settings

/-- An item that stands for a key and a value. -/
def IsPair (item : Value) : Prop :=
  ∃ key value, item.items? = some [key, value] ∧ key.unhashable? = none

/-- Why an item at an index is no pair: it has no parts, not two of them, or a first part that is no key. -/
inductive NoPair (index : Nat) (item : Value) : Fault → Prop
  | single (whole : item.items? = none) : NoPair index item (.kind (.notSequence index))
  | length {parts : List Value} (listed : item.items? = some parts) (other : parts.length ≠ 2) :
      NoPair index item (.range (.pairLength index parts.length))
  | key {key value : Value} {kind : Text} (listed : item.items? = some [key, value])
      (unhashable : key.unhashable? = some kind) : NoPair index item (.kind (.notHashable kind))

theorem pairOf_ends (index : Nat) (item : Value) :
    Outcome.Ends (fun _ => IsPair item) (NoPair index item) (pairOf index item) := by
  unfold pairOf
  split
  · next whole => exact .single whole
  · next key value listed =>
    cases hashed : key.unhashable? with
    | none => exact ⟨key, value, listed, hashed⟩
    | some kind => exact .key listed hashed
  · next parts twoless listed =>
    refine .length listed fun two => ?_
    obtain ⟨key, value, rfl⟩ := List.length_eq_two.mp two
    exact twoless key value rfl

theorem NoPair.not_isPair {index : Nat} {item : Value} {fault : Fault}
    (bad : NoPair index item fault) : ¬ IsPair item := by
  rintro ⟨key, value, listed, hashed⟩
  cases bad with
  | single whole => cases whole.symm.trans listed
  | length listed' other =>
    cases listed'.symm.trans listed
    exact other rfl
  | key listed' unhashable =>
    cases listed'.symm.trans listed
    cases unhashable.symm.trans hashed

/-- The first item that is no pair. -/
def FirstNoPair (index : Nat) (items : List Value) (fault : Fault) : Prop :=
  ∃ before item after, items = before ++ item :: after ∧ (∀ other ∈ before, IsPair other) ∧
    NoPair (index + before.length) item fault

theorem pairsFrom_ends (index : Nat) (items : List Value) :
    Outcome.Ends (fun _ => ∀ item ∈ items, IsPair item) (FirstNoPair index items)
      (pairsFrom index items) := by
  induction items generalizing index with
  | nil => exact List.forall_mem_nil _
  | cons item items ih =>
    unfold pairsFrom
    cases paired : pairOf index item with
    | error fault =>
      have bad := (pairOf_ends index item).error paired
      exact ⟨[], item, items, rfl, List.forall_mem_nil _, bad⟩
    | ok pair =>
      have good : IsPair item := (pairOf_ends index item).ok paired
      rw [Outcome.ok_bind]
      -- A fault of a later item has counted this one.
      refine Outcome.Ends.bind ((ih (index + 1)).imp (fun _ holds => holds) ?_) ?_
      · rintro fault ⟨before, other, after, rfl, pairs, bad⟩
        refine ⟨item :: before, other, after, rfl, List.forall_mem_cons.mpr ⟨good, pairs⟩, ?_⟩
        rwa [List.length_cons, Nat.add_comm before.length, ← Nat.add_assoc]
      · exact fun _ pairs => List.forall_mem_cons.mpr ⟨good, pairs⟩

/-- Why a section cannot be opened: it counts as given and is neither a mapping nor a list of pairs. -/
inductive Misshapen (part : Value) : Fault → Prop
  | single (given : part.truthy = true) (whole : part.items? = none) :
      Misshapen part (.kind (.notIterable part.qualifiedKind))
  | item {items : List Value} {fault : Fault} (noMapping : ∀ entries, part ≠ .map entries)
      (listed : part.items? = some items) (bad : FirstNoPair 0 items fault) : Misshapen part fault

theorem not_firstNoPair {index : Nat} {items : List Value} (pairs : ∀ item ∈ items, IsPair item)
    (fault : Fault) : ¬ FirstNoPair index items fault := by
  rintro ⟨before, item, after, rfl, _, bad⟩
  exact bad.not_isPair (pairs item (by simp))

/-- What does not count as given has no items. -/
theorem items_of_not_truthy {part : Value} {items : List Value} (readable : Readable part)
    (absent : part.truthy = false) (listed : part.items? = some items) : items = [] := by
  rw [Value.items?, readable.content_eq] at listed
  cases readable with
  | text _ | list _ | map _ _ =>
    cases listed
    simpa [Value.truthy] using absent
  | _ => cases listed

theorem entriesOf_ends {part : Value} (readable : Readable part) :
    Outcome.Ends (fun _ => ∀ fault, ¬ Misshapen part fault) (Misshapen part) (entriesOf part) := by
  unfold entriesOf
  cases given : part.truthy with
  | false =>
    intro fault misshapen
    cases misshapen with
    | single present _ => cases given.symm.trans present
    | item _ listed bad =>
      cases items_of_not_truthy readable given listed
      exact not_firstNoPair (List.forall_mem_nil _) _ bad
  | true =>
    simp only [Bool.not_true, Bool.false_eq_true, if_false]
    rw [readable.content_eq]
    split
    · intro fault misshapen
      cases misshapen with
      | single _ whole => cases whole
      | item noMapping _ _ => exact noMapping _ rfl
    · next items noMapping listed =>
      refine Outcome.Ends.bind ((pairsFrom_ends 0 items).imp (fun _ holds => holds) ?_) ?_
      · exact fun fault bad => .item noMapping listed bad
      · intro pairs all fault misshapen
        cases misshapen with
        | single _ whole => cases whole.symm.trans listed
        | item _ listed' bad =>
          cases listed'.symm.trans listed
          exact not_firstNoPair all _ bad
    · next whole => exact .single given whole

end Settings

/-! ## Options of generation -/

namespace Options

/-- The keys that name no option. -/
def strangeKeys (entries : Entries) : List Value :=
  entries.filterMap fun entry => if isName entry.1 then none else some entry.1

/-- All options are texts. -/
def Spelled (options : Options) : Prop :=
  ∀ entry ∈ options.toEntries, ∃ s : Text, entry.2 = .text s

theorem shown_of_get? {entries : Entries} (showable : Value.entriesShowable entries = true)
    {name : Text} {value : Value} (found : entries.get? name = some value) :
    value.shown = .ok value.display := by
  rw [Value.shown, if_pos (Entries.isShowable_of_get? showable found)]

theorem exists_given {entries : Entries} (showable : Value.entriesShowable entries = true)
    (name default : Text) : ∃ s : Text, given entries name (.text default) = .ok (.text s) := by
  unfold given
  cases found : entries.get? name with
  | none => exact ⟨default, rfl⟩
  | some value =>
    simp only [shown_of_get? showable found]
    exact ⟨value.display, rfl⟩

theorem exists_givenTarget {entries : Entries} (showable : Value.entriesShowable entries = true)
    (default : Text) : ∃ s : Text, givenTarget entries (.text default) = .ok (.text s) := by
  unfold givenTarget
  cases found : entries.get? "target_dialect" with
  | none => exact ⟨default, rfl⟩
  | some value =>
    simp only [shown_of_get? showable found]
    exact ⟨Text.lower value.display, rfl⟩

/-- Options that can be shown are texts, and only strange keys are refused. -/
theorem ofEntries_eq {entries : Entries} (showable : Value.entriesShowable entries = true) :
    ∃ options, options.Spelled ∧
      ofEntries entries = refuseUnknown entries >>= fun _ => .ok options := by
  obtain ⟨capability, first⟩ := exists_given showable "capability_name" "EnumIterator"
  obtain ⟨stem, second⟩ := exists_given showable "iterator_prefix" Naming.defaultStem
  obtain ⟨entry, third⟩ := exists_given showable "entry_name" "enum_iter"
  obtain ⟨mapping, fourth⟩ := exists_given showable "mapping_name" "get"
  obtain ⟨counter, fifth⟩ := exists_given showable "counter_name" "idx"
  obtain ⟨target, targeted⟩ := exists_givenTarget showable "rust"
  refine ⟨⟨.text capability, .text stem, .text entry, .text mapping, .text counter, .text target⟩,
    ?_, ?_⟩
  · simp [Spelled, toEntries]
  · unfold ofEntries
    simp only [first, second, third, fourth, fifth, targeted, Outcome.ok_bind]
    rfl

theorem refuseUnknown_ends {entries : Entries}
    (readable : ∀ key ∈ strangeKeys entries, Readable key) :
    Outcome.Ends (fun _ => ∀ fault, ¬ Clash (strangeKeys entries) fault)
      (fun fault => (fault.Told ∧ ∀ other, ¬ Clash (strangeKeys entries) other) ∨
        Clash (strangeKeys entries) fault)
      (refuseUnknown entries) := by
  unfold refuseUnknown
  cases strange : strangeKeys entries with
  | nil =>
    rw [strangeKeys] at strange
    rw [strange]
    exact not_clash_of_pairwise .nil
  | cons key keys =>
    rw [strange] at readable
    rw [strangeKeys] at strange
    rw [strange]
    refine Outcome.Ends.bind ((sortKeys_ends readable).imp (fun _ holds => holds) fun _ => .inr) ?_
    rintro sorted ⟨same, alike⟩
    have each : ∀ other ∈ sorted, other.isShowable = true :=
      fun other member => (readable other (same.mem_iff.mp member)).isShowable
    have listed : (SettingsFault.unknownOptions sorted).isShowable = true :=
      Value.allShowable_iff.mpr each
    refine .inl ⟨⟨rfl, Bool.and_eq_true_iff.mpr ⟨listed, ?_⟩⟩, not_clash_of_pairwise alike⟩
    cases sorted with
    | nil => rfl
    | cons first others =>
      have shown := each first List.mem_cons_self
      cases first with
      | null => rfl
      | _ => exact shown

theorem checkStem_ends (s : Text) :
    Outcome.Ends (fun _ => True) Fault.Told (checkStem (.text s)) :=
  Outcome.ends_ite (fun _ => trivial) fun _ => ⟨rfl, rfl⟩

theorem checkName_ends (option s : Text) :
    Outcome.Ends (fun _ => True) Fault.Told (checkName option (.text s)) :=
  Outcome.ends_ite (fun _ => trivial) fun _ => ⟨rfl, rfl⟩

theorem checkTarget_ends (s : Text) :
    Outcome.Ends (fun _ => True) Fault.Told (checkTarget (.text s)) := by
  simp only [checkTarget, Value.content]
  cases Dialect.ofName? s with
  | none => exact ⟨rfl, rfl⟩
  | some dialect => trivial

/-- Options that are texts pass the check or are refused as settings. -/
theorem check_ends {options : Options} (spelled : options.Spelled) :
    Outcome.Ends (fun _ => True) Fault.Told options.check := by
  obtain ⟨capability, stem, entry, mapping, counter, target⟩ := options
  simp only [Spelled, toEntries, List.forall_mem_cons] at spelled
  obtain ⟨⟨_, rfl⟩, ⟨_, rfl⟩, ⟨_, rfl⟩, ⟨_, rfl⟩, ⟨_, rfl⟩, ⟨_, rfl⟩, _⟩ := spelled
  unfold check
  refine Outcome.ends_ite (fun _ => ⟨rfl, rfl⟩) fun _ => ?_
  refine (checkStem_ends _).bind fun stem _ => ?_
  refine (checkName_ends _ _).bind fun entry _ => ?_
  refine (checkName_ends _ _).bind fun mapping _ => ?_
  refine (checkName_ends _ _).bind fun counter _ => ?_
  exact (checkTarget_ends _).bind fun target _ => trivial

theorem strangeKeys_put {entries : Entries} {name : Text} (known : isName (.text name) = true)
    (value : Value) :
    strangeKeys (entries.put (.text name) value) = strangeKeys entries := by
  induction entries with
  | nil => simp [Entries.put, strangeKeys, known]
  | cons entry entries ih =>
    rw [Entries.put]
    split
    · rfl
    · unfold strangeKeys at ih ⊢
      rw [List.filterMap_cons, List.filterMap_cons, ih]

end Options

namespace Settings

open Options (strangeKeys)

/-- Why a section holds no options of generation, other than that the options are refused. -/
inductive NoGeneration (part : Value) : Fault → Prop
  | shape {fault : Fault} (misshapen : Misshapen part fault) : NoGeneration part fault
  | keys {entries : Entries} {fault : Fault} (opened : entriesOf part = .ok entries)
      (clash : Clash (strangeKeys entries) fault) : NoGeneration part fault

/-- The section of a document under a name. -/
def part (data : Entries) (name : Text) : Value :=
  (data.get? name).getD .null

theorem not_noGeneration {part : Value} {entries : Entries} (readable : Readable part)
    (opened : entriesOf part = .ok entries)
    (ordered : ∀ fault, ¬ Clash (strangeKeys entries) fault) (fault : Fault) :
    ¬ NoGeneration part fault := by
  rintro (⟨misshapen⟩ | ⟨opened', clash⟩)
  · exact (entriesOf_ends readable).ok opened fault misshapen
  · cases opened'.symm.trans opened
    exact ordered fault clash

/-- The entries with the target of the environment, if it is not empty. -/
def overridden (entries : Entries) (target : Text) : Entries :=
  if target.isEmpty then entries else entries.put (.text "target_dialect") (.text target)

/-- The variable of the environment sets an option, so it adds no strange key. -/
theorem strangeKeys_overridden (entries : Entries) (target : Text) :
    strangeKeys (overridden entries target) = strangeKeys entries := by
  unfold overridden
  split
  · rfl
  · exact Options.strangeKeys_put rfl _

theorem showable_overridden {entries : Entries} (readable : ReadableEntries entries) (target : Text) :
    Value.entriesShowable (overridden entries target) = true := by
  have each : ∀ entry ∈ entries, entry.1.isShowable = true ∧ entry.2.isShowable = true :=
    fun entry member => ⟨(readable entry member).1.isShowable, (readable entry member).2.isShowable⟩
  refine Value.entriesShowable_iff.mpr ?_
  unfold overridden
  split
  · exact each
  · exact @Entries.forall_put (fun value => value.isShowable = true) entries _ _ each rfl rfl

theorem generationOptions_ends {data : Entries} (readable : ReadableEntries data)
    (target : Option Text) :
    Outcome.Ends (fun _ => ∀ fault, ¬ NoGeneration (part data "generation") fault)
      (fun fault => (fault.Told ∧ ∀ other, ¬ NoGeneration (part data "generation") other) ∨
        NoGeneration (part data "generation") fault)
      (generationOptions data target) := by
  have ofPart : Readable (part data "generation") := readable.getD _ .null
  unfold generationOptions
  -- The target is put in after the section is opened and before its options are read.
  change Outcome.Ends _ _ (entriesOf (part data "generation") >>= fun entries =>
    Options.ofEntries (overridden entries (target.getD [])) >>= fun options =>
      options.check >>= fun _ => .ok options)
  cases opened : entriesOf (part data "generation") with
  | error fault => exact .inr (.shape ((entriesOf_ends ofPart).error opened))
  | ok entries =>
    have inside := readable_of_entriesOf ofPart opened
    have keys := strangeKeys_overridden entries (target.getD [])
    have strange : ∀ key ∈ strangeKeys entries, Readable key := by
      intro key member
      obtain ⟨entry, among, same⟩ := List.mem_filterMap.mp member
      split at same
      · cases same
      · cases same
        exact (inside entry among).1
    obtain ⟨options, spelled, built⟩ :=
      Options.ofEntries_eq (showable_overridden inside (target.getD []))
    have refused := Options.refuseUnknown_ends (keys ▸ strange)
    rw [keys] at refused
    have fine := not_noGeneration ofPart opened
    rw [Outcome.ok_bind, built]
    cases refusal : Options.refuseUnknown (overridden entries (target.getD [])) with
    | error fault =>
      rcases refused.error refusal with ⟨told, ordered⟩ | clash
      · exact .inl ⟨told, fine ordered⟩
      · exact .inr (.keys opened clash)
    | ok _ =>
      have ordered := refused.ok refusal
      rw [Outcome.ok_bind, Outcome.ok_bind]
      cases checked : options.check with
      | error fault => exact .inl ⟨(Options.check_ends spelled).error checked, fine ordered⟩
      | ok recipe => exact fine ordered

/-! ## Loading -/

/-- Why a section holds no options of logging: it counts as given and is no mapping. -/
def NoLogging (part : Value) (fault : Fault) : Prop :=
  part.truthy = true ∧ (∀ entries, part ≠ .map entries) ∧
    fault = .noAttribute part.qualifiedKind "get"

theorem loggingOptions_ends {data : Entries} (readable : ReadableEntries data)
    (level : Option Text) :
    Outcome.Ends (fun _ => ∀ fault, ¬ NoLogging (part data "logging") fault)
      (NoLogging (part data "logging")) (loggingOptions data level) := by
  have ofPart := readable.getD "logging" .null
  unfold loggingOptions part
  simp only
  generalize (data.get? "logging").getD .null = value at ofPart ⊢
  cases given : value.truthy with
  | false => exact fun fault wrong => absurd (given.symm.trans wrong.1) Bool.false_ne_true
  | true =>
    simp only [Bool.not_true, Bool.false_eq_true, if_false]
    rw [ofPart.content_eq]
    cases ofPart with
    | map keys values => exact fun fault wrong => wrong.2.1 _ rfl
    | _ => exact ⟨given, by simp, rfl⟩

/-- The entries of a document; only a mapping has some. -/
def dataOf (value : Value) : Entries :=
  match value.content with
  | .map entries => entries
  | _ => []

/-- What a section of the wrong kind ends loading with. The section of generation is looked at first. -/
inductive Misfit (target : Option Text) (data : Entries) : Fault → Prop
  | generation {fault : Fault} (wrong : NoGeneration (part data "generation") fault) :
      Misfit target data fault
  | logging {options : Options} {fault : Fault}
      (generated : generationOptions data target = .ok options)
      (wrong : NoLogging (part data "logging") fault) : Misfit target data fault

/-- The data of a document: its entries, unless it is refused since it is no mapping. -/
theorem readDocument_ends {file : Path} {content : Content} {value : Value}
    (json : Document.isYaml file = false) (parsed : Document.read false content = .ok value) :
    Outcome.Ends (fun data => data = dataOf value) (fun fault => fault.Told ∧ dataOf value = [])
      (readDocument file content) := by
  rw [readDocument, json, parsed]
  unfold dataOf
  simp only
  cases value.content with
  | null => rfl
  | map entries => rfl
  | _ => exact ⟨⟨rfl, rfl⟩, rfl⟩

theorem not_misfit_nil {target : Option Text} (fault : Fault) : ¬ Misfit target [] fault := by
  rintro (⟨wrong⟩ | ⟨_, wrong⟩)
  · exact not_noGeneration .null rfl (not_clash_of_pairwise .nil) fault wrong
  · cases wrong.1

theorem NoGeneration.stray {part : Value} {fault : Fault} (wrong : NoGeneration part fault) :
    fault.Stray := by
  rcases wrong with (_ | ⟨_, _, bad⟩) | ⟨_, _, _, _, _, rfl⟩
  · exact ⟨rfl, rfl⟩
  · obtain ⟨_, _, _, _, _, single | length | key⟩ := bad
    all_goals exact ⟨rfl, rfl⟩
  · exact ⟨rfl, rfl⟩

theorem load_accounted {path : Option Text} {file : Path} {world : World} {content : Content}
    {value : Value} (found : filePath path world = (.ok file, world))
    (held : Action.read file world = (.ok content, world))
    (json : Document.isYaml file = false) (parsed : Document.read false content = .ok value) :
    Accounted Fault.isSettings (Misfit (world.lookUp? "ENUMERANT_TARGET") (dataOf value))
      (load path world).1 := by
  rw [load_present found held, loadContent]
  cases read : readDocument file content with
  | error fault =>
    obtain ⟨⟨isSettings, showable⟩, empty⟩ := (readDocument_ends json parsed).error read
    rw [empty]
    refine .inl ⟨?_, not_misfit_nil⟩
    rwa [Fault.reported_of_isShowable showable]
  | ok data =>
    have readable := readable_of_readDocument json read
    obtain rfl : data = dataOf value := (readDocument_ends json parsed).ok read
    have generationEnds := generationOptions_ends readable (world.lookUp? "ENUMERANT_TARGET")
    have loggingEnds := loggingOptions_ends readable (world.lookUp? "ENUMERANT_LOG_LEVEL")
    show Accounted _ _ ((ofData file (dataOf value) world).mapError Fault.reported)
    rw [ofData]
    cases generated : generationOptions (dataOf value) (world.lookUp? "ENUMERANT_TARGET") with
    | error fault =>
      rcases generationEnds.error generated with ⟨⟨isSettings, showable⟩, none⟩ | wrong
      · refine .inl ⟨?_, ?_⟩
        · rwa [Fault.reported_of_isShowable showable]
        -- After a refusal the section of logging is not looked at.
        · rintro other (⟨wrong⟩ | ⟨generated', _⟩)
          · exact none other wrong
          · cases generated'.symm.trans generated
      · obtain ⟨other, showable⟩ := wrong.stray
        refine .inr ?_
        rw [Fault.reported_of_isShowable showable]
        exact ⟨other, .generation wrong⟩
    | ok generation =>
      have none := generationEnds.ok generated
      rw [Outcome.ok_bind]
      cases logs : loggingOptions (dataOf value) (world.lookUp? "ENUMERANT_LOG_LEVEL") with
      | error fault =>
        obtain ⟨given, noMapping, rfl⟩ := loggingEnds.error logs
        exact .inr ⟨rfl, .logging generated ⟨given, noMapping, rfl⟩⟩
      | ok logging =>
        rintro fault (⟨wrong⟩ | ⟨_, wrong⟩)
        · exact none fault wrong
        · exact loggingEnds.ok logs fault wrong

end Settings

namespace Command

/-- The level and the file of the log as settings that were loaded have them. -/
theorem readable_logging {path : Option Text} {file : Path} {world after : World} {settings : Settings}
    (found : Settings.filePath path world = (.ok file, world))
    (json : Document.isYaml file = false)
    (loaded : Settings.load path world = (.ok settings, after)) (arguments : Arguments) :
    (Readable (logLevel arguments settings) ∨ ∃ name, logLevel arguments settings = .text name) ∧
      Readable (logFile settings) ∧
      (logLevel arguments settings = .null → after.lookUp? "ENUMERANT_LOG_LEVEL" = none) := by
  obtain ⟨data, found', hasData, ⟨record, rfl⟩, _, logs⟩ := Settings.load_eq_ok loaded
  cases found.symm.trans found'
  obtain ⟨entries, inside, level, enabled, place⟩ :=
    Settings.exists_of_loggingOptions (hasData.readable json) logs
  rw [World.lookUp_record]
  refine ⟨?_, ?_, ?_⟩
  · unfold logLevel
    cases arguments.logLevel.getD [] with
    | cons c text => exact .inr ⟨_, rfl⟩
    | nil =>
      rw [level]
      cases world.lookUp? "ENUMERANT_LOG_LEVEL" with
      | some text => exact .inr ⟨text, rfl⟩
      | none => exact .inl (inside.getD _ (Json.readable_ofString _))
  · unfold logFile
    split
    · rw [place]
      exact inside.getD _ (Json.readable_ofString _)
    · exact .null
  · intro null
    unfold logLevel at null
    split at null
    · cases set : world.lookUp? "ENUMERANT_LOG_LEVEL" with
      | none => rfl
      | some text =>
        rw [level, set] at null
        cases null
    · cases null

end Command

namespace Settings

/-- A document in JSON ends loading with a result or a fault of the settings, unless a section of it is of
the wrong kind, and then it ends loading with one of the faults that this causes. From settings that were
loaded the log is set up as well, unless there is something about its file, or its level or its file is of
the wrong kind; then one of the faults that this causes comes out. -/
theorem load_misfits {path : Option Text} {file : Path} {world : World} {content : Content}
    {value : Value} (found : filePath path world = (.ok file, world))
    (held : Action.read file world = (.ok content, world))
    (json : Document.isYaml file = false) (parsed : Document.read false content = .ok value) :
    ((∀ fault, (load path world).1 = .error fault →
        fault.isSettings = true ∨ Misfit (world.lookUp? "ENUMERANT_TARGET") (dataOf value) fault) ∧
      ((∃ fault, (load path world).1 = .error fault ∧ fault.isSettings = false) ↔
        ∃ fault, Misfit (world.lookUp? "ENUMERANT_TARGET") (dataOf value) fault)) ∧
    ∀ settings after arguments, load path world = (.ok settings, after) →
      let level := Command.logLevel arguments settings
      let log := Command.logFile settings
      (∀ fault, (Action.setUpLogging level log after).1 = .error fault →
        fault.isFile = true ∨ Action.NoLog after level log fault) ∧
      ((∃ fault, (Action.setUpLogging level log after).1 = .error fault ∧ fault.isFile = false) ↔
        ∃ fault, Action.NoLog after level log fault) := by
  refine ⟨(load_accounted found held json parsed).faults, ?_⟩
  intro settings after arguments loaded
  obtain ⟨ofLevel, ofFile, unset⟩ := Command.readable_logging found json loaded arguments
  exact (Action.setUpLogging_accounted ofLevel ofFile unset).faults

/-- Surroundings with settings and nothing else. -/
def configured (document : String) : World where
  tree := ⟨[(["c.json"], .file (.text document))]⟩

/-- A list of pairs, but for its second item. -/
def unpaired : String :=
  "\x7b\"generation\": [[\"entry_name\", \"all\"], 5]\x7d"

theorem load_misfits_unpaired :
    filePath (some "c.json") (configured unpaired) =
        (.ok ⟨[], ["c.json"]⟩, configured unpaired) ∧
      ∃ fault, (load (some "c.json") (configured unpaired)).1 = .error fault ∧
        fault.isSettings = false := by
  have found : filePath (some "c.json") (configured unpaired) =
      (.ok ⟨[], ["c.json"]⟩, configured unpaired) := rfl
  have parsed : Document.read false (.text unpaired) = .ok (.map [(.text "generation",
      .list [.list [.text "entry_name", .text "all"], .int 5])]) := by cbv
  have first : FirstNoPair 0 [.list [.text "entry_name", .text "all"], .int 5]
      (.kind (.notSequence 1)) :=
    ⟨[_], _, [], rfl, List.forall_mem_singleton.mpr ⟨_, _, rfl, rfl⟩, .single rfl⟩
  have misshapen : Misshapen (.list [.list [.text "entry_name", .text "all"], .int 5])
      (.kind (.notSequence 1)) := .item (by simp) rfl first
  have misfits := (load_misfits found rfl rfl parsed).1.2
  exact ⟨found, misfits.mpr ⟨_, .generation (.shape misshapen)⟩⟩

/-- A section that is a number, and a level that is one, are not refused as settings. -/
theorem load_numbers :
    (load (some "c.json") (configured "\x7b\"generation\": 5\x7d")).1 =
      .error (.kind (.notIterable "int")) ∧
    ∃ settings after,
      load (some "c.json") (configured "\x7b\"logging\": \x7b\"level\": 5\x7d\x7d") =
        (.ok settings, after) ∧
      (Action.setUpLogging (Command.logLevel { descriptors := "t.json" } settings)
        (Command.logFile settings) after).1 = .error (.noAttribute "int" "upper") := by
  have opened : readDocument ⟨[], ["c.json"]⟩ (.text "\x7b\"generation\": 5\x7d") =
      .ok [(.text "generation", .int 5)] := by cbv
  have level : readDocument ⟨[], ["c.json"]⟩
      (.text "\x7b\"logging\": \x7b\"level\": 5\x7d\x7d") =
        .ok [(.text "logging", .map [(.text "level", .int 5)])] := by cbv
  constructor
  · rw [@load_present _ ⟨[], ["c.json"]⟩ _ (.text "\x7b\"generation\": 5\x7d") rfl rfl, loadContent,
      opened]
    rfl
  · exact ⟨_, _, load_of_present rfl rfl level rfl rfl, rfl⟩

end Settings

end VariantIter
