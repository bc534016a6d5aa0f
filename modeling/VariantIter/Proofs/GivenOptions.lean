import VariantIter.Proofs.Mappings
import VariantIter.Proofs.Misfits
import VariantIter.Proofs.Validation

/-!
Options from a mapping with text keys.

The order of the entries plays no part. Keys that name no option are refused together, listed in ascending
order; without such keys every option is the text of what is given for it, or else its default. What is given is
looked at first, so a value that cannot be shown is the fault even if there are unknown keys.
-/

namespace VariantIter

/-! ## Texts in order -/

namespace Text

/-- The order of texts by code points. -/
def Before (s t : Text) : Prop :=
  s.map CodePoint.code < t.map CodePoint.code

theorem map_code_injective : Function.Injective (List.map CodePoint.code) := by
  refine List.map_injective_iff.mpr fun c d same => ?_
  have read := CodePoint.ofCode?_code c
  rw [same, CodePoint.ofCode?_code] at read
  exact (Option.some.inj read).symm

theorem precedes_iff {s t : Text} : s.precedes t = true ↔ s.Before t := by
  unfold Before
  induction s generalizing t with
  | nil =>
    cases t with
    | nil => simp [precedes]
    | cons d t => simp [precedes]
  | cons c s ih =>
    cases t with
    | nil => simp [precedes]
    | cons d t => simp [precedes, List.cons_lt_cons_iff, ih]

theorem Before.asymm {s t : Text} (before : s.Before t) : ¬ t.Before s :=
  lt_asymm before

theorem Before.trans {s t u : Text} (first : s.Before t) (second : t.Before u) : s.Before u :=
  lt_trans first second

theorem before_of_not_before {s t : Text} (differ : s ≠ t) (after : ¬ s.Before t) : t.Before s := by
  rcases lt_or_gt_of_ne (map_code_injective.ne differ) with before | before
  · exact absurd before after
  · exact before

end Text

/-- A text goes into its place among texts in ascending order. -/
theorem insertKey_text {name : Text} {names : List Text} (ascending : names.Pairwise Text.Before)
    (fresh : name ∉ names) :
    ∃ sorted : List Text, insertKey (.text name) (names.map .text) = .ok (sorted.map .text) ∧
      sorted.Perm (name :: names) ∧ sorted.Pairwise Text.Before := by
  induction names with
  | nil => exact ⟨[name], rfl, .refl _, List.pairwise_singleton _ _⟩
  | cons other names ih =>
    obtain ⟨differ, fresh⟩ := List.ne_and_not_mem_of_not_mem_cons fresh
    obtain ⟨least, ordered⟩ := List.pairwise_cons.mp ascending
    have compared : (Value.text name).precedes (.text other) = .ok (name.precedes other) := rfl
    rw [List.map_cons, insertKey, compared, Outcome.ok_bind]
    by_cases before : name.Before other
    · refine ⟨name :: other :: names, ?_, .refl _, List.pairwise_cons.mpr ⟨?_, ascending⟩⟩
      · rw [if_pos (Text.precedes_iff.mpr before)]
        rfl
      · refine List.forall_mem_cons.mpr ⟨before, ?_⟩
        intro later member
        exact before.trans (least later member)
    · obtain ⟨sorted, inserted, same, sortedOrder⟩ := ih ordered fresh
      refine ⟨other :: sorted, ?_, ?_, List.pairwise_cons.mpr ⟨?_, sortedOrder⟩⟩
      · rw [if_neg (mt Text.precedes_iff.mp before), inserted]
        rfl
      · exact (same.cons other).trans (.swap name other names)
      · intro later member
        rcases List.mem_cons.mp (same.mem_iff.mp member) with rfl | member
        · exact Text.before_of_not_before differ before
        · exact least later member

/-- Different texts are put in ascending order. -/
theorem sortKeys_text {names : List Text} (distinct : names.Nodup) :
    ∃ sorted : List Text, sortKeys (names.map .text) = .ok (sorted.map .text) ∧
      sorted.Perm names ∧ sorted.Pairwise Text.Before := by
  induction names with
  | nil => exact ⟨[], rfl, .refl _, .nil⟩
  | cons name names ih =>
    obtain ⟨fresh, distinct⟩ := List.nodup_cons.mp distinct
    obtain ⟨sorted, done, same, ascending⟩ := ih distinct
    obtain ⟨whole, inserted, same', ascending'⟩ :=
      insertKey_text ascending (mt same.mem_iff.mp fresh)
    refine ⟨whole, ?_, same'.trans (same.cons name), ascending'⟩
    rw [List.map_cons, sortKeys, done, Outcome.ok_bind]
    exact inserted

namespace Options

open VariantIter.Entries (ofFields)

/-! ## Unknown keys -/

/-- The keys that name no option, in the order of the entries. -/
def unknownNames (fields : List (Text × Value)) : List Text :=
  (fields.map Prod.fst).filter fun name => !names.contains name

theorem mem_unknownNames {fields : List (Text × Value)} {name : Text} :
    name ∈ unknownNames fields ↔ name ∈ fields.map Prod.fst ∧ name ∉ names := by
  simp [unknownNames]

theorem isName_text (name : Text) : isName (.text name) = names.contains name :=
  List.any_beq

theorem strangeKeys_ofFields (fields : List (Text × Value)) :
    strangeKeys (ofFields fields) = (unknownNames fields).map .text := by
  induction fields with
  | nil => rfl
  | cons field fields ih =>
    have others : strangeKeys (ofFields (field :: fields)) =
        if names.contains field.1 then strangeKeys (ofFields fields)
        else .text field.1 :: strangeKeys (ofFields fields) := by
      unfold strangeKeys ofFields
      rw [List.map_cons, List.filterMap_cons, isName_text]
      cases names.contains field.1 <;> rfl
    rw [others, ih]
    unfold unknownNames
    rw [List.map_cons, List.filter_cons]
    cases names.contains field.1 <;> rfl

/-- The fault that lists keys in ascending order and is about the first of them. -/
def unknownFault (least : Text) (others : List Text) : Fault :=
  .settings (.unknownOptions ((least :: others).map .text)) (some (.text least))

/-- A fault that lists the given keys and no others, in ascending order. -/
def Lists (keys : List Text) (fault : Fault) : Prop :=
  ∃ least others, fault = unknownFault least others ∧ (least :: others).Perm keys ∧
    (least :: others).Pairwise Text.Before

theorem not_lists_nil {fault : Fault} : ¬ Lists [] fault := by
  rintro ⟨least, others, _, same, _⟩
  cases same.eq_nil

/-- There is one way to list keys in ascending order. -/
theorem Lists.unique {keys keys' : List Text} {fault fault' : Fault} (first : Lists keys fault)
    (second : Lists keys' fault') (same : keys.Perm keys') : fault = fault' := by
  obtain ⟨least, others, rfl, whole, ascending⟩ := first
  obtain ⟨least', others', rfl, whole', ascending'⟩ := second
  have equal : least :: others = least' :: others' := by
    refine List.Perm.eq_of_pairwise ?_ ascending ascending' ((whole.trans same).trans whole'.symm)
    intro s t _ _ before after
    exact absurd after before.asymm
  cases equal
  rfl

theorem refuseUnknown_ofFields {fields : List (Text × Value)} (distinct : (fields.map Prod.fst).Nodup) :
    Outcome.Ends (fun _ => unknownNames fields = []) (Lists (unknownNames fields))
      (refuseUnknown (ofFields fields)) := by
  have strange := strangeKeys_ofFields fields
  obtain ⟨sorted, done, same, ascending⟩ := sortKeys_text (distinct.filter fun name => !names.contains name)
  rw [strangeKeys] at strange
  unfold refuseUnknown
  rw [strange]
  change sortKeys ((unknownNames fields).map .text) = _ at done
  change sorted.Perm (unknownNames fields) at same
  cases unknown : unknownNames fields with
  | nil => rfl
  | cons name others =>
    rw [unknown] at done same
    rw [List.map_cons] at done ⊢
    simp only [done]
    cases sorted with
    | nil => cases same.nil_eq
    | cons least rest => exact ⟨least, rest, rfl, same, ascending⟩

theorem unknownNames_perm {fields fields' : List (Text × Value)} (same : fields.Perm fields') :
    (unknownNames fields).Perm (unknownNames fields') :=
  (same.map Prod.fst).filter _

theorem refuseUnknown_perm {fields fields' : List (Text × Value)}
    (distinct : (fields.map Prod.fst).Nodup) (same : fields.Perm fields') :
    refuseUnknown (ofFields fields') = refuseUnknown (ofFields fields) := by
  have first := refuseUnknown_ofFields distinct
  have second := refuseUnknown_ofFields ((same.map Prod.fst).nodup distinct)
  have keys := unknownNames_perm same
  cases outcome : refuseUnknown (ofFields fields) with
  | ok done =>
    rw [first.ok outcome] at keys
    cases outcome' : refuseUnknown (ofFields fields') with
    | ok done' => rfl
    | error fault =>
      have listed := second.error outcome'
      rw [← keys.nil_eq] at listed
      exact absurd listed not_lists_nil
  | error fault =>
    cases outcome' : refuseUnknown (ofFields fields') with
    | ok done =>
      have listed := first.error outcome
      rw [second.ok outcome'] at keys
      rw [keys.eq_nil] at listed
      exact absurd listed not_lists_nil
    | error fault' => rw [(first.error outcome).unique (second.error outcome') keys]

theorem literals_text (names : List Text) :
    Value.literals [] (names.map .text) = names.map Text.literal := by
  induction names with
  | nil => rfl
  | cons name names ih =>
    rw [List.map_cons, List.map_cons, Value.literals, ih]
    rfl

theorem text_unknownFault (least : Text) (others : List Text) :
    (unknownFault least others).text =
      "Unknown generation options: [" ++ Text.joined ", " ((least :: others).map Text.literal) ++
        "] (key=" ++ least ++ ")" := by
  have opening : Text.ofString "Unknown generation options: [" =
      Text.ofString "Unknown generation options: " ++ "[" := rfl
  have closing : Text.ofString "] (key=" = "]" ++ (" (" ++ ("key" ++ "=")) := rfl
  show "Unknown generation options: " ++
    ("[" ++ Text.joined ", " (Value.literals [] ((least :: others).map .text)) ++ "]") ++
      " (" ++ Text.joined ", " ["key" ++ "=" ++ least] ++ ")" = _
  rw [literals_text, opening, closing]
  simp [Text.joined, List.intercalate]

/-- Texts can be shown, so the fault is reported as it is. -/
theorem reported_unknownFault (least : Text) (others : List Text) :
    (unknownFault least others).reported = unknownFault least others := by
  apply Fault.reported_of_isShowable
  have listed : Value.allShowable ((least :: others).map .text) = true := by
    rw [Value.allShowable_iff]
    intro key member
    obtain ⟨name, _, rfl⟩ := List.mem_map.mp member
    rfl
  rw [unknownFault, Fault.isShowable, SettingsFault.isShowable, Value.isShowable, listed]
  rfl

/-! ## Given values -/

/-- How an option is spelled: the target is put in small letters. -/
def Field.spell : Field → Text → Text
  | .target, s => Text.lower s
  | _, s => s

/-- What is read for an option. -/
def Field.read (entries : Entries) : Field → Except Fault Value
  | .target => givenTarget entries (({} : Options).get .target)
  | field => given entries field.name (({} : Options).get field)

/-- The value of an option is the text of what is given for it, or its default. -/
structure Field.Takes (entries : Entries) (field : Field) (value : Value) : Prop where
  given : ∀ held, entries.get? field.name = some held →
    held.isShowable = true ∧ value = .text (field.spell held.display)
  default : entries.get? field.name = none → value = ({} : Options).get field

/-- The fault about a value that is given for an option and cannot be shown. -/
def Hides (entries : Entries) (fault : Fault) : Prop :=
  fault = .range .unshowable ∧
    ∃ field : Field, ∃ held, entries.get? field.name = some held ∧ held.isShowable = false

theorem Field.read_of_some {entries : Entries} {field : Field} {held : Value}
    (found : entries.get? field.name = some held) :
    field.read entries = held.shown >>= fun s => .ok (.text (field.spell s)) := by
  cases field with
  | target =>
    rw [name] at found
    rw [read, givenTarget, found]
    rfl
  | _ =>
    simp only [read, Options.given, found]
    rfl

theorem Field.read_of_none {entries : Entries} {field : Field}
    (absent : entries.get? field.name = none) :
    field.read entries = .ok (({} : Options).get field) := by
  cases field with
  | target =>
    rw [name] at absent
    rw [read, givenTarget, absent]
  | _ => simp only [read, Options.given, absent]

theorem Field.read_ends (entries : Entries) (field : Field) :
    Outcome.Ends (field.Takes entries) (Hides entries) (field.read entries) := by
  cases found : entries.get? field.name with
  | none =>
    rw [read_of_none found]
    exact ⟨by simp [found], fun _ => rfl⟩
  | some held =>
    rw [read_of_some found, Value.shown]
    by_cases showable : held.isShowable = true
    · rw [if_pos showable, Outcome.ok_bind]
      refine ⟨?_, by simp [found]⟩
      intro other same
      cases found.symm.trans same
      exact ⟨showable, rfl⟩
    · rw [if_neg showable]
      exact ⟨rfl, field, held, found, by simpa using showable⟩

/-- The options as they are given, before unknown keys are looked for. -/
def readAll (entries : Entries) : Except Fault Options := do
  return {
    capability := ← Field.read entries .capability
    stem := ← Field.read entries .stem
    entry := ← Field.read entries .entry
    mapping := ← Field.read entries .mapping
    counter := ← Field.read entries .counter
    target := ← Field.read entries .target }

theorem ofEntries_eq_readAll (entries : Entries) :
    ofEntries entries = readAll entries >>= fun options => refuseUnknown entries >>= fun _ => .ok options := by
  unfold ofEntries readAll
  simp only [bind_assoc]
  rfl

theorem readAll_ends (entries : Entries) :
    Outcome.Ends (fun options => ∀ field : Field, field.Takes entries (options.get field)) (Hides entries)
      (readAll entries) := by
  have read := Field.read_ends entries
  refine (read .capability).bind fun capability first => ?_
  refine (read .stem).bind fun stem second => ?_
  refine (read .entry).bind fun entry third => ?_
  refine (read .mapping).bind fun mapping fourth => ?_
  refine (read .counter).bind fun counter fifth => ?_
  refine (read .target).bind fun target sixth => ?_
  intro field
  cases field with
  | capability => exact first
  | stem => exact second
  | entry => exact third
  | mapping => exact fourth
  | counter => exact fifth
  | target => exact sixth

/-- Only what is found under names of options counts. -/
theorem readAll_congr {entries others : Entries} (same : ∀ name, others.get? name = entries.get? name) :
    readAll others = readAll entries := by
  have read : ∀ field : Field, field.read others = field.read entries := by
    intro field
    cases found : entries.get? field.name with
    | none => rw [Field.read_of_none found, Field.read_of_none ((same _).trans found)]
    | some held => rw [Field.read_of_some found, Field.read_of_some ((same _).trans found)]
  simp only [readAll, read]

/-- What is given is looked at before unknown keys are. -/
theorem ofEntries_of_unshowable {entries : Entries} {field : Field} {held : Value}
    (found : entries.get? field.name = some held) (unshowable : held.isShowable = false) :
    ofEntries entries = .error (.range .unshowable) := by
  rw [ofEntries_eq_readAll]
  cases outcome : readAll entries with
  | ok options =>
    have showable := (((readAll_ends entries).ok outcome field).given held found).1
    cases showable.symm.trans unshowable
  | error fault =>
    obtain ⟨rfl, _⟩ := (readAll_ends entries).error outcome
    rfl

/-- If all that is given can be shown, only unknown keys are refused. -/
theorem ofEntries_of_showable {entries : Entries}
    (showable : ∀ (field : Field) held, entries.get? field.name = some held → held.isShowable = true) :
    ∃ options, (∀ field : Field, field.Takes entries (options.get field)) ∧
      ofEntries entries = refuseUnknown entries >>= fun _ => .ok options := by
  rw [ofEntries_eq_readAll]
  cases outcome : readAll entries with
  | ok options => exact ⟨options, (readAll_ends entries).ok outcome, rfl⟩
  | error fault =>
    obtain ⟨_, field, held, found, unshowable⟩ := (readAll_ends entries).error outcome
    cases (showable field held found).symm.trans unshowable

/-! ## Mappings with text keys -/

variable {fields : List (Text × Value)}

theorem ofEntries_perm {fields' : List (Text × Value)} (distinct : (fields.map Prod.fst).Nodup)
    (same : fields.Perm fields') : ofEntries (ofFields fields') = ofEntries (ofFields fields) := by
  have permuted : (ofFields fields).Perm (ofFields fields') := same.map _
  have found := (Entries.distinct_ofFields.mpr distinct).get?_perm permuted
  rw [ofEntries_eq_readAll, ofEntries_eq_readAll, refuseUnknown_perm distinct same,
    readAll_congr found]

theorem get?_ofFields (distinct : (fields.map Prod.fst).Nodup) {name : Text} {value : Value} :
    (ofFields fields).get? name = some value ↔ (name, value) ∈ fields := by
  rw [(Entries.distinct_ofFields.mpr distinct).get?_eq_some_iff, Entries.mem_ofFields]

theorem showable_ofFields (distinct : (fields.map Prod.fst).Nodup)
    (showable : ∀ (field : Field) value, (field.name, value) ∈ fields → value.isShowable = true)
    (field : Field) (held : Value) (found : (ofFields fields).get? field.name = some held) :
    held.isShowable = true :=
  showable field held ((get?_ofFields distinct).mp found)

/-- Keys that name no option are listed in ascending order. -/
theorem ofEntries_of_unknown (distinct : (fields.map Prod.fst).Nodup)
    (showable : ∀ (field : Field) value, (field.name, value) ∈ fields → value.isShowable = true)
    (unknown : ∃ name ∈ fields.map Prod.fst, name ∉ names) :
    ∃ fault, ofEntries (ofFields fields) = .error fault ∧ Lists (unknownNames fields) fault := by
  obtain ⟨options, _, whole⟩ := ofEntries_of_showable (showable_ofFields distinct showable)
  rw [whole]
  cases outcome : refuseUnknown (ofFields fields) with
  | error fault => exact ⟨fault, rfl, (refuseUnknown_ofFields distinct).error outcome⟩
  | ok done =>
    obtain ⟨name, member, unnamed⟩ := unknown
    have listed := mem_unknownNames.mpr ⟨member, unnamed⟩
    rw [(refuseUnknown_ofFields distinct).ok outcome] at listed
    cases listed

/-- Without such keys nothing is refused. -/
theorem ofEntries_of_known (distinct : (fields.map Prod.fst).Nodup)
    (showable : ∀ (field : Field) value, (field.name, value) ∈ fields → value.isShowable = true)
    (known : ∀ name ∈ fields.map Prod.fst, name ∈ names) :
    ∃ options, ofEntries (ofFields fields) = .ok options ∧
      ∀ field : Field, field.Takes (ofFields fields) (options.get field) := by
  obtain ⟨options, takes, whole⟩ := ofEntries_of_showable (showable_ofFields distinct showable)
  rw [whole]
  cases outcome : refuseUnknown (ofFields fields) with
  | ok done => exact ⟨options, rfl, takes⟩
  | error fault =>
    obtain ⟨least, others, _, same, _⟩ := (refuseUnknown_ofFields distinct).error outcome
    obtain ⟨member, unknown⟩ := mem_unknownNames.mp (same.mem_iff.mp List.mem_cons_self)
    exact absurd (known least member) unknown

/-- Options are read from a mapping with text keys alike for every order of its entries. A value given for an
option that cannot be shown is a fault whatever else there is. Otherwise keys that name no option are refused, and
the fault lists exactly those, each once and in ascending order, and is about the least. Without such keys every
option is the text of what is given for it, the target in small letters, or its default. -/
theorem ofEntries_canonical (distinct : (fields.map Prod.fst).Nodup) :
    (∀ fields', fields.Perm fields' →
      ofEntries (ofFields fields') = ofEntries (ofFields fields)) ∧
    ((∃ (field : Field) (value : Value), (field.name, value) ∈ fields ∧ value.isShowable = false) →
      ofEntries (ofFields fields) = .error (.range .unshowable)) ∧
    ((∀ (field : Field) (value : Value), (field.name, value) ∈ fields → value.isShowable = true) →
      ((∃ name ∈ fields.map Prod.fst, name ∉ names) →
        ∃ least others, ofEntries (ofFields fields) = .error (unknownFault least others) ∧
          (least :: others).Pairwise Text.Before ∧
          (∀ name, name ∈ least :: others ↔ name ∈ fields.map Prod.fst ∧ name ∉ names) ∧
          (unknownFault least others).reported = unknownFault least others ∧
          (unknownFault least others).text =
            "Unknown generation options: [" ++ Text.joined ", " ((least :: others).map Text.literal) ++
              "] (key=" ++ least ++ ")") ∧
      ((∀ name ∈ fields.map Prod.fst, name ∈ names) →
        ∃ options, ofEntries (ofFields fields) = .ok options ∧ ∀ field : Field,
          (∀ value, (field.name, value) ∈ fields →
            options.get field = .text (field.spell value.display)) ∧
          ((∀ value, (field.name, value) ∉ fields) →
            options.get field = ({} : Options).get field))) := by
  refine ⟨fun fields' => ofEntries_perm distinct, ?_, fun showable => ⟨?_, ?_⟩⟩
  · rintro ⟨field, value, member, unshowable⟩
    exact ofEntries_of_unshowable ((get?_ofFields distinct).mpr member) unshowable
  · intro unknown
    obtain ⟨_, failed, least, others, rfl, same, ascending⟩ :=
      ofEntries_of_unknown distinct showable unknown
    refine ⟨least, others, failed, ascending, ?_, reported_unknownFault least others,
      text_unknownFault least others⟩
    intro name
    rw [same.mem_iff, mem_unknownNames]
  · intro known
    obtain ⟨options, done, takes⟩ := ofEntries_of_known distinct showable known
    refine ⟨options, done, fun field => ⟨?_, ?_⟩⟩
    · intro value member
      exact ((takes field).given value ((get?_ofFields distinct).mpr member)).2
    · intro absent
      refine (takes field).default (Entries.get?_eq_none_iff.mpr ?_)
      intro value member
      exact absent value (Entries.mem_ofFields.mp member)

/-- Fields with two keys that name no option, not in order. -/
def strangeFields : List (Text × Value) :=
  [("zeta", .bool true), ("target_dialect", .text "PYTHON"), ("alpha", .null)]

/-- Fields that name two options. -/
def knownFields : List (Text × Value) :=
  [("target_dialect", .text "PYTHON"), ("entry_name", .bool true)]

theorem ofEntries_canonical_mixed :
    ofEntries (ofFields strangeFields.reverse) = ofEntries (ofFields strangeFields) ∧
    (∃ least others, ofEntries (ofFields strangeFields) = .error (unknownFault least others) ∧
      (least :: others).Pairwise Text.Before ∧ ("zeta" : Text) ∈ least :: others ∧
      ("alpha" : Text) ∈ least :: others ∧ ("target_dialect" : Text) ∉ least :: others) ∧
    ∃ options, ofEntries (ofFields knownFields) = .ok options ∧ options.target = .text "python" ∧
      options.entry = .text "True" ∧ options.stem = .text Naming.defaultStem := by
  have strangeShown : ∀ (field : Field) (value : Value), (field.name, value) ∈ strangeFields →
      value.isShowable = true := by
    intro field value member
    simp only [strangeFields, List.mem_cons, Prod.mk.injEq, List.not_mem_nil, or_false] at member
    rcases member with ⟨_, rfl⟩ | ⟨_, rfl⟩ | ⟨_, rfl⟩ <;> rfl
  have knownShown : ∀ (field : Field) (value : Value), (field.name, value) ∈ knownFields →
      value.isShowable = true := by
    intro field value member
    simp only [knownFields, List.mem_cons, Prod.mk.injEq, List.not_mem_nil, or_false] at member
    rcases member with ⟨_, rfl⟩ | ⟨_, rfl⟩ <;> rfl
  have strange := @ofEntries_canonical strangeFields (by decide)
  have known := @ofEntries_canonical knownFields (by decide)
  refine ⟨strange.1 _ (List.reverse_perm _).symm, ?_, ?_⟩
  · obtain ⟨least, others, failed, ascending, exactly, _⟩ :=
      (strange.2.2 strangeShown).1 ⟨"zeta", by decide, by decide⟩
    exact ⟨least, others, failed, ascending, (exactly "zeta").mpr (by decide),
      (exactly "alpha").mpr (by decide), mt (exactly "target_dialect").mp (by decide)⟩
  · obtain ⟨options, done, takes⟩ := (known.2.2 knownShown).2 (by decide)
    refine ⟨options, done, (takes .target).1 _ List.mem_cons_self, ?_, (takes .stem).2 ?_⟩
    · exact (takes .entry).1 _ (List.mem_cons_of_mem _ List.mem_cons_self)
    · intro value member
      have key : Field.stem.name ∈ knownFields.map Prod.fst := List.mem_map_of_mem member
      exact absurd key (by decide)

/-- An integer of too many digits is the fault, although one key names no option. -/
theorem ofEntries_hugeEntry :
    ("zzz" : Text) ∉ names ∧
      ofEntries (ofFields [("entry_name", .int Value.showLimit), ("zzz", .int 1)]) =
        .error (.range .unshowable) := by
  exact ⟨by decide, @ofEntries_of_unshowable _ .entry _ rfl Value.isShowable_showLimit⟩

end Options

end VariantIter
