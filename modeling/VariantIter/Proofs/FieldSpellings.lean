import Mathlib.Data.List.Nodup
import VariantIter.Proofs.Attribution
import VariantIter.Proofs.Mappings

/-!
Spellings of named fields.

The named fields of a variant can be written as a list, where each item is a pair or a mapping of its own,
or as one mapping. Main statement: all spellings of the same names and field types have the same outcome.
Either the fields are the pairs in order, or the first pair that has something wrong decides; in a pair, the
name is looked at first, then whether it is new, then the field type.
-/

namespace VariantIter

/-- Trimming leaves something of a text unless it is blank. -/
theorem Text.trim_ne_nil_iff {s : Text} : trim s ≠ [] ↔ ∃ c ∈ s, isBlank c = false := by
  have blanks : trim s = [] ↔ ∀ c ∈ s, isBlank c = true := by
    rw [trim, dropRight, List.reverse_eq_nil_iff, List.dropWhile_eq_nil_iff]
    simp only [List.mem_reverse]
    constructor
    · intro rest c member
      rw [← List.takeWhile_append_dropWhile (p := isBlank) (l := s), List.mem_append] at member
      rcases member with skipped | kept
      · exact List.mem_takeWhile_imp skipped
      · exact rest c kept
    · intro all c member
      exact all c ((List.dropWhile_suffix isBlank).mem member)
  rw [Ne, blanks]
  simp

namespace Descriptor

open Outcome

variable {type : Option Value}

/-! ## Pairs -/

/-- A value that is an identifier. -/
def IsFieldName (value : Value) : Prop :=
  ∃ name, value = .text name ∧ Identifier.isName name = true

/-- A text that is not blank. -/
def IsFieldType (value : Value) : Prop :=
  ∃ s, value = .text s ∧ ∃ c ∈ s, Text.isBlank c = false

/-- All names are identifiers and differ from each other, and all field types are texts that are not blank. -/
structure AcceptedFields (pairs : List (Value × Value)) : Prop where
  names : ∀ pair ∈ pairs, IsFieldName pair.1
  distinct : (pairs.map Prod.fst).Nodup
  types : ∀ pair ∈ pairs, IsFieldType pair.2

/-- The field of a pair has its name, and its field type without the blanks around it. -/
def IsFieldOf (pair : Value × Value) (field : Text × TypeRef) : Prop :=
  pair.1 = .text field.1 ∧ ∃ s, pair.2 = .text s ∧ field.2 = .ref (Text.trim s)

/-- What is wrong with a pair that stands after others with the given names. -/
inductive FieldWrong (earlier : List Value) : Value × Value → DescriptorFault → Prop
  | name {name fieldType : Value} (invalid : ¬ IsFieldName name) :
      FieldWrong earlier (name, fieldType) (.invalidIdentifier name)
  | repeated {name : Text} {fieldType : Value} (accepted : Identifier.isName name = true)
      (again : .text name ∈ earlier) : FieldWrong earlier (.text name, fieldType) (.duplicateField name)
  | type {name fieldType : Value} (accepted : IsFieldName name) (fresh : name ∉ earlier)
      (invalid : ¬ IsFieldType fieldType) :
      FieldWrong earlier (name, fieldType) (.invalidFieldType fieldType)

/-- Of all pairs that have something wrong, the first one, and what is wrong with it. -/
def FirstWrong (pairs : List (Value × Value)) (cause : DescriptorFault) : Prop :=
  ∃ before pair after, pairs = before ++ pair :: after ∧ AcceptedFields before ∧
    FieldWrong (before.map Prod.fst) pair cause

theorem decodeType_of_isFieldType (type : Option Value) {value : Value} (typed : IsFieldType value) :
    ∃ s, value = .text s ∧ decodeType type value = .ok (.ref (Text.trim s)) := by
  obtain ⟨s, rfl, filled⟩ := typed
  exact ⟨s, rfl, decodeType_eq_ok.mpr ⟨s, rfl, Text.trim_ne_nil_iff.mpr filled, rfl⟩⟩

theorem isFieldType_of_decodeType {value : Value} {fieldType : TypeRef}
    (decoded : decodeType type value = .ok fieldType) : IsFieldType value := by
  obtain ⟨s, same, filled, _⟩ := decodeType_eq_ok.mp decoded
  exact ⟨s, same, Text.trim_ne_nil_iff.mp filled⟩

/-! ## One pair -/

/-- What is wrong depends only on which names came earlier. -/
theorem FieldWrong.congr {earlier earlier' : List Value} {pair : Value × Value}
    {cause : DescriptorFault} (wrong : FieldWrong earlier pair cause)
    (same : ∀ name, name ∈ earlier ↔ name ∈ earlier') : FieldWrong earlier' pair cause := by
  cases wrong with
  | name invalid => exact .name invalid
  | repeated accepted again => exact .repeated accepted ((same _).mp again)
  | type accepted fresh invalid =>
    refine .type accepted ?_ invalid
    rwa [← same]

/-- A pair with something wrong is no new name with a field type. -/
theorem FieldWrong.not_accepted {earlier : List Value} {pair : Value × Value}
    {cause : DescriptorFault} (wrong : FieldWrong earlier pair cause) (named : IsFieldName pair.1)
    (typed : IsFieldType pair.2) : pair.1 ∈ earlier := by
  cases wrong with
  | name invalid => exact absurd named invalid
  | repeated accepted again => exact again
  | type accepted fresh invalid => exact absurd typed invalid

theorem FieldWrong.isShowable {earlier : List Value} {pair : Value × Value} {cause : DescriptorFault}
    (wrong : FieldWrong earlier pair cause)
    (showable : pair.1.isShowable = true ∧ pair.2.isShowable = true) : cause.isShowable = true := by
  cases wrong with
  | name invalid => exact showable.1
  | repeated accepted again => rfl
  | type accepted fresh invalid => exact showable.2

/-- A pair has something wrong, or is a new name with a field type. -/
theorem wrong_or_accepted (earlier : List Value) (pair : Value × Value) :
    (∃ cause, FieldWrong earlier pair cause) ∨
      IsFieldName pair.1 ∧ pair.1 ∉ earlier ∧ IsFieldType pair.2 := by
  obtain ⟨key, value⟩ := pair
  by_cases named : IsFieldName key
  · by_cases again : key ∈ earlier
    · obtain ⟨name, rfl, accepted⟩ := named
      exact .inl ⟨_, .repeated accepted again⟩
    · by_cases typed : IsFieldType value
      · exact .inr ⟨named, again, typed⟩
      · exact .inl ⟨_, .type named again typed⟩
  · exact .inl ⟨_, .name named⟩

theorem require_of_not_isFieldName {value : Value} (invalid : ¬ IsFieldName value) :
    Identifier.require value type = .error (.descriptor (.invalidIdentifier value) type) := by
  cases value with
  | text name =>
    rw [Identifier.require, if_neg]
    intro accepted
    exact invalid ⟨name, rfl, accepted⟩
  | _ => rfl

theorem decodeType_of_not_isFieldType {value : Value} (invalid : ¬ IsFieldType value) :
    decodeType type value = .error (.descriptor (.invalidFieldType value) type) := by
  cases decoded : decodeType type value with
  | ok fieldType => exact absurd (isFieldType_of_decodeType decoded) invalid
  | error fault =>
    unfold decodeType at decoded
    simp only at decoded
    split at decoded
    · split at decoded
      · exact decoded.symm
      · cases decoded
    · exact decoded.symm

theorem contains_iff {seen : List Text} {name : Text} :
    seen.contains name = true ↔ Value.text name ∈ seen.map Value.text := by
  rw [List.contains_iff_mem, List.mem_map_of_injective]
  exact fun _ _ same => Value.text.inj same

/-- A pair with something wrong stops the decoding there. -/
theorem decodeFields_of_wrong {seen : List Text} {pair : Value × Value} {cause : DescriptorFault}
    (wrong : FieldWrong (seen.map .text) pair cause) (pairs : List (Value × Value)) :
    decodeFields type seen (pair :: pairs) = .error (.descriptor cause type) := by
  cases wrong with
  | name invalid =>
    rw [decodeFields, require_of_not_isFieldName invalid]
    rfl
  | repeated accepted again =>
    rw [decodeFields, require_eq_ok.mpr ⟨rfl, accepted⟩, ok_bind, if_pos (contains_iff.mpr again)]
    rfl
  | type accepted fresh invalid =>
    obtain ⟨name, rfl, accepted⟩ := accepted
    rw [decodeFields, require_eq_ok.mpr ⟨rfl, accepted⟩, ok_bind,
      if_neg (mt contains_iff.mp fresh), decodeType_of_not_isFieldType invalid]
    rfl

/-- A new name with a field type is the first field, and seen from then on. -/
theorem decodeFields_of_accepted (type : Option Value) {seen : List Text} {pair : Value × Value}
    (named : IsFieldName pair.1) (fresh : pair.1 ∉ seen.map Value.text) (typed : IsFieldType pair.2)
    (pairs : List (Value × Value)) :
    ∃ name field, pair.1 = .text name ∧
      decodeFields type seen (pair :: pairs) =
        (decodeFields type (name :: seen) pairs).map (field :: ·) := by
  obtain ⟨key, value⟩ := pair
  obtain ⟨name, rfl, accepted⟩ := named
  obtain ⟨s, rfl, decoded⟩ := decodeType_of_isFieldType type typed
  refine ⟨name, (name, .ref (Text.trim s)), rfl, ?_⟩
  rw [decodeFields, require_eq_ok.mpr ⟨rfl, accepted⟩, ok_bind, if_neg (mt contains_iff.mp fresh),
    decoded, ok_bind]
  cases decodeFields type (name :: seen) pairs with
  | ok fields => rfl
  | error fault => rfl

/-! ## All pairs -/

theorem AcceptedFields.cons {pair : Value × Value} {pairs : List (Value × Value)} :
    AcceptedFields (pair :: pairs) ↔ IsFieldName pair.1 ∧ pair.1 ∉ pairs.map Prod.fst ∧
      IsFieldType pair.2 ∧ AcceptedFields pairs := by
  constructor
  · intro accepted
    obtain ⟨named, names⟩ := List.forall_mem_cons.mp accepted.names
    obtain ⟨alone, distinct⟩ := List.nodup_cons.mp accepted.distinct
    obtain ⟨typed, types⟩ := List.forall_mem_cons.mp accepted.types
    exact ⟨named, alone, typed, names, distinct, types⟩
  · rintro ⟨named, alone, typed, accepted⟩
    exact ⟨List.forall_mem_cons.mpr ⟨named, accepted.names⟩,
      List.nodup_cons.mpr ⟨alone, accepted.distinct⟩,
      List.forall_mem_cons.mpr ⟨typed, accepted.types⟩⟩

/-- Where all pairs are accepted none has something wrong. -/
theorem AcceptedFields.not_firstWrong {pairs : List (Value × Value)} (accepted : AcceptedFields pairs)
    (cause : DescriptorFault) : ¬ FirstWrong pairs cause := by
  rintro ⟨before, pair, after, rfl, _, wrong⟩
  have member : pair ∈ before ++ pair :: after := by simp
  have again := wrong.not_accepted (accepted.names pair member) (accepted.types pair member)
  have distinct := accepted.distinct
  rw [List.map_append, List.map_cons] at distinct
  exact (List.nodup_append.mp distinct).2.2 pair.1 again pair.1 List.mem_cons_self rfl

/-- Decoding ends with a fault exactly if a pair has something wrong, and the first such pair decides. The
names seen before count as earlier ones. -/
theorem decodeFields_eq_error {seen : List Text} {pairs : List (Value × Value)} {fault : Fault} :
    decodeFields type seen pairs = .error fault ↔
      ∃ before pair after cause, pairs = before ++ pair :: after ∧ AcceptedFields before ∧
        (∀ other ∈ before, other.1 ∉ seen.map Value.text) ∧
        FieldWrong (before.map Prod.fst ++ seen.map .text) pair cause ∧
        fault = .descriptor cause type := by
  -- What is seen grows with every accepted pair, so the induction is over all lists of it.
  induction pairs generalizing seen with
  | nil =>
    constructor
    · intro failed
      cases failed
    · rintro ⟨before, pair, after, cause, split, _⟩
      cases before <;> cases split
  | cons pair pairs ih =>
    rcases wrong_or_accepted (seen.map .text) pair with ⟨cause, wrong⟩ | ⟨named, fresh, typed⟩
    · rw [decodeFields_of_wrong wrong]
      constructor
      · rintro ⟨⟩
        exact ⟨[], pair, pairs, cause, rfl, ⟨by simp, by simp, by simp⟩, by simp, wrong, rfl⟩
      · rintro ⟨before, other, after, cause', split, accepted, unseen, wrong', rfl⟩
        cases before with
        | nil =>
          cases split
          exact (decodeFields_of_wrong wrong pairs).symm.trans (decodeFields_of_wrong wrong' pairs)
        | cons first before =>
          cases split
          obtain ⟨named, _, typed, _⟩ := AcceptedFields.cons.mp accepted
          exact absurd (wrong.not_accepted named typed) (unseen _ List.mem_cons_self)
    · obtain ⟨name, field, same, step⟩ := decodeFields_of_accepted type named fresh typed pairs
      have earlier (before : List (Value × Value)) (key : Value) :
          key ∈ before.map Prod.fst ++ (name :: seen).map .text ↔
            key ∈ (pair :: before).map Prod.fst ++ seen.map .text := by
        rw [List.map_cons, List.map_cons, same]
        simp only [List.mem_append, List.mem_cons]
        tauto
      rw [step, map_eq_error, ih]
      constructor
      · rintro ⟨before, other, after, cause, rfl, accepted, unseen, wrong, rfl⟩
        refine ⟨pair :: before, other, after, cause, rfl, ?_, ?_, wrong.congr (earlier before), rfl⟩
        · refine AcceptedFields.cons.mpr ⟨named, ?_, typed, accepted⟩
          intro again
          obtain ⟨twin, member, named'⟩ := List.mem_map.mp again
          apply unseen twin member
          rw [named', same]
          exact List.mem_cons_self
        · refine List.forall_mem_cons.mpr ⟨fresh, ?_⟩
          intro other member old
          exact unseen other member (List.mem_cons_of_mem _ old)
      · rintro ⟨before, other, after, cause, split, accepted, unseen, wrong, rfl⟩
        cases before with
        | nil =>
          cases split
          exact absurd (wrong.not_accepted named typed) fresh
        | cons first before =>
          cases split
          obtain ⟨_, alone, _, accepted⟩ := AcceptedFields.cons.mp accepted
          refine ⟨before, other, after, cause, rfl, accepted, ?_, wrong.congr ?_, rfl⟩
          · intro twin member old
            rcases List.mem_cons.mp old with again | old
            · exact alone (List.mem_map.mpr ⟨twin, member, again.trans same.symm⟩)
            · exact unseen twin (List.mem_cons_of_mem _ member) old
          · intro key
            exact (earlier before key).symm

theorem decodeFields_firstWrong {pairs : List (Value × Value)} {fault : Fault} :
    decodeFields type [] pairs = .error fault ↔
      ∃ cause, FirstWrong pairs cause ∧ fault = .descriptor cause type := by
  rw [decodeFields_eq_error]
  constructor
  · rintro ⟨before, pair, after, cause, split, accepted, _, wrong, same⟩
    rw [List.map_nil, List.append_nil] at wrong
    exact ⟨cause, ⟨before, pair, after, split, accepted, wrong⟩, same⟩
  · rintro ⟨cause, ⟨before, pair, after, split, accepted, wrong⟩, same⟩
    refine ⟨before, pair, after, cause, split, accepted, by simp, ?_, same⟩
    rwa [List.map_nil, List.append_nil]

/-- The fields stand in the order of the pairs. -/
theorem isFieldOf_of_decodeFields {pairs : List (Value × Value)} {fields : List (Text × TypeRef)}
    (decoded : decodeFields type [] pairs = .ok fields) : List.Forall₂ IsFieldOf pairs fields := by
  refine List.Forall₂.imp ?_ (decodeFields_eq_ok.mp decoded).1
  rintro pair field ⟨named, typed⟩
  obtain ⟨s, same, _, trimmed⟩ := decodeType_eq_ok.mp typed
  exact ⟨(require_eq_ok.mp named).1, s, same, trimmed⟩

theorem names_of_isFieldOf {pairs : List (Value × Value)} {fields : List (Text × TypeRef)}
    (each : List.Forall₂ IsFieldOf pairs fields) :
    pairs.map Prod.fst = (fields.map Prod.fst).map .text := by
  induction each with
  | nil => rfl
  | cons head _ ih => simp [ih, head.1]

/-- Fields are decoded exactly if all pairs are accepted. -/
theorem exists_decodeFields_iff (type : Option Value) {pairs : List (Value × Value)} :
    (∃ fields, decodeFields type [] pairs = .ok fields) ↔ AcceptedFields pairs := by
  constructor
  · rintro ⟨fields, decoded⟩
    obtain ⟨each, distinct, _⟩ := decodeFields_eq_ok.mp decoded
    refine ⟨?_, ?_, ?_⟩
    · intro pair member
      obtain ⟨field, named, _⟩ := exists_of_mem_left each member
      exact ⟨field.1, require_eq_ok.mp named⟩
    · rw [names_of_isFieldOf (isFieldOf_of_decodeFields decoded)]
      exact distinct.map fun _ _ same => Value.text.inj same
    · intro pair member
      obtain ⟨field, _, typed⟩ := exists_of_mem_left each member
      exact isFieldType_of_decodeType typed
  · intro accepted
    cases decoded : decodeFields type [] pairs with
    | ok fields => exact ⟨fields, rfl⟩
    | error fault =>
      obtain ⟨cause, first, _⟩ := decodeFields_firstWrong.mp decoded
      exact absurd first (accepted.not_firstWrong cause)

/-! ## Spellings -/

/-- An item of a list of fields that stands for a name and a field type: a list of the two, or a mapping
that holds them, whatever else it holds and in whatever order. -/
inductive SpellsField : Value → Value × Value → Prop
  | pair (name fieldType : Value) : SpellsField (.list [name, fieldType]) (name, fieldType)
  | mapping {members : Entries} {name fieldType : Value} (distinct : members.Distinct)
      (named : (.text "name", name) ∈ members) (typed : (.text "type", fieldType) ∈ members) :
      SpellsField (.map members) (name, fieldType)

/-- The fields as a list with an item for each pair, or as a mapping if the names are texts that differ. -/
inductive SpellsFields : Value → List (Value × Value) → Prop
  | list {items : List Value} {pairs : List (Value × Value)}
      (each : List.Forall₂ SpellsField items pairs) : SpellsFields (.list items) pairs
  | mapping {fields : List (Text × Value)} (distinct : (fields.map Prod.fst).Nodup) :
      SpellsFields (.map (Entries.ofFields fields)) (Entries.ofFields fields)

/-- The mapping of a variant with a name and named fields, in one of their spellings. -/
structure HasNamedFields (members : Entries) (name : Value) (pairs : List (Value × Value)) : Prop where
  distinct : members.Distinct
  name : (.text "name", name) ∈ members
  named : ∃ fields, (.text "named", fields) ∈ members ∧ SpellsFields fields pairs
  alone : ∀ types, (.text "positional", types) ∉ members

theorem decodeItem_of_spells {item : Value} {pair : Value × Value} (spells : SpellsField item pair) :
    decodeItem type item = .ok pair := by
  cases spells with
  | pair name fieldType => rfl
  | mapping distinct named typed =>
    rw [← distinct.get?_eq_some_iff] at named typed
    unfold decodeItem
    simp only [Value.content, named, typed]

theorem decodePairs_of_spells {fields : Value} {pairs : List (Value × Value)}
    (spells : SpellsFields fields pairs) : decodePairs type fields = .ok pairs := by
  cases spells with
  | list each =>
    refine mapM_eq_ok.mpr (each.imp ?_)
    intro item pair spelled
    exact decodeItem_of_spells spelled
  | mapping distinct => rfl

/-- Only the pairs count, not how they are spelled. -/
theorem decodeVariant_of_namedFields {members : Entries} {key : Value} {pairs : List (Value × Value)}
    (has : HasNamedFields members key pairs) :
    decodeVariant type (.map members) = (do
      let name ← Identifier.require key type
      let fields ← decodeFields type [] pairs
      return ⟨name, .shape (.named fields)⟩) := by
  obtain ⟨fields, named, spells⟩ := has.named
  have name := has.distinct.get?_eq_some_iff.mpr has.name
  have given := has.distinct.get?_eq_some_iff.mpr named
  have alone := Entries.get?_eq_none_iff.mpr has.alone
  have shape : decodeShape type members =
      (do return .named (← decodeFields type [] pairs)) := by
    unfold decodeShape
    simp only [alone, given, decodePairs_of_spells spells]
    rfl
  unfold decodeVariant
  simp only [Value.content, name, shape]
  cases Identifier.require key type with
  | error fault => rfl
  | ok name =>
    cases decodeFields type [] pairs with
    | error fault => rfl
    | ok fields => rfl

/-- Faults of pairs that can be shown are reported as they are. -/
theorem FirstWrong.reported_eq {pairs : List (Value × Value)} {cause : DescriptorFault}
    (first : FirstWrong pairs cause)
    (showable : ∀ pair ∈ pairs, pair.1.isShowable = true ∧ pair.2.isShowable = true)
    (known : ∀ value, type = some value → value.isShowable = true) :
    (Fault.descriptor cause type).reported = .descriptor cause type := by
  obtain ⟨before, pair, after, rfl, _, wrong⟩ := first
  have shown : cause.isShowable = true := wrong.isShowable (showable pair (by simp))
  have whole : (Fault.descriptor cause type).isShowable = true := by
    cases type with
    | none => simpa [Fault.isShowable] using shown
    | some value => simp [Fault.isShowable, shown, known value rfl]
  exact Fault.reported_of_isShowable whole

/-- All spellings of named fields have the same outcome. If the name of the variant is accepted, they are
decoded exactly if all pairs are accepted, and then the fields are the pairs in order with their field types
trimmed. Otherwise the first pair that has something wrong decides the fault, which is one about descriptors,
and is reported as it is if the values in the pairs can be shown. -/
theorem decodeVariant_spellings {type : Option Value} {members members' : Entries} {key : Value}
    {pairs : List (Value × Value)} (has : HasNamedFields members key pairs)
    (has' : HasNamedFields members' key pairs) :
    decodeVariant type (.map members) = decodeVariant type (.map members') ∧
    ∀ name, key = .text name → Identifier.isName name = true →
      ((∃ variant, decodeVariant type (.map members) = .ok variant) ↔ AcceptedFields pairs) ∧
      (∀ variant, decodeVariant type (.map members) = .ok variant →
        ∃ fields, variant = ⟨name, .shape (.named fields)⟩ ∧ List.Forall₂ IsFieldOf pairs fields) ∧
      (∀ fault, decodeVariant type (.map members) = .error fault ↔
        ∃ cause, FirstWrong pairs cause ∧ fault = .descriptor cause type) ∧
      ((∀ pair ∈ pairs, pair.1.isShowable = true ∧ pair.2.isShowable = true) →
        (∀ value, type = some value → value.isShowable = true) →
        ∀ fault, decodeVariant type (.map members) = .error fault → fault.reported = fault) := by
  refine ⟨(decodeVariant_of_namedFields has).trans (decodeVariant_of_namedFields has').symm, ?_⟩
  rintro name rfl accepted
  have decoded : decodeVariant type (.map members) =
      (decodeFields type [] pairs).map fun fields => ⟨name, .shape (.named fields)⟩ := by
    rw [decodeVariant_of_namedFields has, require_eq_ok.mpr ⟨rfl, accepted⟩, ok_bind]
    cases decodeFields type [] pairs with
    | error fault => rfl
    | ok fields => rfl
  rw [decoded]
  simp only [map_eq_ok, map_eq_error]
  refine ⟨?_, ?_, fun fault => decodeFields_firstWrong, ?_⟩
  · rw [← exists_decodeFields_iff type]
    constructor
    · rintro ⟨_, fields, fine, _⟩
      exact ⟨fields, fine⟩
    · rintro ⟨fields, fine⟩
      exact ⟨_, fields, fine, rfl⟩
  · rintro variant ⟨fields, fine, rfl⟩
    exact ⟨fields, rfl, isFieldOf_of_decodeFields fine⟩
  · intro showable known fault failed
    obtain ⟨cause, first, rfl⟩ := decodeFields_firstWrong.mp failed
    exact first.reported_eq showable known

/-- A variant whose second field has a number for its type, in two spellings. -/
def unevenList : Entries :=
  Entries.ofFields [("named", .list [.list [.text "a", .text " u8 "],
    .map (Entries.ofFields [("type", .int 5), ("doc", .null), ("name", .text "b")])]),
    ("name", .text "V")]

def unevenMapping : Entries :=
  Entries.ofFields [("name", .text "V"),
    ("named", .map (Entries.ofFields [("a", .text " u8 "), ("b", .int 5)]))]

theorem decodeVariant_spellings_uneven :
    HasNamedFields unevenList (.text "V") [(.text "a", .text " u8 "), (.text "b", .int 5)] ∧
    HasNamedFields unevenMapping (.text "V") [(.text "a", .text " u8 "), (.text "b", .int 5)] ∧
    decodeVariant none (.map unevenList) = decodeVariant none (.map unevenMapping) ∧
    decodeVariant none (.map unevenList) = .error (.descriptor (.invalidFieldType (.int 5)) none) ∧
    ¬ AcceptedFields [(.text "a", .text " u8 "), (.text "b", .int 5)] := by
  have distinct : (["type", "doc", "name"] : List Text).Nodup := by decide
  have item : SpellsField
      (.map (Entries.ofFields [("type", .int 5), ("doc", .null), ("name", .text "b")]))
      (.text "b", .int 5) :=
    .mapping (Entries.distinct_ofFields.mpr distinct) (by simp [Entries.ofFields])
      (by simp [Entries.ofFields])
  have has : HasNamedFields unevenList (.text "V")
      [(.text "a", .text " u8 "), (.text "b", .int 5)] := by
    have apart : (["named", "name"] : List Text).Nodup := by decide
    have absent : ("positional" : Text) ∉ (["named", "name"] : List Text) := by decide
    refine ⟨Entries.distinct_ofFields.mpr apart, by simp [unevenList, Entries.ofFields],
      ⟨_, List.mem_cons_self, .list (.cons (.pair _ _) (.cons item .nil))⟩, ?_⟩
    intro types member
    exact absent (List.mem_map_of_mem (f := Prod.fst) (Entries.mem_ofFields.mp member))
  have has' : HasNamedFields unevenMapping (.text "V")
      [(.text "a", .text " u8 "), (.text "b", .int 5)] := by
    have apart : (["name", "named"] : List Text).Nodup := by decide
    have absent : ("positional" : Text) ∉ (["name", "named"] : List Text) := by decide
    have names : (["a", "b"] : List Text).Nodup := by decide
    refine ⟨Entries.distinct_ofFields.mpr apart, List.mem_cons_self,
      ⟨_, List.mem_cons_of_mem _ List.mem_cons_self, .mapping names⟩, ?_⟩
    intro types member
    exact absent (List.mem_map_of_mem (f := Prod.fst) (Entries.mem_ofFields.mp member))
  obtain ⟨same, outcome⟩ := @decodeVariant_spellings none _ _ _ _ has has'
  obtain ⟨decoded, _⟩ := outcome "V" rfl rfl
  have failed : decodeVariant none (.map unevenList) =
      .error (.descriptor (.invalidFieldType (.int 5)) none) := rfl
  refine ⟨has, has', same, failed, ?_⟩
  intro accepted
  obtain ⟨variant, done⟩ := decoded.mpr accepted
  cases failed.symm.trans done

end Descriptor

end VariantIter
