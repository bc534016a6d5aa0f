import Mathlib
import VariantIter.Proofs.Showable
import VariantIter.Proofs.WellFormed

/-!
Faults of documents.

Decoding a document ends with the descriptors of all its entries, in order, or with the fault of the first
entry that has one. Main statement: for whatever JSON holds, every such fault is one about descriptors.
Once the name of an entry is accepted, its faults name the entry; faults before that, and those of the
document itself, name nothing.
-/

namespace VariantIter

/-- A fault about descriptors that names the given type, and that is reported as it is. -/
def Fault.Names (type : Option Value) (fault : Fault) : Prop :=
  ∃ cause : DescriptorFault, fault = .descriptor cause type ∧ cause.isShowable = true

namespace Fault

/-- The name stands at the end of the text. -/
theorem text_descriptor_some (cause : DescriptorFault) (name : Text) :
    (Fault.descriptor cause (some (.text name))).text =
      cause.message ++ " (type_name=" ++ name ++ ")" := by
  have opening : Text.ofString " (type_name=" = " (" ++ ("type_name" ++ "=") := rfl
  show cause.message ++ " (" ++ Text.joined ", " ["type_name" ++ "=" ++ name] ++ ")" = _
  rw [opening]
  simp [Text.joined, List.intercalate]

theorem Names.reported_eq {fault : Fault} {name : Option Text}
    (names : fault.Names (name.map .text)) : fault.reported = fault := by
  obtain ⟨cause, rfl, showable⟩ := names
  have shown : (Fault.descriptor cause (name.map .text)).isShowable = true := by
    cases name with
    | none => simpa [isShowable] using showable
    | some name => simpa [isShowable, Value.isShowable] using showable
  exact reported_of_isShowable shown

/-- A fault about descriptors that names the given type and shows nothing that cannot be shown, as long
as the values at hand can be. If they cannot, the fault may be about that instead. -/
def Tells (type : Option Value) (showable : Prop) (fault : Fault) : Prop :=
  (∃ cause : DescriptorFault, fault = .descriptor cause type ∧ (showable → cause.isShowable = true)) ∨
    (fault = .range .unshowable ∧ ¬ showable)

theorem Tells.names {fault : Fault} {type : Option Value} {showable : Prop}
    (tells : fault.Tells type showable) (holds : showable) : fault.Names type := by
  rcases tells with ⟨cause, rfl, shown⟩ | ⟨_, fails⟩
  · exact ⟨cause, rfl, shown holds⟩
  · exact absurd holds fails

/-- What is told of a part is told of the whole. -/
theorem Tells.of_part {fault : Fault} {type : Option Value} {part whole : Prop}
    (tells : fault.Tells type part) (parts : whole → part) : fault.Tells type whole := by
  rcases tells with ⟨cause, rfl, shown⟩ | ⟨rfl, fails⟩
  · exact .inl ⟨cause, rfl, fun holds => shown (parts holds)⟩
  · exact .inr ⟨rfl, fun holds => fails (parts holds)⟩

end Fault

namespace Descriptor

open Outcome

variable {type : Option Value} {value : Value} {fault : Fault}

/-! ## Faults, function by function -/

/-- The faults of a step tell about the given type and values. -/
def Decodes {α : Type} (type : Option Value) (showable : Prop) (good : α → Prop) :
    Except Fault α → Prop :=
  Ends good (Fault.Tells type showable)

theorem Decodes.of_part {α : Type} {good : α → Prop} {x : Except Fault α} {part whole : Prop}
    (decodes : Decodes type part good x) (parts : whole → part) : Decodes type whole good x :=
  Ends.imp decodes (fun _ holds => holds) fun _ tells => tells.of_part parts

theorem decodes_refusal {α : Type} {good : α → Prop} {showable : Prop} {cause : DescriptorFault}
    (shown : showable → cause.isShowable = true) :
    Decodes type showable good (.error (.descriptor cause type)) :=
  .inl ⟨cause, rfl, shown⟩

theorem decodes_require :
    Decodes type (value.isShowable = true) (fun _ => True) (Identifier.require value type) := by
  unfold Identifier.require
  split
  · exact ends_ite (fun _ => trivial) fun _ => decodes_refusal id
  · exact decodes_refusal id

theorem decodes_visibility :
    Decodes type (value.isShowable = true) (fun _ => True) (Visibility.require value type) := by
  unfold Visibility.require
  split
  · exact ends_ite (fun _ => trivial) fun _ => decodes_refusal id
  · exact decodes_refusal id

theorem decodes_decodeType :
    Decodes type (value.isShowable = true) (fun _ => True) (decodeType type value) := by
  unfold decodeType
  simp only
  split
  · split
    · exact decodes_refusal id
    · trivial
  · exact decodes_refusal id

/-- Name and field type of an item are parts of it. -/
theorem decodes_decodeItem :
    Decodes type (value.isShowable = true)
      (fun pair => value.isShowable = true → pair.1.isShowable = true ∧ pair.2.isShowable = true)
      (decodeItem type value) := by
  unfold decodeItem
  simp only
  split
  · next entries content =>
    split
    · next name fieldType named typed =>
      intro showable
      have inner := Value.isShowable_content showable
      rw [content] at inner
      exact ⟨Entries.isShowable_of_get? inner named, Entries.isShowable_of_get? inner typed⟩
    · exact decodes_refusal id
  · next content =>
    intro showable
    have inner := Value.isShowable_content showable
    rw [content] at inner
    simpa using Value.allShowable_iff.mp inner
  · next content =>
    intro showable
    have inner := Value.isShowable_content showable
    rw [content] at inner
    simpa using Value.allShowable_iff.mp inner
  · exact decodes_refusal id

theorem decodes_decodePairs :
    Decodes type (value.isShowable = true)
      (fun pairs => value.isShowable = true →
        ∀ pair ∈ pairs, pair.1.isShowable = true ∧ pair.2.isShowable = true)
      (decodePairs type value) := by
  unfold decodePairs
  split
  · next entries content =>
    intro showable
    have inner := Value.isShowable_content showable
    rw [content] at inner
    exact Value.entriesShowable_iff.mp inner
  · next items content =>
    have part {item : Value} (member : item ∈ items) (showable : value.isShowable = true) :
        item.isShowable = true := by
      have inner := Value.isShowable_content showable
      rw [content] at inner
      exact Value.allShowable_iff.mp inner item member
    have each : ∀ item ∈ items, Ends
        (fun pair => value.isShowable = true → pair.1.isShowable = true ∧ pair.2.isShowable = true)
        (Fault.Tells type (value.isShowable = true)) (decodeItem type item) :=
      fun item member => Ends.imp decodes_decodeItem
        (fun _ shown showable => shown (part member showable)) fun _ tells => tells.of_part (part member)
    exact Ends.imp (ends_mapM each) (fun _ shown showable pair member => shown pair member showable)
      fun _ tells => tells
  · exact decodes_refusal fun _ => rfl

theorem decodes_decodeFields {seen : List Text} {pairs : List (Value × Value)} :
    Decodes type (∀ pair ∈ pairs, pair.1.isShowable = true ∧ pair.2.isShowable = true)
      (fun _ => True) (decodeFields type seen pairs) := by
  induction pairs generalizing seen with
  | nil => trivial
  | cons pair pairs ih =>
    rw [decodeFields]
    refine Ends.bind (decodes_require.of_part fun each => (each pair List.mem_cons_self).1) fun _ _ =>
      ends_ite (fun _ => decodes_refusal fun _ => rfl) fun _ => ?_
    refine Ends.bind (decodes_decodeType.of_part fun each => (each pair List.mem_cons_self).2)
      fun _ _ => ?_
    exact Ends.bind (ih.of_part fun each other member => each other (List.mem_cons_of_mem pair member))
      fun _ _ => trivial

theorem decodes_decodeShape {entries : Entries} :
    Decodes type (Value.entriesShowable entries = true) (fun _ => True) (decodeShape type entries) := by
  unfold decodeShape
  split
  · refine decodes_refusal fun showable => ?_
    cases named : entries.get? "name" with
    | none => rfl
    | some name => exact Entries.isShowable_of_get? showable named
  · next types found _ =>
    split
    · next items content =>
      have part {item : Value} (member : item ∈ items)
          (showable : Value.entriesShowable entries = true) : item.isShowable = true := by
        have inner := Value.isShowable_content (Entries.isShowable_of_get? showable found)
        rw [content] at inner
        exact Value.allShowable_iff.mp inner item member
      exact Ends.bind (ends_mapM fun item member => decodes_decodeType.of_part (part member))
        fun _ _ => trivial
    · exact decodes_refusal fun _ => rfl
  · next fields _ found =>
    have part (showable : Value.entriesShowable entries = true) : fields.isShowable = true :=
      Entries.isShowable_of_get? showable found
    refine Ends.bind (decodes_decodePairs.of_part part) fun pairs shown => ?_
    exact Ends.bind (decodes_decodeFields.of_part fun showable => shown (part showable))
      fun _ _ => trivial
  · trivial

theorem decodes_decodeVariant :
    Decodes type (value.isShowable = true) (fun _ => True) (decodeVariant type value) := by
  unfold decodeVariant
  simp only
  split
  · exact Ends.bind decodes_require fun _ _ => trivial
  · next entries content =>
    have inner (showable : value.isShowable = true) : Value.entriesShowable entries = true := by
      have inner := Value.isShowable_content showable
      rwa [content] at inner
    split
    · next name found =>
      refine Ends.bind (decodes_require.of_part fun showable =>
        Entries.isShowable_of_get? (inner showable) found) fun _ _ => ?_
      exact Ends.bind (decodes_decodeShape.of_part inner) fun _ _ => trivial
    · exact decodes_refusal id
  · exact decodes_refusal id

/-- A kind is shown before it is looked up. -/
theorem decodes_decodeKind {kind : Option Value} :
    Decodes type (∀ value, kind = some value → value.isShowable = true) (fun _ => True)
      (decodeKind type kind) := by
  have shown : Decodes type (∀ value, kind = some value → value.isShowable = true) (fun _ => True)
      (kind.getD (.text Kind.sum.name)).shown := by
    refine ends_ite (fun _ => trivial) fun hidden => .inr ⟨rfl, fun showable => hidden ?_⟩
    cases kind with
    | none => rfl
    | some value => exact showable value rfl
  refine Ends.bind shown fun name _ => ?_
  simp only
  split
  · trivial
  · exact decodes_refusal fun _ => rfl

theorem showable_visibilityValue {visibility : Option Value}
    (showable : ∀ value, visibility = some value → value.isShowable = true) :
    (visibilityValue visibility).isShowable = true := by
  unfold visibilityValue
  split
  · next value =>
    split
    · exact showable value rfl
    · rfl
  · rfl

/-! ## Entries -/

/-- The name of an entry, if it is accepted. -/
def entryName? (entry : Value) : Option Text :=
  match entry.content with
  | .map members => match Entries.get? members "name" with
    | some (.text name) => if Identifier.isName name then some name else none
    | _ => none
  | _ => none

theorem entryName_eq {members : Entries} {key : Value} (content : value.content = .map members)
    (found : members.get? "name" = some key) :
    entryName? value = (Identifier.require key none).toOption := by
  unfold entryName? Identifier.require
  rw [content]
  simp only [found]
  cases key with
  | text name => by_cases accepted : Identifier.isName name = true <;> simp [accepted, Except.toOption]
  | _ => rfl

/-- The faults of an entry name it as soon as its name is accepted. -/
theorem decodes_decode :
    Decodes ((entryName? value).map .text) (value.isShowable = true) (fun _ => True)
      (decode value) := by
  unfold decode
  simp only
  split
  · next members content =>
    have part (name : Text) (showable : value.isShowable = true) :
        ∀ value, Entries.get? members name = some value → value.isShowable = true := by
      have inner := Value.isShowable_content showable
      rw [content] at inner
      exact fun _ found => Entries.isShowable_of_get? inner found
    split
    · next key found =>
      rw [entryName_eq content found]
      have named : Decodes none (value.isShowable = true) (fun _ => True)
          (Identifier.require key none) :=
        decodes_require.of_part fun showable => part _ showable key found
      cases accepted : Identifier.require key none with
      | error fault => exact named.error accepted
      | ok name =>
        rw [ok_bind]
        refine Ends.bind (decodes_decodeKind.of_part (part "kind")) fun kind _ => ?_
        split
        · next items listed =>
          have item {item : Value} (member : item ∈ items) (showable : value.isShowable = true) :
              item.isShowable = true := by
            have variants :
                ((Entries.get? members "variants").getD (.list [])).isShowable = true := by
              cases given : Entries.get? members "variants" with
              | none => rfl
              | some variants => exact part _ showable variants given
            have inner := Value.isShowable_content variants
            rw [listed] at inner
            exact Value.allShowable_iff.mp inner item member
          refine Ends.bind (ends_mapM fun _ member => decodes_decodeVariant.of_part (item member))
            fun _ _ => ?_
          exact Ends.bind (decodes_visibility.of_part fun showable =>
            showable_visibilityValue (part "visibility" showable)) fun _ _ => trivial
        · exact decodes_refusal fun _ => rfl
    · next missing =>
      have unnamed : entryName? value = none := by
        unfold entryName?
        rw [content]
        simp only [missing]
      rw [unnamed]
      exact decodes_refusal id
  · next other =>
    have unnamed : entryName? value = none := by
      unfold entryName?
      split
      · next members content => exact absurd content (other members)
      · rfl
    rw [unnamed]
    exact decodes_refusal id

theorem names_of_decode (showable : value.isShowable = true)
    (failed : decode value = .error fault) : fault.Names ((entryName? value).map .text) :=
  (decodes_decode.error failed).names showable

/-! ## Documents -/

/-- The entries of a document, if it is of a form that has entries. -/
def entries? (document : Value) : Option (List Value) :=
  match document.content with
  | .list items => some items
  | .map members => match Entries.get? members "types" with
    | some types => match types.content with
      | .list items => some items
      | _ => none
    | none => some [document]
  | _ => none

theorem decodeDocument_of_entries {entries : List Value} (found : entries? value = some entries) :
    decodeDocument value = entries.mapM decode := by
  unfold entries? at found
  unfold decodeDocument
  cases content : value.content with
  | list items =>
    rw [content] at found
    cases found
    rfl
  | map members =>
    simp only [content] at found ⊢
    cases given : Entries.get? members "types" with
    | none =>
      rw [given] at found
      cases found
      rfl
    | some types =>
      simp only [given] at found ⊢
      cases listed : types.content with
      | list items =>
        rw [listed] at found
        cases found
        rfl
      | _ =>
        rw [listed] at found
        cases found
  | _ =>
    rw [content] at found
    cases found

theorem decodeDocument_without_entries (none : entries? value = none) :
    ∃ cause : DescriptorFault,
      decodeDocument value = .error (.descriptor cause Option.none) ∧ cause.isShowable = true := by
  unfold entries? at none
  unfold decodeDocument
  cases content : value.content with
  | list items =>
    rw [content] at none
    cases none
  | map members =>
    simp only [content] at none ⊢
    cases given : Entries.get? members "types" with
    | none =>
      rw [given] at none
      cases none
    | some types =>
      simp only [given] at none ⊢
      cases listed : types.content with
      | list items =>
        rw [listed] at none
        cases none
      | _ => exact ⟨.typesNotList, rfl, rfl⟩
  | _ => exact ⟨.unsupportedDocument value.kindName, rfl, rfl⟩

theorem showable_of_entries {entries : List Value} (showable : value.isShowable = true)
    (found : entries? value = some entries) : ∀ entry ∈ entries, entry.isShowable = true := by
  have inner := Value.isShowable_content showable
  unfold entries? at found
  split at found
  · next items content =>
    rw [content] at inner
    cases found
    exact Value.allShowable_iff.mp inner
  · next members content =>
    rw [content] at inner
    split at found
    · next types given =>
      have typesInner := Value.isShowable_content (Entries.isShowable_of_get? inner given)
      split at found
      · next items listed =>
        rw [listed] at typesInner
        cases found
        exact Value.allShowable_iff.mp typesInner
      · cases found
    · cases found
      exact List.forall_mem_singleton.mpr showable
  · cases found

/-- Of all entries that have a fault, this one comes first. -/
def FailsFirst (entries : List Value) (entry : Value) (fault : Fault) : Prop :=
  Outcome.First (fun entry => ∃ fault, decode entry = .error fault) entries entry ∧
    decode entry = .error fault

theorem decodeDocument_eq_error {entries : List Value} (found : entries? value = some entries) :
    decodeDocument value = .error fault ↔ ∃ entry, FailsFirst entries entry fault := by
  rw [decodeDocument_of_entries found, Outcome.mapM_eq_error]
  rfl

/-- A list of types under a key, the list alone, and a single type are read alike: all entries in order,
or the fault of the first that has one. For whatever JSON holds, faults are about descriptors, and they
name the entry they come from exactly if its name was accepted. -/
theorem decodeDocument_contract {cs : List Char} {value : Value} (parsed : Json.read cs = .ok value) :
    (∀ members items, Entries.get? members "types" = some (.list items) →
      decodeDocument (.map members) = decodeDocument (.list items)) ∧
    (∀ members, Entries.get? members "types" = none →
      decodeDocument (.map members) = decodeDocument (.list [.map members])) ∧
    (∀ items,
      ((∃ descriptors, decodeDocument (.list items) = .ok descriptors) ↔
        ∀ item ∈ items, ∃ descriptor, decode item = .ok descriptor) ∧
      (∀ descriptors, decodeDocument (.list items) = .ok descriptors ↔
        List.Forall₂ (fun item descriptor => decode item = .ok descriptor) items descriptors) ∧
      ∀ fault, decodeDocument (.list items) = .error fault ↔
        ∃ item, FailsFirst items item fault) ∧
    ∀ fault, decodeDocument value = .error fault → fault.reported = fault ∧
      ((∃ entries entry name cause, entries? value = some entries ∧
          FailsFirst entries entry fault ∧ entryName? entry = some name ∧
          fault = .descriptor cause (some (.text name)) ∧
          fault.text = cause.message ++ " (type_name=" ++ name ++ ")") ∨
        ∃ cause, fault = .descriptor cause none ∧ fault.text = cause.message ∧
          (entries? value = none ∨ ∃ entries entry, entries? value = some entries ∧
            FailsFirst entries entry fault ∧ entryName? entry = none)) := by
  have showable := Json.isShowable_of_document parsed
  refine ⟨fun members items given => ?_, fun members absent => ?_, fun items => ⟨?_, ?_, ?_⟩,
    fun fault failed => ?_⟩
  · have entries : entries? (.map members) = some items := by
      simp [entries?, Value.content, given]
    rw [decodeDocument_of_entries entries]
    rfl
  · have entries : entries? (.map members) = some [.map members] := by
      simp [entries?, Value.content, absent]
    rw [decodeDocument_of_entries entries]
    rfl
  · constructor
    · rintro ⟨descriptors, decoded⟩ item member
      have each := Outcome.mapM_eq_ok.mp decoded
      exact Outcome.exists_of_mem_left each member
    · exact Outcome.exists_mapM_eq_ok
  · exact fun descriptors => Outcome.mapM_eq_ok
  · exact fun fault => decodeDocument_eq_error rfl
  · cases found : entries? value with
    | none =>
      obtain ⟨cause, refused, shown⟩ := decodeDocument_without_entries found
      cases refused.symm.trans failed
      have names : (Fault.descriptor cause none).Names (Option.map .text none) := ⟨cause, rfl, shown⟩
      exact ⟨names.reported_eq, .inr ⟨cause, rfl, rfl, .inl rfl⟩⟩
    | some entries =>
      obtain ⟨entry, first⟩ := (decodeDocument_eq_error found).mp failed
      have names := names_of_decode
        (showable_of_entries showable found entry first.1.mem) first.2
      refine ⟨names.reported_eq, ?_⟩
      obtain ⟨cause, same, _⟩ := names
      cases named : entryName? entry with
      | none =>
        rw [named] at same
        exact .inr ⟨cause, same, same ▸ rfl, .inr ⟨entries, entry, rfl, first, named⟩⟩
      | some name =>
        rw [named] at same
        exact .inl ⟨entries, entry, name, cause, rfl, first, named, same,
          same ▸ Fault.text_descriptor_some cause name⟩

/-- The kind of the second type is unknown, and the fault says which type that is. -/
theorem decodeDocument_contract_unknownKind :
    ∃ value, Json.read
        "[\x7b\"name\":\"A\"\x7d,\x7b\"name\":\"T\",\"kind\":\"x\"\x7d]".toList = .ok value ∧
      ∃ fault, decodeDocument value = .error fault ∧ fault.reported = fault ∧
        fault.text = "Unknown type kind 'x' (type_name=T)" := by
  let first : Value := .map (Entries.ofFields [("name", .text "A")])
  let second : Value := .map (Entries.ofFields [("name", .text "T"), ("kind", .text "x")])
  have parsed : Json.read
      "[\x7b\"name\":\"A\"\x7d,\x7b\"name\":\"T\",\"kind\":\"x\"\x7d]".toList =
      .ok (.list [first, second]) := by cbv
  have failed : decodeDocument (.list [first, second]) =
      .error (.descriptor (.unknownKind "x") (some (.text "T"))) := by cbv
  obtain ⟨_, _, _, attributed⟩ := decodeDocument_contract parsed
  exact ⟨_, parsed, _, failed, (attributed _ failed).1, by cbv⟩

end Descriptor

end VariantIter
