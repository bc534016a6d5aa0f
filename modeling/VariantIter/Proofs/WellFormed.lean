import VariantIter.Descriptor.Decode
import VariantIter.Proofs.Generation
import VariantIter.Proofs.Qualifier

/-!
Well-formed descriptors.

A descriptor is well formed when all its names are identifiers, no payload names a field twice, its field
types are trimmed texts and its visibility is a qualifier. Main statement: decoding returns exactly the
well-formed descriptors. What is decoded is well formed, whatever the value was; and every well-formed
descriptor is written by `Descriptor.encode` as a mapping that decodes to it.
-/

namespace VariantIter

/-! ## Well-formedness -/

/-- A reference to a trimmed text; a value that was never made a reference is not well formed. -/
def TypeRef.WellFormed : TypeRef → Prop
  | .ref text => Text.Trimmed text
  | .bare _ => False

def Shape.WellFormed : Shape → Prop
  | .none => True
  | .positional types => ∀ type ∈ types, type.WellFormed
  | .named fields => (fields.map Prod.fst).Nodup ∧
      ∀ field ∈ fields, Identifier.isName field.1 = true ∧ field.2.WellFormed

def Payload.WellFormed : Payload → Prop
  | .shape known => known.WellFormed
  | .foreign _ => False

structure Variant.WellFormed (variant : Variant) : Prop where
  name : Identifier.isName variant.name = true
  payload : variant.payload.WellFormed

structure Descriptor.WellFormed (descriptor : Descriptor) : Prop where
  name : Identifier.isName descriptor.name = true
  variants : ∀ variant ∈ descriptor.variants, variant.WellFormed
  visibility : Visibility.Qualifier descriptor.visibility

theorem Payload.isRef_of_wellFormed {payload : Payload} (wellFormed : payload.WellFormed) :
    ∀ type ∈ payload.types, ∃ text, type = .ref text := by
  have isRef {type : TypeRef} (wellFormed : type.WellFormed) : ∃ text, type = .ref text := by
    cases type with
    | ref text => exact ⟨text, rfl⟩
    | bare value => exact wellFormed.elim
  intro type member
  cases payload with
  | foreign value => cases member
  | shape known =>
    cases known with
    | none => cases member
    | positional types => exact isRef (wellFormed type member)
    | named fields =>
      obtain ⟨field, inside, rfl⟩ := List.mem_map.mp member
      exact isRef (wellFormed.2 field inside).2

/-- The field types of a well-formed type are references, which can be shown. -/
theorem Descriptor.WellFormed.isShowable {descriptor : Descriptor} (wellFormed : descriptor.WellFormed) :
    descriptor.isShowable = true :=
  isShowable_of_refs fun variant member =>
    Payload.isRef_of_wellFormed (wellFormed.variants variant member).payload

/-! ## Documents -/

/-- Entries whose keys are texts. -/
def Entries.ofFields (fields : List (Text × Value)) : Entries :=
  fields.map fun field => (.text field.1, field.2)

/-- The values of a document without labels: the keys of a mapping are texts, each once. -/
inductive Value.IsJson : Value → Prop
  | null : IsJson .null
  | bool (b : Bool) : IsJson (.bool b)
  | int (n : Int) : IsJson (.int n)
  | double (x : Double) : IsJson (.double x)
  | text (s : Text) : IsJson (.text s)
  | list {items : List Value} (each : ∀ item ∈ items, IsJson item) : IsJson (.list items)
  | map {fields : List (Text × Value)} (distinct : (fields.map Prod.fst).Nodup)
      (each : ∀ field ∈ fields, IsJson field.2) :
      IsJson (.map (Entries.ofFields fields))

namespace Descriptor

variable {type : Option Value}

/-! ## Decoding, function by function -/

theorem require_eq_ok {value : Value} {name : Text} :
    Identifier.require value type = .ok name ↔
      value = .text name ∧ Identifier.isName name = true := by
  unfold Identifier.require
  cases value with
  | text s =>
    by_cases accepted : Identifier.isName s = true
    · simp only [accepted, if_true, Except.ok.injEq, Value.text.injEq]
      exact ⟨fun same => ⟨same, same ▸ accepted⟩, fun same => same.1⟩
    · simp only [accepted, Value.text.injEq]
      exact ⟨nofun, fun same => absurd (same.1 ▸ same.2) accepted⟩
  | _ => simp

theorem decodeType_eq_ok {value : Value} {fieldType : TypeRef} :
    decodeType type value = .ok fieldType ↔
      ∃ s, value = .text s ∧ Text.trim s ≠ [] ∧ fieldType = .ref (Text.trim s) := by
  unfold decodeType
  cases value with
  | text s =>
    simp only [Value.text.injEq, exists_eq_left']
    cases Text.trim s with
    | nil => simp
    | cons c cs => simp [eq_comm]
  | _ => simp

/-- Fields are accepted exactly when each pair is a new name with a field type. -/
theorem decodeFields_eq_ok {seen : List Text} {pairs : List (Value × Value)}
    {fields : List (Text × TypeRef)} :
    decodeFields type seen pairs = .ok fields ↔
      List.Forall₂ (fun pair field => Identifier.require pair.1 type = .ok field.1 ∧
        decodeType type pair.2 = .ok field.2) pairs fields ∧
      (fields.map Prod.fst).Nodup ∧ ∀ name ∈ fields.map Prod.fst, name ∉ seen := by
  -- The names seen so far grow with every pair, so the induction is over all lists of them.
  induction pairs generalizing seen fields with
  | nil =>
    rw [decodeFields, List.forall₂_nil_left_iff]
    constructor
    · intro same
      cases same
      exact ⟨rfl, List.nodup_nil, nofun⟩
    · rintro ⟨rfl, _⟩
      rfl
  | cons pair pairs ih =>
    obtain ⟨key, value⟩ := pair
    rw [decodeFields, Outcome.bind_eq_ok, List.forall₂_cons_left_iff]
    constructor
    · rintro ⟨name, named, rest⟩
      split at rest
      · cases rest
      · next unseen =>
        obtain ⟨fieldType, typed, rest⟩ := Outcome.bind_eq_ok.mp rest
        obtain ⟨others, decoded, same⟩ := Outcome.bind_eq_ok.mp rest
        cases same
        obtain ⟨each, distinct, fresh⟩ := ih.mp decoded
        refine ⟨⟨(name, fieldType), others, ⟨named, typed⟩, each, rfl⟩, ?_, ?_⟩
        · exact List.nodup_cons.mpr
            ⟨fun member => fresh name member List.mem_cons_self, distinct⟩
        · intro other member
          rcases List.mem_cons.mp member with rfl | later
          · simpa using unseen
          · exact fun old => fresh other later (List.mem_cons_of_mem name old)
    · rintro ⟨⟨⟨name, fieldType⟩, others, ⟨named, typed⟩, each, rfl⟩, distinct, fresh⟩
      obtain ⟨alone, distinct⟩ := List.nodup_cons.mp distinct
      obtain ⟨unseen, fresh⟩ := List.forall_mem_cons.mp fresh
      have later : ∀ other ∈ others.map Prod.fst, other ∉ name :: seen := by
        intro other member old
        rcases List.mem_cons.mp old with rfl | old
        · exact alone member
        · exact fresh other member old
      refine ⟨name, named, ?_⟩
      rw [if_neg (by simpa using unseen), typed, ih.mpr ⟨each, distinct, later⟩]
      rfl

/-! ## What is decoded is well formed -/

theorem wellFormed_of_decodeType {value : Value} {fieldType : TypeRef}
    (decoded : decodeType type value = .ok fieldType) : fieldType.WellFormed := by
  obtain ⟨s, _, filled, rfl⟩ := decodeType_eq_ok.mp decoded
  exact Text.trimmed_trim filled

theorem wellFormed_of_decodeFields {pairs : List (Value × Value)} {fields : List (Text × TypeRef)}
    (decoded : decodeFields type [] pairs = .ok fields) : (Shape.named fields).WellFormed := by
  obtain ⟨each, distinct, _⟩ := decodeFields_eq_ok.mp decoded
  refine ⟨distinct, fun field member => ?_⟩
  obtain ⟨pair, _, named, typed⟩ := Outcome.exists_of_mem_right each member
  exact ⟨(require_eq_ok.mp named).2, wellFormed_of_decodeType typed⟩

theorem wellFormed_of_decodeShape {entries : Entries} {shape : Shape}
    (decoded : decodeShape type entries = .ok shape) : shape.WellFormed := by
  unfold decodeShape at decoded
  split at decoded
  · cases decoded
  · split at decoded
    · obtain ⟨types, mapped, same⟩ := Outcome.bind_eq_ok.mp decoded
      cases same
      intro fieldType member
      obtain ⟨item, _, typed⟩ := Outcome.exists_of_mem_right (Outcome.mapM_eq_ok.mp mapped) member
      exact wellFormed_of_decodeType typed
    · cases decoded
  · obtain ⟨pairs, _, rest⟩ := Outcome.bind_eq_ok.mp decoded
    obtain ⟨fields, listed, same⟩ := Outcome.bind_eq_ok.mp rest
    cases same
    exact wellFormed_of_decodeFields listed
  · cases decoded
    trivial

theorem wellFormed_of_decodeVariant {value : Value} {variant : Variant}
    (decoded : decodeVariant type value = .ok variant) : variant.WellFormed := by
  unfold decodeVariant at decoded
  split at decoded
  · obtain ⟨name, named, same⟩ := Outcome.bind_eq_ok.mp decoded
    cases same
    exact ⟨(require_eq_ok.mp named).2, trivial⟩
  · split at decoded
    · obtain ⟨name, named, rest⟩ := Outcome.bind_eq_ok.mp decoded
      obtain ⟨shape, shaped, same⟩ := Outcome.bind_eq_ok.mp rest
      cases same
      exact ⟨(require_eq_ok.mp named).2, wellFormed_of_decodeShape shaped⟩
    · cases decoded
  · cases decoded

/-- What is decoded is well formed, whatever the value was. -/
theorem wellFormed_of_decode {value : Value} {descriptor : Descriptor}
    (decoded : decode value = .ok descriptor) : descriptor.WellFormed := by
  unfold decode at decoded
  split at decoded
  · split at decoded
    · obtain ⟨name, named, rest⟩ := Outcome.bind_eq_ok.mp decoded
      obtain ⟨kind, _, rest⟩ := Outcome.bind_eq_ok.mp rest
      split at rest
      · obtain ⟨variants, mapped, rest⟩ := Outcome.bind_eq_ok.mp rest
        obtain ⟨visibility, qualified, same⟩ := Outcome.bind_eq_ok.mp rest
        cases same
        obtain ⟨s, _, _, qualifier⟩ := Visibility.require_eq_ok.mp qualified
        refine ⟨(require_eq_ok.mp named).2, fun variant member => ?_, qualifier⟩
        obtain ⟨item, _, done⟩ := Outcome.exists_of_mem_right (Outcome.mapM_eq_ok.mp mapped) member
        exact wellFormed_of_decodeVariant done
      · cases rest
    · cases decoded
  · cases decoded

end Descriptor

/-! ## Writing a descriptor down -/

def TypeRef.encode (type : TypeRef) : Value :=
  .text type.text

def Shape.encodeFields (fields : List (Text × TypeRef)) : List (Text × Value) :=
  fields.map fun field => (field.1, field.2.encode)

/-- The fields of the mapping of a variant that describe its payload. -/
def Shape.encode : Shape → List (Text × Value)
  | .none => []
  | .positional types => [("positional", .list (types.map TypeRef.encode))]
  | .named fields => [("named", .map (Entries.ofFields (encodeFields fields)))]

def Variant.encode (variant : Variant) : Value :=
  match variant.payload with
  | .shape known => .map (Entries.ofFields (("name", .text variant.name) :: known.encode))
  | .foreign value => value

/-- The fields of the mapping that describes a type in a document. -/
def Descriptor.encode (descriptor : Descriptor) : List (Text × Value) :=
  [("name", .text descriptor.name), ("kind", .text descriptor.kind.name),
    ("variants", .list (descriptor.variants.map Variant.encode)),
    ("visibility", .text descriptor.visibility)]

/-- The written form is a document: its keys are texts, each once in its mapping. -/
theorem Shape.isJson_encode {shape : Shape} (wellFormed : shape.WellFormed)
    {field : Text × Value} (member : field ∈ shape.encode) : field.2.IsJson := by
  cases shape with
  | none => cases member
  | positional types =>
    cases List.mem_singleton.mp member
    refine .list fun item present => ?_
    obtain ⟨fieldType, _, rfl⟩ := List.mem_map.mp present
    exact .text fieldType.text
  | named fields =>
    cases List.mem_singleton.mp member
    refine .map ?_ fun item present => ?_
    · rw [encodeFields, List.map_map]
      exact wellFormed.1
    · obtain ⟨described, _, rfl⟩ := List.mem_map.mp present
      exact .text described.2.text

theorem Variant.isJson_encode {variant : Variant} (wellFormed : variant.WellFormed) :
    variant.encode.IsJson := by
  obtain ⟨name, payload⟩ := variant
  cases payload with
  | foreign value => cases wellFormed.payload
  | shape known =>
    refine .map ?_ fun field member => ?_
    · cases known with
      | none => exact (by decide : (["name"] : List Text).Nodup)
      | positional types => exact (by decide : (["name", "positional"] : List Text).Nodup)
      | named fields => exact (by decide : (["name", "named"] : List Text).Nodup)
    · rcases List.mem_cons.mp member with rfl | later
      · exact .text name
      · exact Shape.isJson_encode wellFormed.payload later

theorem Descriptor.isJson_encode {descriptor : Descriptor} (wellFormed : descriptor.WellFormed) :
    (Value.map (Entries.ofFields descriptor.encode)).IsJson := by
  have distinct : (["name", "kind", "variants", "visibility"] : List Text).Nodup := by decide
  refine .map distinct fun field member => ?_
  simp only [encode, List.mem_cons, List.not_mem_nil, or_false] at member
  rcases member with rfl | rfl | rfl | rfl
  · exact .text descriptor.name
  · exact .text descriptor.kind.name
  · refine .list fun item present => ?_
    obtain ⟨variant, declared, rfl⟩ := List.mem_map.mp present
    exact Variant.isJson_encode (wellFormed.variants variant declared)
  · exact .text descriptor.visibility

namespace Descriptor

theorem decodeType_encode (type : Option Value) {fieldType : TypeRef}
    (wellFormed : fieldType.WellFormed) : decodeType type fieldType.encode = .ok fieldType := by
  cases fieldType with
  | bare value => cases wellFormed
  | ref text =>
    have trimmed : Text.trim text = text := wellFormed.trim_eq
    exact decodeType_eq_ok.mpr ⟨text, rfl, trimmed.symm ▸ wellFormed.filled, by rw [trimmed]⟩

theorem decodeShape_encode (type : Option Value) (name : Value) {shape : Shape}
    (wellFormed : shape.WellFormed) :
    decodeShape type (Entries.ofFields (("name", name) :: shape.encode)) = .ok shape := by
  cases shape with
  | none => rfl
  | positional types =>
    have mapped : (types.map TypeRef.encode).mapM (decodeType type) = .ok types := by
      rw [Outcome.mapM_eq_ok, List.forall₂_map_left_iff, List.forall₂_same]
      exact fun fieldType member => decodeType_encode type (wellFormed fieldType member)
    show (do return Shape.positional (← (types.map TypeRef.encode).mapM (decodeType type))) = _
    rw [mapped]
    rfl
  | named fields =>
    have listed : decodeFields type [] (Entries.ofFields (Shape.encodeFields fields)) =
        .ok fields := by
      rw [decodeFields_eq_ok, Entries.ofFields, Shape.encodeFields, List.map_map,
        List.forall₂_map_left_iff, List.forall₂_same]
      refine ⟨fun field member => ⟨?_, ?_⟩, wellFormed.1, nofun⟩
      · exact require_eq_ok.mpr ⟨rfl, (wellFormed.2 field member).1⟩
      · exact decodeType_encode type (wellFormed.2 field member).2
    show (do
      return Shape.named (← decodeFields type [] (Entries.ofFields (Shape.encodeFields fields)))) = _
    rw [listed]
    rfl

theorem decodeVariant_encode (type : Option Value) {variant : Variant}
    (wellFormed : variant.WellFormed) : decodeVariant type variant.encode = .ok variant := by
  obtain ⟨name, payload⟩ := variant
  cases payload with
  | foreign value => cases wellFormed.payload
  | shape known =>
    have named : Identifier.require (.text name) type = .ok name :=
      require_eq_ok.mpr ⟨rfl, wellFormed.name⟩
    show (do
      let name ← Identifier.require (.text name) type
      let shape ← decodeShape type (Entries.ofFields (("name", .text _) :: known.encode))
      return Variant.mk name (.shape shape)) = _
    rw [named, decodeShape_encode type _ wellFormed.payload]
    rfl

theorem decodeKind_name (type : Option Value) (kind : Kind) :
    decodeKind type (some (.text kind.name)) = .ok kind := by
  cases kind with
  | sum => rfl
  | record => rfl
  | union => rfl

/-- An empty text is no visibility, and stands for the empty qualifier. -/
theorem visibilityValue_text (s : Text) : visibilityValue (some (.text s)) = .text s := by
  cases s with
  | nil => rfl
  | cons c cs => rfl

/-- A well-formed descriptor is read back from its written form. -/
theorem decode_encode {descriptor : Descriptor} (wellFormed : descriptor.WellFormed) :
    decode (.map (Entries.ofFields descriptor.encode)) = .ok descriptor := by
  obtain ⟨name, variants, kind, visibility⟩ := descriptor
  have named : Identifier.require (.text name) none = .ok name :=
    require_eq_ok.mpr ⟨rfl, wellFormed.name⟩
  have mapped : (variants.map Variant.encode).mapM (decodeVariant (some (.text name))) =
      .ok variants := by
    rw [Outcome.mapM_eq_ok, List.forall₂_map_left_iff, List.forall₂_same]
    exact fun variant member => decodeVariant_encode _ (wellFormed.variants variant member)
  have qualified : Visibility.require (.text visibility) (some (.text name)) = .ok visibility :=
    Visibility.require_eq_ok.mpr
      ⟨visibility, rfl, wellFormed.visibility.unifyBlanks_eq, wellFormed.visibility⟩
  show (do
    let name ← Identifier.require (.text name) none
    let kind ← decodeKind (some (.text name)) (some (.text kind.name))
    let variants ← (variants.map Variant.encode).mapM (decodeVariant (some (.text name)))
    let visibility ←
      Visibility.require (visibilityValue (some (.text visibility))) (some (.text name))
    return Descriptor.mk name variants kind visibility) = _
  rw [named, visibilityValue_text]
  show (do
    let kind ← decodeKind (some (.text name)) (some (.text kind.name))
    let variants ← (variants.map Variant.encode).mapM (decodeVariant (some (.text name)))
    let visibility ← Visibility.require (.text visibility) (some (.text name))
    return Descriptor.mk name variants kind visibility) = _
  rw [decodeKind_name, mapped, qualified]
  rfl

/-- Decoding has exactly the well-formed descriptors as its results, and documents suffice for all of
them. -/
theorem wellFormed_iff_decodes (descriptor : Descriptor) :
    (descriptor.WellFormed ↔ ∃ value, decode value = .ok descriptor) ∧
      (descriptor.WellFormed ↔
        ∃ entries, (Value.map entries).IsJson ∧ decode (.map entries) = .ok descriptor) := by
  have written (wellFormed : descriptor.WellFormed) :
      ∃ entries, (Value.map entries).IsJson ∧ decode (.map entries) = .ok descriptor :=
    ⟨_, isJson_encode wellFormed, decode_encode wellFormed⟩
  refine ⟨⟨fun wellFormed => ?_, fun ⟨_, decoded⟩ => wellFormed_of_decode decoded⟩,
    written, fun ⟨_, _, decoded⟩ => wellFormed_of_decode decoded⟩
  obtain ⟨entries, _, decoded⟩ := written wellFormed
  exact ⟨_, decoded⟩

end Descriptor

end VariantIter
