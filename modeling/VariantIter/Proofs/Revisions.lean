import Mathlib.Logic.Relation
import VariantIter.Proofs.FieldSpellings

/-!
Revisions of a document.

A document can be revised by putting the keys of its mappings in another order and by adding or removing
keys that are not read: at its top, in a type, in a variant and in a field that is a mapping of its own. Main
statement: a document and its revision have the same descriptors, or neither has any. The only mapping whose
order shows in a descriptor is one that holds named fields: they are decoded in the order of its keys.
-/

namespace VariantIter

/-! ## Mappings -/

/-- One change to the entries of a mapping of which certain keys are read: they are put in another order, an
entry that is not read comes or goes, or the value under a key is revised. -/
inductive Entries.Edit (read : List Text) (inside : Text → Value → Value → Prop) :
    Entries → Entries → Prop
  | reorder {entries entries' : Entries} (distinct : entries.Distinct)
      (same : entries.Perm entries') : Edit read inside entries entries'
  | add {key : Value} (unread : ∀ name ∈ read, key ≠ .text name) (value : Value)
      (entries : Entries) : Edit read inside entries ((key, value) :: entries)
  | remove {key : Value} (unread : ∀ name ∈ read, key ≠ .text name) (value : Value)
      (entries : Entries) : Edit read inside ((key, value) :: entries) entries
  | revise {name : Text} {value value' : Value} (revised : inside name value value')
      (entries : Entries) :
      Edit read inside ((.text name, value) :: entries) ((.text name, value') :: entries)

/-- Any number of changes, one after another. -/
def Entries.Edits (read : List Text) (inside : Text → Value → Value → Prop) :
    Entries → Entries → Prop :=
  Relation.ReflTransGen (Edit read inside)

namespace Entries

variable {read : List Text} {inside : Text → Value → Value → Prop} {entries entries' : Entries}
  {name : Text}

/-- A change leaves what is read under a key, or revises it. -/
theorem Edit.get? (edit : Edit read inside entries entries') (reads : name ∈ read) :
    Option.Rel (fun value value' => value = value' ∨ inside name value value')
      (entries.get? name) (entries'.get? name) := by
  have unchanged (found : Option Value) :
      Option.Rel (fun value value' => value = value' ∨ inside name value value') found found := by
    cases found with
    | none => exact .none
    | some value => exact .some (.inl rfl)
  cases edit with
  | reorder distinct same =>
    rw [distinct.get?_perm same]
    exact unchanged _
  | add unread value _ =>
    rw [get?_cons_of_ne (unread name reads)]
    exact unchanged _
  | remove unread value _ =>
    rw [get?_cons_of_ne (unread name reads)]
    exact unchanged _
  | @revise revisedName value value' revised rest =>
    by_cases same : revisedName = name
    · subst same
      rw [get?_cons_text, get?_cons_text]
      exact .some (.inr revised)
    · have other : Value.text revisedName ≠ .text name := by
        intro equal
        exact same (Value.text.inj equal)
      rw [get?_cons_of_ne other, get?_cons_of_ne other]
      exact unchanged _

/-- What is read under a key before and after any number of changes agrees, if values agree with
themselves and with their revisions. -/
theorem Edits.get? {agree : Value → Value → Prop} (refl : ∀ value, agree value value)
    (trans : ∀ {first second third}, agree first second → agree second third → agree first third)
    (revised : ∀ value value', inside name value value' → agree value value')
    (edits : Edits read inside entries entries') (reads : name ∈ read) :
    Option.Rel agree (entries.get? name) (entries'.get? name) := by
  -- Along the changes, what is found under the key stays there and agrees step by step.
  induction edits with
  | refl =>
    cases entries.get? name with
    | none => exact .none
    | some value => exact .some (refl value)
  | @tail middle last _ edit ih =>
    have step := edit.get? reads
    generalize entries.get? name = first at ih
    generalize middle.get? name = second at ih step
    generalize last.get? name = third at step
    cases ih with
    | none =>
      cases step
      exact .none
    | some agrees =>
      cases step with
      | some changes =>
        rcases changes with rfl | changed
        · exact .some agrees
        · exact .some (trans agrees (revised _ _ changed))

/-- Under a key whose value is not revised, the same is read. -/
theorem Edits.get?_eq (edits : Edits read inside entries entries') (reads : name ∈ read)
    (never : ∀ value value', ¬ inside name value value') :
    entries.get? name = entries'.get? name := by
  have found := edits.get? (fun value => rfl) (fun first second => first.trans second)
    (fun value value' revised => absurd revised (never value value')) reads
  generalize entries.get? name = first at found
  generalize entries'.get? name = second at found
  cases found with
  | none => rfl
  | some same => rw [same]

/-- Changes that spare certain keys spare each of them. -/
theorem Edits.mono {fewer : List Text} (edits : Edits read inside entries entries')
    (among : ∀ name ∈ fewer, name ∈ read) : Edits fewer inside entries entries' := by
  refine Relation.ReflTransGen.mono (fun entries entries' edit => ?_) _ _ edits
  cases edit with
  | reorder distinct same => exact .reorder distinct same
  | add unread value entries =>
    exact .add (fun name member => unread name (among name member)) value entries
  | remove unread value entries =>
    exact .remove (fun name member => unread name (among name member)) value entries'
  | revise revised entries => exact .revise revised entries

end Entries

/-- A mapping with changes to its entries, or the same value. -/
inductive Value.Revised (read : List Text) (inside : Text → Value → Value → Prop) :
    Value → Value → Prop
  | same (value : Value) : Revised read inside value value
  | mapping {value value' : Value} {entries entries' : Entries} (before : value.content = .map entries)
      (after : value'.content = .map entries') (edits : Entries.Edits read inside entries entries') :
      Revised read inside value value'

/-- A list with its items revised one by one. -/
def Value.ItemsRevised (item : Value → Value → Prop) (value value' : Value) : Prop :=
  ∃ items items', value.content = .list items ∧ value'.content = .list items' ∧
    List.Forall₂ item items items'

namespace Descriptor

open Outcome

/-! ## Documents -/

/-- A named field that is a mapping of its own: its name and its type are read. -/
def FieldRevised : Value → Value → Prop :=
  Value.Revised ["name", "type"] fun _ _ _ => False

/-- What may be revised inside of a variant: the items of a list of named fields. -/
def insideVariant (name : Text) (value value' : Value) : Prop :=
  name = "named" ∧ Value.ItemsRevised FieldRevised value value'

def VariantRevised : Value → Value → Prop :=
  Value.Revised ["name", "positional", "named"] insideVariant

/-- What may be revised inside of a type: its variants. -/
def insideType (name : Text) (value value' : Value) : Prop :=
  name = "variants" ∧ Value.ItemsRevised VariantRevised value value'

def typeKeys : List Text :=
  ["name", "kind", "variants", "visibility"]

def TypeRevised : Value → Value → Prop :=
  Value.Revised typeKeys insideType

/-- What may be revised inside of a document: its types. -/
def insideDocument (name : Text) (value value' : Value) : Prop :=
  name = "types" ∧ Value.ItemsRevised TypeRevised value value'

/-- A document and a revision of it. A mapping with types stays one, and a mapping that is a single type gets
no types. -/
inductive DocumentRevised : Value → Value → Prop
  | same (value : Value) : DocumentRevised value value
  | types {value value' types : Value} {entries entries' : Entries}
      (before : value.content = .map entries) (after : value'.content = .map entries')
      (present : (.text "types", types) ∈ entries)
      (edits : Entries.Edits ["types"] insideDocument entries entries') : DocumentRevised value value'
  | list {value value' : Value} (revised : Value.ItemsRevised TypeRevised value value') :
      DocumentRevised value value'
  | single {value value' : Value} {entries entries' : Entries}
      (before : value.content = .map entries) (after : value'.content = .map entries')
      (absent : ∀ types, (.text "types", types) ∉ entries)
      (edits : Entries.Edits ("types" :: typeKeys) insideType entries entries') :
      DocumentRevised value value'

/-! ## Fields -/

variable {type : Option Value} {value value' : Value} {entries entries' : Entries}

theorem decodeItem_eq_ok_of_mapping (content : value.content = .map entries)
    {pair : Value × Value} :
    decodeItem type value = .ok pair ↔
      entries.get? "name" = some pair.1 ∧ entries.get? "type" = some pair.2 := by
  obtain ⟨name, fieldType⟩ := pair
  unfold decodeItem
  simp only [content]
  cases entries.get? "name" with
  | none => simp
  | some name' =>
    cases entries.get? "type" with
    | none => simp
    | some fieldType' => simp

theorem sameResult_decodeItem (revised : FieldRevised value value') :
    SameResult (decodeItem type value) (decodeItem type value') := by
  cases revised with
  | same => exact .refl _
  | mapping before after edits =>
    intro pair
    rw [decodeItem_eq_ok_of_mapping before, decodeItem_eq_ok_of_mapping after,
      edits.get?_eq (by simp) (by simp), edits.get?_eq (by simp) (by simp)]

theorem sameResult_decodePairs (revised : Value.ItemsRevised FieldRevised value value') :
    SameResult (decodePairs type value) (decodePairs type value') := by
  obtain ⟨items, items', before, after, each⟩ := revised
  unfold decodePairs
  rw [before, after]
  refine sameResult_mapM (each.imp ?_)
  intro item item' changed
  exact sameResult_decodeItem changed

/-! ## Variants -/

/-- The payload depends on what is read under two keys. -/
theorem sameResult_decodeShape
    (positional : entries.get? "positional" = entries'.get? "positional")
    (named : Option.Rel (fun fields fields' => SameResult (decodePairs type fields)
      (decodePairs type fields')) (entries.get? "named") (entries'.get? "named")) :
    SameResult (decodeShape type entries) (decodeShape type entries') := by
  unfold decodeShape
  rw [positional]
  generalize entries'.get? "positional" = types
  generalize entries.get? "named" = fields at named
  generalize entries'.get? "named" = fields' at named
  cases named with
  | none =>
    cases types with
    | some types => exact .refl _
    | none => exact .refl _
  | some same =>
    cases types with
    | some types => exact sameResult_of_errors _ _
    | none => exact same.bind fun pairs => .refl _

theorem sameResult_decodeVariant (revised : VariantRevised value value') :
    SameResult (decodeVariant type value) (decodeVariant type value') := by
  cases revised with
  | same => exact .refl _
  | mapping before after edits =>
    rename_i entries entries'
    have name : entries.get? "name" = entries'.get? "name" := by
      refine edits.get?_eq (by simp) ?_
      rintro value value' ⟨other, _⟩
      cases other
    have positional : entries.get? "positional" = entries'.get? "positional" := by
      refine edits.get?_eq (by simp) ?_
      rintro value value' ⟨other, _⟩
      cases other
    have named : Option.Rel (fun fields fields' => SameResult (decodePairs type fields)
        (decodePairs type fields')) (entries.get? "named") (entries'.get? "named") := by
      refine edits.get? (fun fields => .refl _) (fun first second => first.trans second) ?_ (by simp)
      rintro fields fields' ⟨_, revised⟩
      exact sameResult_decodePairs revised
    unfold decodeVariant
    simp only [before, after, name]
    cases entries'.get? "name" with
    | none => exact sameResult_of_errors _ _
    | some key =>
      refine (SameResult.refl _).bind fun name => ?_
      exact (sameResult_decodeShape positional named).bind fun shape => .refl _

/-! ## Types -/

/-- The variants of a type, which have to be a list. -/
def decodeVariants (type : Option Value) (variants : Value) : Except Fault (List Variant) :=
  match variants.content with
  | .list items => items.mapM (decodeVariant type)
  | _ => .error (.descriptor .variantsNotList type)

/-- A type is decoded from what is read under four keys. -/
theorem decode_of_mapping (content : value.content = .map entries) {key : Value}
    (named : entries.get? "name" = some key) :
    decode value = (do
      let name ← Identifier.require key none
      let kind ← decodeKind (some (.text name)) (entries.get? "kind")
      let variants ← decodeVariants (some (.text name))
        ((entries.get? "variants").getD (.list []))
      let visibility ← Visibility.require (visibilityValue (entries.get? "visibility"))
        (some (.text name))
      return ⟨name, variants, kind, visibility⟩) := by
  unfold decode
  simp only [content, named]
  cases Identifier.require key none with
  | error fault => rfl
  | ok name =>
    rw [ok_bind, ok_bind]
    cases decodeKind (some (.text name)) (entries.get? "kind") with
    | error fault => rfl
    | ok kind =>
      rw [ok_bind, ok_bind, decodeVariants]
      cases ((entries.get? "variants").getD (.list [])).content with
      | list items => rfl
      | _ => rfl

theorem sameResult_decodeVariants (revised : Value.ItemsRevised VariantRevised value value') :
    SameResult (decodeVariants type value) (decodeVariants type value') := by
  obtain ⟨items, items', before, after, each⟩ := revised
  unfold decodeVariants
  rw [before, after]
  refine sameResult_mapM (each.imp ?_)
  intro item item' changed
  exact sameResult_decodeVariant changed

theorem sameResult_decode (revised : TypeRevised value value') :
    SameResult (decode value) (decode value') := by
  cases revised with
  | same => exact .refl _
  | mapping before after edits =>
    rename_i entries entries'
    have unrevised (name : Text) (other : name ≠ "variants") (reads : name ∈ typeKeys) :
        entries.get? name = entries'.get? name := by
      refine edits.get?_eq reads ?_
      rintro value value' ⟨same, _⟩
      exact other same
    have variants (name : Text) : Option.Rel (fun variants variants' =>
        SameResult (decodeVariants (some (.text name)) variants)
          (decodeVariants (some (.text name)) variants'))
        (entries.get? "variants") (entries'.get? "variants") := by
      refine edits.get? (fun variants => .refl _) (fun first second => first.trans second) ?_
        (by simp [typeKeys])
      rintro variants variants' ⟨_, revised⟩
      exact sameResult_decodeVariants revised
    have listed (name : Text) : SameResult
        (decodeVariants (some (.text name)) ((entries.get? "variants").getD (.list [])))
        (decodeVariants (some (.text name)) ((entries'.get? "variants").getD (.list []))) := by
      have found := variants name
      generalize entries.get? "variants" = first at found
      generalize entries'.get? "variants" = second at found
      cases found with
      | none => exact .refl _
      | some same => exact same
    have named := unrevised "name" (by decide) (by simp [typeKeys])
    cases given : entries'.get? "name" with
    | none =>
      have missing : entries.get? "name" = none := named.trans given
      unfold decode
      simp only [before, after, given, missing]
      exact sameResult_of_errors _ _
    | some key =>
      rw [decode_of_mapping before (named.trans given), decode_of_mapping after given,
        unrevised "kind" (by decide) (by simp [typeKeys]),
        unrevised "visibility" (by decide) (by simp [typeKeys])]
      refine (SameResult.refl _).bind fun name => (SameResult.refl _).bind fun kind => ?_
      exact (listed name).bind fun variants => .refl _

/-! ## Whole documents -/

/-- The types of a document that lists them. -/
def decodeTypes (types : Value) : Except Fault (List Descriptor) :=
  match types.content with
  | .list items => items.mapM decode
  | _ => .error (.descriptor .typesNotList none)

theorem decodeDocument_of_types (content : value.content = .map entries) {types : Value}
    (given : entries.get? "types" = some types) : decodeDocument value = decodeTypes types := by
  cases listed : types.content with
  | list items => simp only [decodeDocument, decodeTypes, content, given, listed]
  | _ => simp only [decodeDocument, decodeTypes, content, given, listed]

theorem decodeDocument_of_single (content : value.content = .map entries)
    (absent : entries.get? "types" = none) :
    decodeDocument value = (do return [← decode value]) := by
  unfold decodeDocument
  simp only [content, absent]

theorem sameResult_decodeTypes (revised : Value.ItemsRevised TypeRevised value value') :
    SameResult (decodeTypes value) (decodeTypes value') := by
  obtain ⟨items, items', before, after, each⟩ := revised
  unfold decodeTypes
  rw [before, after]
  refine sameResult_mapM (each.imp ?_)
  intro item item' changed
  exact sameResult_decode changed

theorem sameResult_decodeDocument (revised : DocumentRevised value value') :
    SameResult (decodeDocument value) (decodeDocument value') := by
  cases revised with
  | same => exact .refl _
  | types before after present edits =>
    rename_i entries entries'
    have found : Option.Rel (fun types types' => SameResult (decodeTypes types) (decodeTypes types'))
        (entries.get? "types") (entries'.get? "types") := by
      refine edits.get? (fun types => .refl _) (fun first second => first.trans second) ?_ (by simp)
      rintro types types' ⟨_, revised⟩
      exact sameResult_decodeTypes revised
    cases given : entries.get? "types" with
    | none => exact absurd present (Entries.get?_eq_none_iff.mp given _)
    | some types =>
      rw [given] at found
      cases given' : entries'.get? "types" with
      | none =>
        rw [given'] at found
        cases found
      | some types' =>
        rw [given'] at found
        cases found with
        | some same =>
          rwa [decodeDocument_of_types before given, decodeDocument_of_types after given']
  | list revised =>
    obtain ⟨items, items', before, after, each⟩ := revised
    unfold decodeDocument
    rw [before, after]
    refine sameResult_mapM (each.imp ?_)
    intro item item' changed
    exact sameResult_decode changed
  | single before after absent edits =>
    rename_i entries entries'
    have missing : entries.get? "types" = none := Entries.get?_eq_none_iff.mpr absent
    have missing' : entries'.get? "types" = none := by
      rw [← missing]
      refine (edits.get?_eq List.mem_cons_self ?_).symm
      rintro types types' ⟨other, _⟩
      cases other
    rw [decodeDocument_of_single before missing, decodeDocument_of_single after missing']
    have same : SameResult (decode value) (decode value') :=
      sameResult_decode (.mapping before after
        (edits.mono fun name member => List.mem_cons_of_mem _ member))
    exact same.bind fun descriptor => .refl _

/-! ## The order of named fields -/

/-- If a variant was given a mapping of named fields, they stand in the order of its keys. -/
def VariantKeepsOrder (item : Value) (variant : Variant) : Prop :=
  ∀ (members : Entries) (fields : Value) (pairs : Entries), item.content = .map members →
    members.get? "named" = some fields → fields.content = .map pairs → ∃ named, variant.payload = .shape (.named named) ∧
      pairs.map Prod.fst = (named.map Prod.fst).map .text

/-- The same of all variants of a type. -/
def TypeKeepsOrder (entry : Value) (descriptor : Descriptor) : Prop :=
  ∀ (members : Entries) (variants : Value) (items : List Value), entry.content = .map members →
    members.get? "variants" = some variants → variants.content = .list items →
    List.Forall₂ VariantKeepsOrder items descriptor.variants

theorem variantKeepsOrder_of_decodeVariant {item : Value} {variant : Variant}
    (decoded : decodeVariant type item = .ok variant) : VariantKeepsOrder item variant := by
  intro members fields pairs content given mapping
  unfold decodeVariant at decoded
  simp only [content] at decoded
  cases named : members.get? "name" with
  | none =>
    rw [named] at decoded
    cases decoded
  | some key =>
    simp only [named] at decoded
    obtain ⟨name, _, decoded⟩ := bind_eq_ok.mp decoded
    obtain ⟨shape, shaped, same⟩ := bind_eq_ok.mp decoded
    cases same
    unfold decodeShape at shaped
    rw [given] at shaped
    cases positional : members.get? "positional" with
    | some types =>
      rw [positional] at shaped
      cases shaped
    | none =>
      simp only [positional] at shaped
      obtain ⟨pairs', paired, shaped⟩ := bind_eq_ok.mp shaped
      obtain ⟨named, listed, same⟩ := bind_eq_ok.mp shaped
      cases same
      rw [decodePairs, mapping] at paired
      cases paired
      exact ⟨named, rfl, names_of_isFieldOf (isFieldOf_of_decodeFields listed)⟩

theorem typeKeepsOrder_of_decode {entry : Value} {descriptor : Descriptor}
    (decoded : decode entry = .ok descriptor) : TypeKeepsOrder entry descriptor := by
  intro members variants items content given listed
  cases named : members.get? "name" with
  | none =>
    unfold decode at decoded
    simp only [content, named] at decoded
    cases decoded
  | some key =>
    rw [decode_of_mapping content named, given] at decoded
    obtain ⟨name, _, decoded⟩ := bind_eq_ok.mp decoded
    obtain ⟨kind, _, decoded⟩ := bind_eq_ok.mp decoded
    obtain ⟨decodedVariants, mapped, decoded⟩ := bind_eq_ok.mp decoded
    obtain ⟨visibility, _, same⟩ := bind_eq_ok.mp decoded
    cases same
    rw [Option.getD_some, decodeVariants, listed] at mapped
    refine (mapM_eq_ok.mp mapped).imp ?_
    intro item variant done
    exact variantKeepsOrder_of_decodeVariant done

/-- A document and its revision have the same descriptors, or neither has any. In the descriptors of a document,
named fields that were given as a mapping keep the order of its keys. -/
theorem decodeDocument_revised {value value' : Value} (revised : DocumentRevised value value') :
    (∀ descriptors,
      decodeDocument value = .ok descriptors ↔ decodeDocument value' = .ok descriptors) ∧
    ∀ descriptors, decodeDocument value = .ok descriptors →
      ∃ entries, entries? value = some entries ∧ List.Forall₂ TypeKeepsOrder entries descriptors := by
  refine ⟨sameResult_decodeDocument revised, ?_⟩
  intro descriptors decoded
  cases found : entries? value with
  | none =>
    obtain ⟨cause, refused, _⟩ := decodeDocument_without_entries found
    cases refused.symm.trans decoded
  | some entries =>
    rw [decodeDocument_of_entries found] at decoded
    refine ⟨entries, rfl, (mapM_eq_ok.mp decoded).imp ?_⟩
    intro entry descriptor done
    exact typeKeepsOrder_of_decode done

/-- A field, and the same field with its keys in another order and a remark. -/
def smallField : Value :=
  .map (Entries.ofFields [("name", .text "x"), ("type", .text "u8")])

def remarkedField : Value :=
  .map (Entries.ofFields [("remark", .bool true), ("type", .text "u8"), ("name", .text "x")])

/-- The same of a variant with this field. -/
def smallVariant : Value :=
  .map (Entries.ofFields [("name", .text "A"), ("named", .list [smallField])])

def remarkedVariant : Value :=
  .map (Entries.ofFields [("remark", .int 1), ("named", .list [remarkedField]), ("name", .text "A")])

/-- A document with one type that has this variant, and the same with other keys and another order. -/
def smallDocument : Value :=
  .map (Entries.ofFields [("types",
    .list [.map (Entries.ofFields [("name", .text "T"), ("variants", .list [smallVariant])])])])

def remarkedDocument : Value :=
  .map (Entries.ofFields [("remark", .null), ("types",
    .list [.map (Entries.ofFields [("variants", .list [remarkedVariant]), ("name", .text "T")])])])

theorem decodeDocument_revised_remarked :
    DocumentRevised smallDocument remarkedDocument ∧
    decodeDocument smallDocument =
      .ok [⟨"T", [⟨"A", .shape (.named [("x", .ref "u8")])⟩], .sum, ""⟩] ∧
    decodeDocument remarkedDocument =
      .ok [⟨"T", [⟨"A", .shape (.named [("x", .ref "u8")])⟩], .sum, ""⟩] := by
  have swap {read : List Text} {inside : Text → Value → Value → Prop} (first second : Text)
      (differ : first ≠ second) (value value' : Value) : Entries.Edits read inside
        (Entries.ofFields [(first, value), (second, value')])
        (Entries.ofFields [(second, value'), (first, value)]) := by
    refine .single (.reorder (Entries.distinct_ofFields.mpr ?_) (.swap _ _ _))
    simpa using differ
  have unread (read : List Text) (absent : ("remark" : Text) ∉ read) :
      ∀ name ∈ read, Value.text "remark" ≠ .text name := by
    intro name member same
    exact absent (Value.text.inj same ▸ member)
  have field : FieldRevised smallField remarkedField :=
    .mapping rfl rfl ((swap "name" "type" (by decide) _ _).tail
      (.add (unread ["name", "type"] (by decide)) (.bool true) _))
  have variant : VariantRevised smallVariant remarkedVariant :=
    .mapping rfl rfl (((swap "name" "named" (by decide) _ _).tail
      (.revise ⟨rfl, [smallField], [remarkedField], rfl, rfl, .cons field .nil⟩ _)).tail
      (.add (unread ["name", "positional", "named"] (by decide)) (.int 1) _))
  have ofType : TypeRevised
      (.map (Entries.ofFields [("name", .text "T"), ("variants", .list [smallVariant])]))
      (.map (Entries.ofFields [("variants", .list [remarkedVariant]), ("name", .text "T")])) :=
    .mapping rfl rfl ((swap "name" "variants" (by decide) _ _).tail
      (.revise ⟨rfl, [smallVariant], [remarkedVariant], rfl, rfl, .cons variant .nil⟩ _))
  have revised : DocumentRevised smallDocument remarkedDocument :=
    .types rfl rfl List.mem_cons_self
      ((Relation.ReflTransGen.single (.revise ⟨rfl, _, _, rfl, rfl, .cons ofType .nil⟩ _)).tail
        (.add (unread ["types"] (by decide)) .null _))
  have decoded : decodeDocument smallDocument =
      .ok [⟨"T", [⟨"A", .shape (.named [("x", .ref "u8")])⟩], .sum, ""⟩] := rfl
  exact ⟨revised, decoded, ((decodeDocument_revised revised).1 _).mp decoded⟩

end Descriptor

end VariantIter
