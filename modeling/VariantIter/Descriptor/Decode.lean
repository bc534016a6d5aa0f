import VariantIter.Descriptor.Basic
import VariantIter.Text.Case
import VariantIter.Visibility

/-!
Descriptors from the values of a document.

The first fault in the order of decoding is the answer. Once the name of a type is known, every fault
inside of it names the type.
-/

namespace VariantIter.Descriptor

/-- A field type: a text that is not blank, without the blanks around it. -/
def decodeType (type : Option Value) (value : Value) : Except Fault TypeRef :=
  let refusal : Except Fault TypeRef := .error (.descriptor (.invalidFieldType value) type)
  match value with
  | .text s =>
      match Text.trim s with
      | [] => refusal
      | trimmed => .ok (.ref trimmed)
  | _ => refusal

/-- An item of a list of named fields: a mapping with name and type, or a sequence of two. -/
def decodeItem (type : Option Value) (item : Value) : Except Fault (Value × Value) :=
  let refusal : Except Fault (Value × Value) := .error (.descriptor (.invalidField item) type)
  match item.content with
  | .map entries =>
      match Entries.get? entries "name", Entries.get? entries "type" with
      | some name, some fieldType => .ok (name, fieldType)
      | _, _ => refusal
  | .list [name, fieldType] => .ok (name, fieldType)
  | .tuple [name, fieldType] => .ok (name, fieldType)
  | _ => refusal

/-- The pairs of named fields before they are checked. -/
def decodePairs (type : Option Value) (value : Value) : Except Fault (List (Value × Value)) :=
  match value.content with
  | .map entries => .ok entries
  | .list items => items.mapM (decodeItem type)
  | _ => .error (.descriptor .fieldsNotPairs type)

/-- Checks pairs one after another: the name, that it is new, and the field type. -/
def decodeFields (type : Option Value) (seen : List Text) :
    List (Value × Value) → Except Fault (List (Text × TypeRef))
  | [] => .ok []
  | (name, fieldType) :: pairs => do
      let name ← Identifier.require name type
      if seen.contains name then throw (.descriptor (.duplicateField name) type)
      let fieldType ← decodeType type fieldType
      let fields ← decodeFields type (name :: seen) pairs
      return (name, fieldType) :: fields

/-- The payload that the mapping of a variant describes. -/
def decodeShape (type : Option Value) (entries : Entries) : Except Fault Shape :=
  match entries.get? "positional", entries.get? "named" with
  | some _, some _ =>
      .error (.descriptor (.twoPayloads ((entries.get? "name").getD .null)) type)
  | some types, none => match types.content with
    | .list types => do return .positional (← types.mapM (decodeType type))
    | _ => .error (.descriptor .positionalNotList type)
  | none, some fields => do
      return .named (← decodeFields type [] (← decodePairs type fields))
  | none, none => .ok .none

/-- A variant: a name alone, or a mapping with a name. -/
def decodeVariant (type : Option Value) (value : Value) : Except Fault Variant :=
  let refusal : Except Fault Variant := .error (.descriptor (.invalidVariant value) type)
  match value.content with
  | .text _ => do return ⟨← Identifier.require value type, .shape .none⟩
  | .map entries =>
      match Entries.get? entries "name" with
      | some name => do
          let name ← Identifier.require name type
          let shape ← decodeShape type entries
          return ⟨name, .shape shape⟩
      | none => refusal
  | _ => refusal

/-- The kind of a type: a sum unless something else is said, in any letter case. -/
def decodeKind (type : Option Value) (value : Option Value) : Except Fault Kind := do
  let name := Text.lower (← (value.getD (.text Kind.sum.name)).shown)
  match Kind.ofName? name with
  | some kind => return kind
  | none => throw (.descriptor (.unknownKind name) type)

/-- What is written for no visibility at all. -/
def visibilityValue (value : Option Value) : Value :=
  match value with
  | some value => if value.truthy then value else .text ""
  | none => .text ""

/-- A type: its name, then its kind, variants and visibility. -/
def decode (value : Value) : Except Fault Descriptor :=
  let refusal : Except Fault Descriptor := .error (.descriptor (.invalidEntry value) none)
  match value.content with
  | .map entries =>
      match Entries.get? entries "name" with
      | some name => do
          let name ← Identifier.require name none
          let type := some (Value.text name)
          let kind ← decodeKind type (Entries.get? entries "kind")
          match ((Entries.get? entries "variants").getD (.list [])).content with
          | .list items => do
              let variants ← items.mapM (decodeVariant type)
              let visibility ←
                Visibility.require (visibilityValue (Entries.get? entries "visibility")) type
              return ⟨name, variants, kind, visibility⟩
          | _ => throw (.descriptor .variantsNotList type)
      | none => refusal
  | _ => refusal

/-- The types of a document: a mapping with a list of types, a list, or a single type. -/
def decodeDocument (value : Value) : Except Fault (List Descriptor) :=
  match value.content with
  | .map entries =>
      match Entries.get? entries "types" with
      | some types => match types.content with
        | .list items => items.mapM decode
        | _ => .error (.descriptor .typesNotList none)
      | none => do return [← decode value]
  | .list items => items.mapM decode
  | _ => .error (.descriptor (.unsupportedDocument value.kindName) none)

end VariantIter.Descriptor
