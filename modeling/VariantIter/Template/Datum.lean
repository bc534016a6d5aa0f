import VariantIter.Fragment.Basic
import VariantIter.Text.Case

/-!
What a template can name: the parts of a fragment, their attributes, and how they are shown.

A record is shown as its kind and its parts in order. Some records stand for an expression, which a
dialect can print.
-/

namespace VariantIter.Template

/-- An expression of the generated code. -/
inductive Expression where
  | construction (c : Construction)
  | defaultValue (value : DefaultValue)

/-- Something that a template names. A missing one is a fault only where it is used. The derived
attributes of a record are not shown with it. -/
inductive Datum where
  | missing (fault : TemplateFault)
  | value (v : Value)
  /-- A count of parts or the place of one, which never has too many digits to be shown. -/
  | number (n : Nat)
  | typeRef (text : Text)
  | shape (kind : ShapeKind)
  | tuple (items : List Datum)
  | mapping (entries : List (Text × Datum))
  | record (kind : Text) (parts derived : List (Text × Datum))
      (expression : Option Expression)

namespace Datum

def text (s : Text) : Datum :=
  .value (.text s)

/-- A record that is no more than its parts. -/
def plain (kind : Text) (parts : List (Text × Datum)) : Datum :=
  .record kind parts [] none

/-! ## Parts of a fragment -/

def ofType : TypeRef → Datum
  | .ref text => .typeRef text
  | .bare v => .value v

def ofDefault (default : DefaultValue) : Datum :=
  .record "DefaultValue" [("type_ref", ofType default.type)] [] (some (.defaultValue default))

def ofConstruction (c : Construction) : Datum :=
  .record "VariantConstruction"
    [("owner", text c.owner), ("variant", text c.variant), ("kind", .shape c.kind),
      ("positional", .tuple (c.positional.map ofDefault)),
      ("named", .tuple (c.named.map fun (name, default) =>
        .tuple [text name, ofDefault default]))]
    [] (some (.construction c))

def ofBranch (branch : Branch) : Datum :=
  plain "MappingBranch"
    [("index", number branch.index), ("construction", ofConstruction branch.construction)]

def ofState (state : IteratorState) : Datum :=
  plain "IteratorStateDecl"
    [("name", text state.name), ("counter", text state.counter),
      ("initial", number state.initial), ("visibility", text state.visibility)]

def ofEntry (entry : EntryOperation) : Datum :=
  plain "EntryOperation"
    [("owner", text entry.owner), ("name", text entry.name), ("returns", text entry.returns),
      ("visibility", text entry.visibility)]

def ofMapping (mapping : IndexMapping) : Datum :=
  plain "IndexMapping"
    [("name", text mapping.name), ("owner", text mapping.owner), ("param", text mapping.param),
      ("branches", .tuple (mapping.branches.map ofBranch)),
      ("fallback", plain "Unreachable" [("message", text mapping.fallback)])]

def ofNext (next : NextOperation) : Datum :=
  plain "NextOperation"
    [("state", text next.state), ("owner", text next.owner), ("counter", text next.counter),
      ("mapping", text next.mapping), ("length", number next.length)]

def ofMetadata (metadata : Metadata) : Datum :=
  .mapping
    [("generator", text metadata.generator), ("variant_count", number metadata.variantCount),
      ("shapes", .tuple (metadata.shapes.map fun kind => text kind.name))]

def ofFragment (f : Fragment) : Datum :=
  .record "GeneratedFragment"
    [("type_name", text f.typeName), ("capability", .value f.capability),
      ("state", ofState f.state), ("entry", ofEntry f.entry), ("mapping", ofMapping f.mapping),
      ("next_op", ofNext f.next), ("metadata", ofMetadata f.metadata)]
    [("declarations",
        .tuple [ofState f.state, ofEntry f.entry, ofMapping f.mapping, ofNext f.next]),
      ("variant_count", number f.variantCount)]
    none

/-! ## Text -/

/-- The name of a shape in capitals. -/
def shapeName (kind : ShapeKind) : Text :=
  Text.upper kind.name

mutual

/-- A datum with its texts quoted. -/
def literal : Datum → Text
  | .missing fault => fault.message
  | .value v => v.literal
  | .number n => Text.ofNat n
  | .typeRef s => "TypeRef(text=" ++ Text.literal s ++ ")"
  | .shape kind => "<ShapeKind." ++ shapeName kind ++ ": " ++ Text.literal kind.name ++ ">"
  | .tuple items => literalTuple (literals items)
  | .mapping entries => "\x7b" ++ Text.joined ", " (entryLiterals entries) ++ "\x7d"
  | .record kind parts _ _ => kind ++ "(" ++ Text.joined ", " (partLiterals parts) ++ ")"

def literals : List Datum → List Text
  | [] => []
  | item :: items => literal item :: literals items

def entryLiterals : List (Text × Datum) → List Text
  | [] => []
  | (name, datum) :: entries =>
      (Text.literal name ++ ": " ++ literal datum) :: entryLiterals entries

def partLiterals : List (Text × Datum) → List Text
  | [] => []
  | (name, datum) :: parts => (name ++ "=" ++ literal datum) :: partLiterals parts

end

mutual

/-- Whether no value in a datum has too many digits to be shown. -/
def isShowable : Datum → Bool
  | .value v => v.isShowable
  | .tuple items => allShowable items
  | .mapping entries => partsShowable entries
  | .record _ parts _ _ => partsShowable parts
  | _ => true

def allShowable : List Datum → Bool
  | [] => true
  | item :: items => item.isShowable && allShowable items

def partsShowable : List (Text × Datum) → Bool
  | [] => true
  | (_, datum) :: parts => datum.isShowable && partsShowable parts

end

/-- A datum as a place shows it. -/
def display : Datum → Text
  | .value v => v.display
  | .typeRef s => s
  | .shape kind => "ShapeKind." ++ shapeName kind
  | datum => datum.literal

/-! ## Attributes -/

/-- The kind of a datum. -/
def kindName : Datum → Text
  | .missing _ => "missing"
  | .value v => v.qualifiedKind
  | .number _ => "int"
  | .typeRef _ => "TypeRef"
  | .shape _ => "ShapeKind"
  | .tuple _ => "tuple"
  | .mapping _ => "dict"
  | .record kind _ _ _ => kind

/-- A datum as messages about its attributes name it. -/
def description : Datum → Text
  | .value .null => "None"
  | .value v => v.qualifiedKind ++ " object"
  | .number _ => "int object"
  | .tuple _ => "tuple object"
  | .mapping _ => "dict object"
  | datum => "enumerant.codegen.types." ++ datum.kindName ++ " object"

/-- The fields of a record. -/
def fields : Datum → List (Text × Datum)
  | .typeRef s => [("text", text s)]
  | .shape kind => [("name", text (shapeName kind)), ("value", text kind.name)]
  | .record _ parts derived _ => parts ++ derived
  | _ => []

/-- What can be named behind a dot: the fields of a record, and the keys of a mapping. -/
def attributes (datum : Datum) : List (Text × Datum) :=
  match datum with
  | .mapping entries => entries
  | .value v => match v.content with
    | .map entries => entries.filterMap fun
      | (.text key, part) => some (key, .value part)
      | _ => none
    | _ => []
  | datum => datum.fields

/-- Whether a datum counts as given. -/
def truthy : Datum → Bool
  | .value v => v.truthy
  | .number n => n != 0
  | .tuple items => !items.isEmpty
  | .mapping entries => !entries.isEmpty
  | _ => true

end Datum

end VariantIter.Template
