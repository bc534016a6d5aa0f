import VariantIter.Fault

/-!
Descriptors of types: what the generator is given.

A type is a sum type, a record or a union; a sum type has variants with a payload each. A descriptor
built by hand may carry anything in place of a payload or of a field type.
-/

namespace VariantIter

inductive Kind where
  | sum
  | record
  | union
deriving DecidableEq, Repr

namespace Kind

def name : Kind → Text
  | .sum => "sum"
  | .record => "record"
  | .union => "union"

/-- The plural in messages. -/
def plural : Kind → Text
  | .sum => "sum types"
  | .record => "records"
  | .union => "unions"

def all : List Kind :=
  [.sum, .record, .union]

def ofName? (name : Text) : Option Kind :=
  all.find? fun kind => kind.name == name

end Kind

/-- A field type: a reference that is printed as it is, or a value that was never made one. -/
inductive TypeRef where
  | ref (text : Text)
  | bare (value : Value)

namespace TypeRef

def text : TypeRef → Text
  | .ref text => text
  | .bare value => value.display

/-- Whether a type can be shown; a reference always can. -/
def isShowable : TypeRef → Bool
  | .ref _ => true
  | .bare value => value.isShowable

/-- A bare text is a reference. -/
def wrapped : TypeRef → TypeRef
  | .bare (.text s) => .ref s
  | type => type

end TypeRef

/-- The structure of a payload. -/
inductive ShapeKind where
  | none
  | positional
  | named
deriving DecidableEq, Repr

namespace ShapeKind

def name : ShapeKind → Text
  | .none => "none"
  | .positional => "positional"
  | .named => "named"

def all : List ShapeKind :=
  [.none, .positional, .named]

def ofName? (name : Text) : Option ShapeKind :=
  all.find? fun kind => kind.name == name

end ShapeKind

/-- The fields of a variant: none, by position, or by name. -/
inductive Shape where
  | none
  | positional (types : List TypeRef)
  | named (fields : List (Text × TypeRef))

namespace Shape

def kind : Shape → ShapeKind
  | .none => .none
  | .positional _ => .positional
  | .named _ => .named

/-- The field types in order. -/
def types : Shape → List TypeRef
  | .none => []
  | .positional types => types
  | .named fields => fields.map Prod.snd

end Shape

/-- What stands in a variant's place for a payload. -/
inductive Payload where
  | shape (shape : Shape)
  | foreign (value : Value)

/-- The shape of a payload. Null stands for no fields; any other value is no shape. -/
def Payload.classify : Payload → Except Fault Shape
  | .shape known => .ok known
  | .foreign .null => .ok .none
  | .foreign value => .error (Fault.reported (.kind (.notShape value)))

structure Variant where
  name : Text
  payload : Payload := .shape .none

structure Descriptor where
  name : Text
  variants : List Variant := []
  kind : Kind := .sum
  visibility : Text := ""

end VariantIter
