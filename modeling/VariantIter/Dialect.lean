import VariantIter.Descriptor.Basic

/-!
The languages that code is generated in, and the expressions of each.

Both dialects construct a variant with the default of every field's type. Rust tells the three shapes of
a payload apart; in Python every variant is a call. Only Rust shows visibility.
-/

namespace VariantIter

/-- The default of a type. -/
structure DefaultValue where
  type : TypeRef

/-- One variant of its owner, constructed from defaults. Only the list that fits the kind is used. -/
structure Construction where
  owner : Text
  variant : Text
  kind : ShapeKind
  positional : List DefaultValue := []
  named : List (Text × DefaultValue) := []

/-- The construction of a variant; bare texts among the field types become references. -/
def Construction.build (owner : Text) (variant : Variant) : Except Fault Construction := do
  match ← variant.payload.classify with
  | .none => return ⟨owner, variant.name, .none, [], []⟩
  | .positional types =>
      return ⟨owner, variant.name, .positional, types.map fun type => ⟨type.wrapped⟩, []⟩
  | .named fields =>
      return ⟨owner, variant.name, .named, [], fields.map fun (name, type) => (name, ⟨type.wrapped⟩)⟩

/-- The types that a construction prints. -/
def Construction.types (c : Construction) : List TypeRef :=
  match c.kind with
  | .none => []
  | .positional => c.positional.map DefaultValue.type
  | .named => c.named.map fun field => field.2.type

/-- Whether the types that a construction prints can be shown. -/
def Construction.isShowable (c : Construction) : Bool :=
  c.types.all TypeRef.isShowable

inductive Dialect where
  | rust
  | python
deriving DecidableEq, Repr

namespace Dialect

def name : Dialect → Text
  | .rust => "rust"
  | .python => "python"

def all : List Dialect :=
  [.rust, .python]

def ofName? (name : Text) : Option Dialect :=
  all.find? fun dialect => dialect.name == name

def defaultValue (dialect : Dialect) (value : DefaultValue) : Text :=
  match dialect with
  | .rust => "<" ++ value.type.text ++ " as ::core::default::Default>::default()"
  | .python => value.type.text ++ "()"

def arguments (dialect : Dialect) (values : List DefaultValue) : Text :=
  Text.joined ", " (values.map dialect.defaultValue)

/-- Named arguments, with the mark that the dialect puts between name and value. -/
def namedArguments (dialect : Dialect) (mark : Text) (fields : List (Text × DefaultValue)) :
    Text :=
  Text.joined ", " (fields.map fun (name, value) => name ++ mark ++ dialect.defaultValue value)

def construct (dialect : Dialect) (c : Construction) : Text :=
  match dialect with
  | .rust =>
      let path := c.owner ++ "::" ++ c.variant
      match c.kind with
      | .none => path
      | .positional => path ++ "(" ++ dialect.arguments c.positional ++ ")"
      | .named =>
          if c.named.isEmpty then path ++ " \x7b\x7d"
          else path ++ " \x7b " ++ dialect.namedArguments ": " c.named ++ " \x7d"
  | .python =>
      let path := c.owner ++ "." ++ c.variant
      match c.kind with
      | .none => path ++ "()"
      | .positional => path ++ "(" ++ dialect.arguments c.positional ++ ")"
      | .named => path ++ "(" ++ dialect.namedArguments "=" c.named ++ ")"

/-- A qualifier in front of a declaration, with a space after it. -/
def visibility (dialect : Dialect) (qualifier : Text) : Text :=
  match dialect with
  | .rust => if qualifier.isEmpty then [] else qualifier ++ " "
  | .python => ""

end Dialect

/-- A printer of expressions; without a dialect it hides visibility and knows no expression. -/
abbrev ExpressionPrinter := Option Dialect

namespace ExpressionPrinter

def name (printer : ExpressionPrinter) : Text :=
  match printer with
  | some dialect => dialect.name
  | none => ""

def defaultValue (printer : ExpressionPrinter) (value : DefaultValue) : Except Fault Text :=
  match printer with
  | some dialect =>
      if value.type.isShowable then .ok (dialect.defaultValue value) else .error (.range .unshowable)
  | none => .error .notImplemented

def construct (printer : ExpressionPrinter) (c : Construction) : Except Fault Text :=
  match printer with
  | some dialect => if c.isShowable then .ok (dialect.construct c) else .error (.range .unshowable)
  | none => .error .notImplemented

def visibility (printer : ExpressionPrinter) (qualifier : Text) : Text :=
  match printer with
  | some dialect => dialect.visibility qualifier
  | none => ""

end ExpressionPrinter

end VariantIter
