import VariantIter.Fault

/-!
Names of types, variants and fields.

A name is an ASCII identifier: a letter or an underscore, then letters, digits and underscores. One line
feed after it is accepted as well.
-/

namespace VariantIter.Identifier

def isStart : CodePoint → Bool
  | .char c => ('a' ≤ c && c ≤ 'z') || ('A' ≤ c && c ≤ 'Z') || c == '_'
  | .surrogate _ => false

def isPart : CodePoint → Bool
  | .char c => isStart c || ('0' ≤ c && c ≤ '9')
  | .surrogate _ => false

/-- A letter or an underscore, then letters, digits and underscores. -/
def isPlain : Text → Bool
  | [] => false
  | c :: cs => isStart c && cs.all isPart

/-- A plain identifier, or one followed by a line feed. -/
def isName (cs : Text) : Bool :=
  isPlain cs || (cs.getLast? == some (.char '\n') && isPlain cs.dropLast)

/-- Whether a value is a name. What does not count as given is none; asking about any other value than
a text is a fault. -/
def admits (value : Value) : Except Fault Bool :=
  match value.content with
  | .text s => .ok (isName s)
  | value => if value.truthy then .error (.kind (.ofNoText value)) else .ok false

/-- The name that a value is, for the type at hand. -/
def require (value : Value) (type : Option Value) : Except Fault Text :=
  match value with
  | .text s =>
      if isName s then .ok s else .error (.descriptor (.invalidIdentifier value) type)
  | _ => .error (.descriptor (.invalidIdentifier value) type)

end VariantIter.Identifier
