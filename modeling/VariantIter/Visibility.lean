import VariantIter.Identifier
import VariantIter.Text.Blank

/-!
Visibility qualifiers: nothing, `pub`, or `pub` restricted to the crate, the parent module, the module
itself or the module at a path. White space between the words of a qualifier is unified first.
-/

namespace VariantIter.Visibility

/-- Where a path stands: before a name, inside of one, or after the first of two colons. -/
inductive PathState where
  | start
  | inside
  | colon
deriving DecidableEq, Repr

/-- Names joined by double colons, up to a closing parenthesis at the very end. -/
def isPathEnd : PathState → Text → Bool
  | .inside, [.char ')'] => true
  | _, [] => false
  | .start, c :: cs => Identifier.isStart c && isPathEnd .inside cs
  | .inside, c :: cs =>
      if Identifier.isPart c then isPathEnd .inside cs else c == .char ':' && isPathEnd .colon cs
  | .colon, c :: cs => c == .char ':' && isPathEnd .start cs

/-- The qualifiers without a path. -/
def simple : List Text :=
  ["", "pub", "pub(crate)", "pub(super)", "pub(self)"]

/-- What stands before the path of a module. -/
def beforePath : Text := "pub(in "

/-- A qualifier with unified white space. -/
def isQualifier (cs : Text) : Bool :=
  simple.contains cs ||
    (beforePath.isPrefixOf cs && isPathEnd .start (cs.drop beforePath.length))

/-- The qualifier that a value is, with unified white space, for the type at hand. -/
def require (value : Value) (type : Option Value) : Except Fault Text :=
  let refusal : Except Fault Text := .error (.descriptor (.invalidVisibility value) type)
  match value with
  | .text s =>
      let unified := Text.unifyBlanks s
      if isQualifier unified then .ok unified else refusal
  | _ => refusal

end VariantIter.Visibility
