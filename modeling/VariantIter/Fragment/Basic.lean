import VariantIter.Dialect

/-!
The code of an iterator before it is printed.

A fragment declares the iterator's state, the operation that starts an iteration, the mapping from
indices to variants, and the operation that produces the next variant.
-/

namespace VariantIter

/-- The state of an iterator: a counter. -/
structure IteratorState where
  name : Text
  counter : Text
  initial : Nat := 0
  visibility : Text := ""
deriving Inhabited

/-- The operation on the owner that returns a fresh state. -/
structure EntryOperation where
  owner : Text
  name : Text
  returns : Text
  visibility : Text := ""
deriving Inhabited

structure Branch where
  index : Nat
  construction : Construction

/-- The operation that maps an index to a variant; `fallback` is the message of its last branch, which
no iteration reaches. -/
structure IndexMapping where
  name : Text
  owner : Text
  param : Text
  branches : List Branch
  fallback : Text
deriving Inhabited

/-- The operation that produces the next variant until there are `length`. -/
structure NextOperation where
  state : Text
  owner : Text
  counter : Text
  mapping : Text
  length : Nat
deriving Inhabited

structure Metadata where
  generator : Text
  variantCount : Nat
  shapes : List ShapeKind
deriving Inhabited

structure Fragment where
  typeName : Text
  capability : Value
  state : IteratorState
  entry : EntryOperation
  mapping : IndexMapping
  next : NextOperation
  metadata : Metadata
deriving Inhabited

def Fragment.variantCount (fragment : Fragment) : Nat :=
  fragment.mapping.branches.length

/-- Whether everything in a fragment that is printed can be shown. -/
def Fragment.isShowable (fragment : Fragment) : Bool :=
  fragment.capability.isShowable &&
    fragment.mapping.branches.all fun branch => branch.construction.isShowable

/-- The names of the declarations in the order in which they are printed. -/
def Fragment.declarationNames : List Text :=
  ["IteratorStateDecl", "EntryOperation", "IndexMapping", "NextOperation"]

end VariantIter
