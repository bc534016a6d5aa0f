import VariantIter.Text.Lines

/-!
Paths of files.

A path is an anchor and names. Empty names and single dots are left out when a text is read as a path,
so the empty path and `.` are one; two dots stay.
-/

namespace VariantIter

structure Path where
  anchor : Text := []
  names : List Text
deriving DecidableEq, Repr

namespace Path

def slash : CodePoint := .char '/'

/-- Two slashes at the start are an anchor of their own; any other number of them is one. -/
def anchorOf (text : Text) : Text :=
  match (text.takeWhile (· == slash)).length with
  | 0 => []
  | 2 => [slash, slash]
  | _ => [slash]

/-- The names between slashes. -/
def namesOf (text : Text) : List Text :=
  (Text.splitOn (· == slash) text).filter (!·.isEmpty)

def ofText (text : Text) : Path :=
  ⟨anchorOf text, (namesOf text).filter (· != ".")⟩

/-- A path with its single dots. -/
def spelled (text : Text) : Path :=
  ⟨anchorOf text, namesOf text⟩

def text (path : Path) : Text :=
  if path.names.isEmpty && path.anchor.isEmpty then "."
  else path.anchor ++ Text.joined [slash] path.names

def isAbsolute (path : Path) : Bool :=
  !path.anchor.isEmpty

/-- The end of a name from its last dot on, if something stands on either side of the dot. -/
def suffixOf (name : Text) : Text :=
  let extension := (name.reverse.takeWhile (· != .char '.')).reverse
  let stem := name.take (name.length - extension.length - 1)
  if extension.isEmpty || stem.isEmpty then [] else .char '.' :: extension

/-- The suffix of the last name. -/
def suffix (path : Path) : Text :=
  match path.names.getLast? with
  | some name => suffixOf name
  | none => []

end Path

end VariantIter
