import VariantIter.Yaml.Fault

/-!
A place in the text of a YAML document.

Line feeds, next-line characters and the line and paragraph separators end a line. A byte order mark
takes no column.
-/

namespace VariantIter.Yaml

/-- The characters of a document that are left, and the position of the first of them. -/
structure Cursor where
  rest : List Char
  index : Nat := 0
  line : Nat := 0
  column : Nat := 0
deriving Repr

def isBreak (c : Char) : Bool :=
  c == '\n' || c == '\x85' || c == '\u2028' || c == '\u2029'

/-- A space, a tab or a line end. -/
def isGap (c : Char) : Bool :=
  c == ' ' || c == '\t' || isBreak c

/-- The given characters start with a gap, or there are none. -/
def gapAhead : List Char → Bool
  | [] => true
  | c :: _ => isGap c

/-- The given characters start with a space or a line end, or there are none. -/
def spaceAhead : List Char → Bool
  | [] => true
  | c :: _ => c == ' ' || isBreak c

/-- The given characters start with a line end, or there are none. -/
def breakAhead : List Char → Bool
  | [] => true
  | c :: _ => isBreak c

/-- Three hyphens or three dots before a gap: the mark of a document's start or end. -/
def markerAhead : List Char → Bool
  | '-' :: '-' :: '-' :: rest => gapAhead rest
  | '.' :: '.' :: '.' :: rest => gapAhead rest
  | _ => false

namespace Cursor

/-- Passes over one character. -/
def next (cursor : Cursor) : Cursor :=
  match cursor.rest with
  | [] => cursor
  | c :: rest =>
      if isBreak c then ⟨rest, cursor.index + 1, cursor.line + 1, 0⟩
      else if c == '\ufeff' then ⟨rest, cursor.index + 1, cursor.line, cursor.column⟩
      else ⟨rest, cursor.index + 1, cursor.line, cursor.column + 1⟩

/-- Passes over a number of characters. -/
def skip (cursor : Cursor) : Nat → Cursor
  | 0 => cursor
  | n + 1 => cursor.next.skip n

/-- The characters up to the first that does not satisfy `p`, and the place after them. -/
def span (cursor : Cursor) (p : Char → Bool) : List Char × Cursor :=
  let taken := cursor.rest.takeWhile p
  (taken, cursor.skip taken.length)

def skipWhile (cursor : Cursor) (p : Char → Bool) : Cursor :=
  (cursor.span p).2

def skipSpaces (cursor : Cursor) : Cursor :=
  cursor.skipWhile (· == ' ')

/-- Passes over a comment, if one starts here. -/
def skipComment (cursor : Cursor) : Cursor :=
  match cursor.rest with
  | '#' :: _ => cursor.skipWhile fun c => !isBreak c
  | _ => cursor

/-- A line end, if one is here: the text that it stands for, and the place after it. -/
def lineEnd (cursor : Cursor) : List Char × Cursor :=
  match cursor.rest with
  | [] => ([], cursor)
  | c :: _ =>
      if c == '\n' || c == '\x85' then (['\n'], cursor.next)
      else if isBreak c then ([c], cursor.next)
      else ([], cursor)

/-- Passes over spaces and a comment to the end of a line and beyond it; refuses anything else. -/
def skipLine (cursor : Cursor) (otherwise : Malformed) : Except Halt Cursor :=
  let cursor := cursor.skipSpaces.skipComment
  if breakAhead cursor.rest then .ok cursor.lineEnd.2 else .error (.malformed otherwise)

end Cursor

end VariantIter.Yaml
