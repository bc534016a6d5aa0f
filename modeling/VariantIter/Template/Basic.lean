import VariantIter.Fault
import VariantIter.Identifier
import VariantIter.Text.Blank
import VariantIter.Text.Lines

/-!
Templates: text with places where values are printed and parts that are repeated.

A place is written between double braces, as a path of names joined by dots and the filters that the
value goes through; a repeated part stands between two tags. The blanks between the start of a line and
a tag belong to the tag, and so does one line end after it. Templates have no other places and tags here than
these; a printer may lay out fragments in any other way.
-/

namespace VariantIter.Template

/-- A value that is looked up: a name, then attributes. -/
abbrev Path := List Text

/-- A part of a template. -/
inductive Piece where
  | text (text : Text)
  | place (path : Path) (filters : List Text)
  | loop (item : Text) (path : Path) (body : List Piece)

/-! ## Tags -/

/-- A text, the content of a place, or the content of a tag. -/
inductive Segment where
  | text (cs : List Char)
  | place (content : List Char)
  | tag (content : List Char)
deriving DecidableEq, Repr

/-- Splits at the first `a` followed by `b`, which are dropped. -/
def splitAtPair (a b : Char) : List Char → Option (List Char × List Char)
  | [] => none
  | [_] => none
  | c :: d :: rest =>
      if c = a ∧ d = b then some ([], rest)
      else (splitAtPair a b (d :: rest)).map fun (before, after) => (c :: before, after)

/-- Drops the blanks between the start of the line and the end of a reversed text; `lineStart` tells
whether the text itself starts a line. -/
def dropIndent (lineStart : Bool) (reversed : List Char) : List Char :=
  let line := reversed.takeWhile (· != '\n')
  let before := reversed.dropWhile (· != '\n')
  if (lineStart || !before.isEmpty) && line.all (fun c => Text.isBlank c) then before else reversed

/-- Puts a text in front of segments, unless it is empty. -/
def withText (reversed : List Char) (segments : List Segment) : List Segment :=
  if reversed.isEmpty then segments else .text reversed.reverse :: segments

/-- The segments of a template, `pending` being the reversed text before the characters that are
left. -/
def segmentsFrom : (fuel : Nat) → (lineStart : Bool) → (pending : List Char) → List Char →
    Except TemplateFault (List Segment)
  | 0, _, pending, _ => .ok (withText pending [])
  | _ + 1, _, pending, [] => .ok (withText pending [])
  | fuel + 1, _, pending, '\x7b' :: '\x7b' :: rest =>
      match splitAtPair '\x7d' '\x7d' rest with
      | none => .error (.malformedTag (Text.ofChars rest))
      | some (content, rest) => do
          return withText pending (.place content :: (← segmentsFrom fuel false [] rest))
  | fuel + 1, lineStart, pending, '\x7b' :: '%' :: rest =>
      match splitAtPair '%' '\x7d' rest with
      | none => .error (.malformedTag (Text.ofChars rest))
      | some (content, rest) => do
          let text := dropIndent lineStart pending
          let segments ← match rest with
            | '\n' :: rest => segmentsFrom fuel true [] rest
            | rest => segmentsFrom fuel false [] rest
          return withText text (.tag content :: segments)
  | fuel + 1, lineStart, pending, c :: rest => segmentsFrom fuel lineStart (c :: pending) rest

def segments (cs : List Char) : Except TemplateFault (List Segment) :=
  segmentsFrom (cs.length + 1) true [] cs

/-! ## Contents of tags -/

/-- A word of a tag: a name or a mark. -/
inductive Word where
  | name (text : String)
  | mark (c : Char)
deriving DecidableEq, Repr

/-- Adds the name under way, given in reverse, to the words after it. -/
def endName (name : List Char) (words : List Word) : List Word :=
  if name.isEmpty then words else .name (String.ofList name.reverse) :: words

/-- The words of a tag, `name` being the reversed name under way. -/
def wordsFrom (name : List Char) : List Char → List Word
  | [] => endName name []
  | c :: cs =>
      if Identifier.isPart c then wordsFrom (c :: name) cs
      else if Text.isBlank c then endName name (wordsFrom [] cs)
      else endName name (.mark c :: wordsFrom [] cs)

/-- Attributes and what follows them. -/
def attributes : List Word → List Text × List Word
  | .mark '.' :: .name name :: rest =>
      let (names, rest) := attributes rest
      (name :: names, rest)
  | rest => ([], rest)

/-- Filters up to the end of the words. -/
def filters? : List Word → Option (List Text)
  | [] => some []
  | .mark '|' :: .name name :: rest => (filters? rest).map (Text.ofString name :: ·)
  | _ => none

/-- A place: a path, then filters. -/
def place? (content : List Char) : Option Piece :=
  match wordsFrom [] content with
  | .name name :: rest =>
      let (names, rest) := attributes rest
      (filters? rest).map fun filters => .place (name :: names) filters
  | _ => none

/-- What a tag says. -/
inductive Tag where
  | loop (item : Text) (path : Path)
  | endLoop
  | other (name : Text)
deriving DecidableEq, Repr

def tag? (content : List Char) : Option Tag :=
  match wordsFrom [] content with
  | .name "for" :: .name item :: .name "in" :: .name name :: rest =>
      match attributes rest with
      | (names, []) => some (.loop item (name :: names))
      | _ => none
  | [.name "endfor"] => some .endLoop
  | .name "for" :: _ => none
  | .name name :: _ => some (.other name)
  | _ => none

/-! ## Nesting -/

/-- The pieces up to the end of the loop they stand in, or to the end of the template, and the segments
that follow. -/
def piecesFrom : (fuel : Nat) → (inLoop : Bool) → List Segment →
    Except TemplateFault (List Piece × List Segment)
  | 0, _, _ => .error .unclosedLoop
  | _ + 1, inLoop, [] => if inLoop then .error .unclosedLoop else .ok ([], [])
  | fuel + 1, inLoop, .text cs :: rest => do
      let (pieces, rest) ← piecesFrom fuel inLoop rest
      return (.text (Text.ofChars cs) :: pieces, rest)
  | fuel + 1, inLoop, .place content :: rest =>
      match place? content with
      | none => .error (.malformedTag (Text.ofChars content))
      | some piece => do
          let (pieces, rest) ← piecesFrom fuel inLoop rest
          return (piece :: pieces, rest)
  | fuel + 1, inLoop, .tag content :: rest =>
      match tag? content with
      | none => .error (.malformedTag (Text.ofChars content))
      | some .endLoop => if inLoop then .ok ([], rest) else .error (.unknownTag "endfor")
      | some (.other name) =>
          .error (if inLoop then .misplacedTag name else .unknownTag name)
      | some (.loop item path) => do
          let (body, rest) ← piecesFrom fuel true rest
          let (pieces, rest) ← piecesFrom fuel inLoop rest
          return (.loop item path body :: pieces, rest)

/-- The pieces of a template with unified line ends. -/
def parse (source : List Char) : Except TemplateFault (List Piece) := do
  let segments ← segments (Text.unifyLines source)
  let (pieces, _) ← piecesFrom (segments.length + 1) false segments
  return pieces

end VariantIter.Template
