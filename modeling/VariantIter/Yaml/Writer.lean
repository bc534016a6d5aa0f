import VariantIter.Text.Base64
import VariantIter.Value.Display
import VariantIter.Yaml.Cursor
import VariantIter.Yaml.Spelling

/-!
Writing YAML in block style, two spaces per level, in ASCII.

A text is plain where that reads back as the same text, else between single quotes, else between double
quotes with escapes. Lines are broken at spaces once they are longer than 80 columns. A collection, day
or moment that stands in several places is written at the first of them, with an anchor, and named by
that in the others.
-/

namespace VariantIter.Yaml

/-! ## The page -/

/-- What is written so far, in reverse, and the state of the line under way: its column, whether it
ends in white space, and whether it holds nothing but indentation and block marks. `met` are the labels
of the values on the page. -/
structure Page where
  written : List Char := []
  column : Nat := 0
  afterSpace : Bool := true
  indenting : Bool := true
  met : List Nat := []

namespace Page

def width : Nat := 80

/-- Writes characters that hold no line end. -/
def put (page : Page) (cs : List Char) : Page :=
  { page with written := cs.reverse ++ page.written, column := page.column + cs.length }

def newLine (page : Page) : Page :=
  ⟨'\n' :: page.written, 0, true, true, page.met⟩

/-- Goes to a new line, unless this one is still free, and to the given column. -/
def indent (page : Page) (column : Nat) : Page :=
  let page :=
    if !page.indenting || decide (column < page.column) ||
        (page.column == column && !page.afterSpace) then page.newLine
    else page
  if page.column < column then
    { page.put (List.replicate (column - page.column) ' ') with afterSpace := true }
  else page

/-- Writes a mark, after a space where one is needed; a block mark keeps the line free. -/
def mark (page : Page) (cs : List Char) (spaced blockMark : Bool) : Page :=
  let page := if page.afterSpace || !spaced then page.put cs else page.put (' ' :: cs)
  { page with afterSpace := false, indenting := page.indenting && blockMark }

end Page

/-! ## Scalars -/

inductive ScalarStyle where
  | plain
  | single
  | double
deriving DecidableEq, Repr

def isAsciiPrintable (c : Char) : Bool :=
  decide (0x20 ≤ c.toNat) && decide (c.toNat ≤ 0x7E)

/-- A character that only double quotes can hold. -/
def isSpecial (c : Char) : Bool :=
  !(c == '\n' || isAsciiPrintable c)

def leadingIndicators : List Char :=
  ['#', ',', '[', ']', '\x7b', '\x7d', '&', '*', '!', '|', '>', '\x27', '\x22', '%', '@', '\x60']

def spaceOrEnd : List Char → Bool
  | [] => true
  | c :: _ => c == ' ' || c == '\t' || c == '\n'

/-- A colon before a gap or a hash after one, `before` being the character in front. -/
def hasIndicator (before : Char) : List Char → Bool
  | [] => false
  | c :: rest =>
      (c == ':' && spaceOrEnd rest) || (c == '#' && (before == ' ' || before == '\n')) ||
        hasIndicator c rest

/-- A text that would be taken for something else in block context. -/
def hasIndicators (cs : List Char) : Bool :=
  match cs with
  | [] => false
  | c :: rest =>
      leadingIndicators.contains c ||
        ((c == '?' || c == ':' || c == '-') && spaceOrEnd rest) ||
        cs.take 3 == ['-', '-', '-'] || cs.take 3 == ['.', '.', '.'] || hasIndicator c rest

/-- Two characters that stand next to each other. -/
def hasAdjacent (a b : Char) : List Char → Bool
  | c :: d :: rest => (c == a && d == b) || hasAdjacent a b (d :: rest)
  | _ => false

def blankEnds (cs : List Char) : Bool :=
  let blank (c : Option Char) : Bool := c == some ' ' || c == some '\n'
  blank cs.head? || blank cs.getLast?

/-- Whether a text may be written without quotes. -/
def allowsPlain (cs : List Char) : Bool :=
  !blankEnds cs && !cs.any isSpecial && !cs.contains '\n' && !hasIndicators cs

/-- Whether a text may be written between single quotes. -/
def allowsSingle (cs : List Char) : Bool :=
  !cs.any isSpecial && !hasAdjacent ' ' '\n' cs && !hasAdjacent '\n' ' ' cs

/-- The characters of a text, with another special character in place of a surrogate. -/
def stand (s : Text) : List Char :=
  s.map fun
    | .char c => c
    | .surrogate _ => '\ufffd'

/-- The style of a text; a key stays on one line. -/
def styleOf (isKey : Bool) (s : Text) : ScalarStyle :=
  let cs := stand s
  if Tag.ofSpelling s == .text && allowsPlain cs then .plain
  else if allowsSingle cs && !(isKey && cs.contains '\n') then .single
  else .double

/-- The maximal runs of spaces, of line ends, and of other characters. -/
def runs : List Char → List (List Char)
  | [] => []
  | c :: cs =>
      match runs cs with
      | [] => [[c]]
      | run :: more =>
          let same := match run with
            | [] => false
            | d :: _ =>
                if c == ' ' || d == ' ' then c == d
                else if c == '\n' || d == '\n' then c == d
                else true
          if same then (c :: run) :: more else [c] :: run :: more

/-- Writes the runs of a plain text; a single space beyond the width becomes a line end. -/
def putPlain (split : Bool) (indent : Nat) : List (List Char) → Page → Page
  | [], page => page
  | run :: more, page =>
      let page :=
        if run == [' '] && split && decide (Page.width < page.column) then
          { page.indent indent with afterSpace := false, indenting := false }
        else page.put run
      putPlain split indent more page

/-- Writes the runs of a text between single quotes: quotes are doubled, a line end is written twice,
and a single space beyond the width becomes a line end, unless it is at an end of the text. -/
def putSingle (split : Bool) (indent : Nat) : (first : Bool) → List (List Char) → Page → Page
  | _, [], page => page
  | first, run :: more, page =>
      let page :=
        if run.head? == some '\n' then
          (run.foldl (fun page _ => page.newLine) page.newLine).indent indent
        else if run == [' '] && split && !first && !more.isEmpty &&
            decide (Page.width < page.column) then page.indent indent
        else page.put (run.flatMap fun c => if c == '\x27' then [c, c] else [c])
      putSingle split indent false more page

def doubleEscapes : List (Nat × Char) :=
  [(0, '0'), (7, 'a'), (8, 'b'), (9, 't'), (10, 'n'), (11, 'v'), (12, 'f'), (13, 'r'), (27, 'e'),
    (34, '\x22'), (92, '\\'), (0x85, 'N'), (0xA0, '_'), (0x2028, 'L'), (0x2029, 'P')]

/-- The escape of a code point that double quotes do not hold as itself. -/
def escapeOf (c : CodePoint) : Option (List Char) :=
  let code := c.code
  match doubleEscapes.lookup code with
  | some e => some ['\\', e]
  | none =>
      if 0x20 ≤ code ∧ code ≤ 0x7E then none
      else
        let capital (cs : List Char) : List Char := cs.map Char.toUpper
        if code ≤ 0xFF then some ('\\' :: 'x' :: capital (Text.hex 2 code))
        else if code ≤ 0xFFFF then some ('\\' :: 'u' :: capital (Text.hex 4 code))
        else some ('\\' :: 'U' :: capital (Text.hex 8 code))

/-- Writes a text between double quotes, `pending` being the reversed characters that are not yet on the
page. Beyond the width the line is broken, by a backslash, before a space or after an escape. -/
def putDouble (split : Bool) (indent : Nat) (pending : List Char) : (first : Bool) → Text →
    Page → Page
  | _, [], page => page.put pending.reverse
  | first, c :: rest, page =>
      let escaped := escapeOf c
      let (pending, page) := match escaped with
        | some escape => ([], (page.put pending.reverse).put escape)
        | none => (pending, page)
      let length : Int := (page.column : Int) + pending.length - (if escaped.isSome then 1 else 0)
      let breaks := split && !first && !rest.isEmpty && (c == ' ' || pending.isEmpty) &&
        decide ((Page.width : Int) < length)
      let (pending, page) :=
        if breaks then
          let page := (page.put (pending.reverse ++ ['\\'])).indent indent
          let page := { page with afterSpace := false, indenting := false }
          let ahead := if escaped.isSome then rest.head? else some c
          ([], if ahead == some ' ' then page.put ['\\'] else page)
        else (pending, page)
      let pending := match escaped, c with
        | none, .char c => c :: pending
        | _, _ => pending
      putDouble split indent pending false rest page

/-- Writes characters without quotes. -/
def putBare (isKey : Bool) (indent : Nat) (cs : List Char) (page : Page) : Page :=
  let page := if page.afterSpace then page else page.put [' ']
  putPlain (!isKey) indent (runs cs) { page with afterSpace := false, indenting := false }

/-- Writes a text; lines after the first are indented, and a key is not split. -/
def putText (isKey : Bool) (indent : Nat) (s : Text) (page : Page) : Page :=
  match styleOf isKey s with
  | .plain => putBare isKey indent (stand s) page
  | .single =>
      (putSingle (!isKey) indent true (runs (stand s)) (page.mark ['\x27'] true false)).mark
        ['\x27'] false false
  | .double =>
      (putDouble (!isKey) indent [] true s (page.mark ['\x22'] true false)).mark
        ['\x22'] false false

/-- Writes bytes in base sixty-four, one line under the other. -/
def putBytes (indent : Nat) (bs : List UInt8) (page : Page) : Page :=
  let page := page.mark "!!binary".toList true false
  match Text.Base64.encodeLines bs with
  | [] => page.mark "\x22\x22".toList true false
  | lines =>
      lines.foldl (fun page line => ((page.indent indent).put line).newLine)
        (page.mark ['|'] true false).newLine

/-- A number needs a point to be read back as one of its kind. -/
def doubleText : Double → List Char
  | .nan => ".nan".toList
  | .infinite negative => (if negative then "-.inf" else ".inf").toList
  | x =>
      let cs := x.chars
      if cs.contains '.' then cs
      else cs.flatMap fun c => if c == 'e' then ['.', '0', 'e'] else [c]

/-- The characters of a value that is written without quotes. -/
def bareChars? : Value → Option (List Char)
  | .null => some "null".toList
  | .bool b => some (if b then "true" else "false").toList
  | .int n => some (Text.decimalInt n)
  | .double x => some (doubleText x)
  | .date d => some d.chars
  | .moment m => some m.chars
  | _ => none

/-- A scalar; collections are written elsewhere. -/
def putScalar (isKey : Bool) (indent : Nat) (value : Value) (page : Page) : Page :=
  match value with
  | .text s => putText isKey indent s page
  | .bytes bs => putBytes indent bs page
  | value => match bareChars? value with
    | some cs => putBare isKey indent cs page
    | none => page

/-! ## Anchors -/

/-- A value that is written once, also if it stands in several places. -/
def isAnchored : Value → Bool
  | .date _ => true
  | .moment _ => true
  | .list _ => true
  | .tuple _ => true
  | .set _ => true
  | .map _ => true
  | _ => false

/-- The labels met on the way through a value, and those met again in the order of that. -/
structure Census where
  met : List Nat := []
  repeated : List Nat := []

/-- Takes note of a label that was met before. -/
def Census.again (census : Census) (label : Nat) : Census :=
  if census.repeated.contains label then census
  else { census with repeated := census.repeated ++ [label] }

mutual

/-- Goes through a value, keys before values. -/
def survey : Value → Census → Census
  | .shared label value, census =>
      if !isAnchored value then census
      else if census.met.contains label then census.again label
      else survey value { census with met := label :: census.met }
  | .knot label value, census =>
      if census.met.contains label then census.again label
      else survey value { census with met := label :: census.met }
  | .again label, census => census.again label
  | .list items, census => surveyItems items census
  | .tuple items, census => surveyItems items census
  | .set items, census => surveyItems items census
  | .map entries, census => surveyEntries entries census
  | _, census => census

def surveyItems : List Value → Census → Census
  | [], census => census
  | item :: items, census => surveyItems items (survey item census)

def surveyEntries : List (Value × Value) → Census → Census
  | [], census => census
  | (key, value) :: entries, census => surveyEntries entries (survey value (survey key census))

end

/-- The names of the anchors: labels that are met again are numbered in order. -/
def anchorName? (repeated : List Nat) (label : Nat) : Option (List Char) :=
  (repeated.idxOf? label).map fun index => 'i' :: 'd' :: Text.padded 3 (index + 1)

/-- Takes note of a label; the mark of its anchor, if it has one, is written. -/
def putAnchor (repeated : List Nat) (label : Nat) (page : Page) : Page :=
  let page := { page with met := label :: page.met }
  match anchorName? repeated label with
  | some name => page.mark ('&' :: name) true false
  | none => page

/-- Names a value that is on the page already. -/
def putAlias (repeated : List Nat) (label : Nat) (page : Page) : Page :=
  page.mark ('*' :: (anchorName? repeated label).getD []) true false

/-! ## Collections -/

/-- The number of characters that the tag of a scalar would take. -/
def tagWidth : Value → Nat
  | .text _ => 5
  | .int _ => 5
  | .double _ => 7
  | .date _ => 11
  | .moment _ => 11
  | .bytes _ => 8
  | _ => 6

/-- A scalar key is written before its colon if it is short and on one line; `extra` is the length of
its anchor. -/
def isSimpleScalar (extra : Nat) (key : Value) : Bool :=
  match key with
  | .text s =>
      !s.isEmpty && !(stand s).any isBreak && decide (extra + tagWidth key + s.length < 128)
  | .bytes _ => false
  | key => match bareChars? key with
    | some cs => decide (extra + tagWidth key + cs.length < 128)
    | none => false

/-- Writes the mark before the value of a key, which was written by `put`. -/
def putKeyWith (simple : Bool) (indent : Nat) (put : (isKey : Bool) → Page → Page) (page : Page) : Page :=
  if simple then (put true page).mark [':'] false false
  else ((put false (page.mark ['?'] true true)).indent indent).mark [':'] true true

/-- Writes a key and the mark before its value. -/
def putKey (repeated : List Nat) (indent : Nat) (key : Value) (page : Page) : Page :=
  let page := page.indent indent
  match key with
  | .shared label inner =>
      if !isAnchored inner then
        putKeyWith (isSimpleScalar 0 inner) indent (fun isKey => putScalar isKey (indent + 2) inner) page
      else if page.met.contains label then
        putKeyWith true indent (fun _ => putAlias repeated label) page
      else
        let extra := ((anchorName? repeated label).getD []).length
        putKeyWith (isSimpleScalar extra inner) indent
          (fun isKey page => putScalar isKey (indent + 2) inner (putAnchor repeated label page)) page
  | key => putKeyWith (isSimpleScalar 0 key) indent (fun isKey => putScalar isKey (indent + 2) key) page

mutual

/-- Writes a value inside of a block indented by `indent`; the items of a list after the colon of a
mapping are not indented further. -/
def putValue (repeated : List Nat) (inMapping : Bool) (indent : Nat) : Value → Page → Page
  | .list [], page => (page.mark ['['] true false).mark [']'] false false
  | .list (item :: items), page =>
      putItems repeated (if inMapping && !page.indenting then indent else indent + 2) (item :: items)
        page
  | .tuple [], page => (page.mark ['['] true false).mark [']'] false false
  | .tuple (item :: items), page =>
      putItems repeated (if inMapping && !page.indenting then indent else indent + 2) (item :: items)
        page
  | .map [], page => (page.mark ['\x7b'] true false).mark ['\x7d'] false false
  | .map (entry :: entries), page => putEntries repeated (indent + 2) (entry :: entries) page
  | .set [], page =>
      ((page.mark "!!set".toList true false).mark ['\x7b'] true false).mark ['\x7d'] false false
  | .set (item :: items), page =>
      putMembers repeated (indent + 2) (item :: items) (page.mark "!!set".toList true false)
  | .shared label value, page =>
      if !isAnchored value then putValue repeated inMapping indent value page
      else if page.met.contains label then putAlias repeated label page
      else putValue repeated inMapping indent value (putAnchor repeated label page)
  | .knot label value, page =>
      if page.met.contains label then putAlias repeated label page
      else putValue repeated inMapping indent value (putAnchor repeated label page)
  | .again label, page => putAlias repeated label page
  | value, page => putScalar false (indent + 2) value page

def putItems (repeated : List Nat) (indent : Nat) : List Value → Page → Page
  | [], page => page
  | item :: items, page =>
      putItems repeated indent items
        (putValue repeated false indent item ((page.indent indent).mark ['-'] true true))

def putEntries (repeated : List Nat) (indent : Nat) : List (Value × Value) → Page → Page
  | [], page => page
  | (key, value) :: entries, page =>
      putEntries repeated indent entries
        (putValue repeated true indent value (putKey repeated indent key page))

/-- The members of a set are keys without a value. -/
def putMembers (repeated : List Nat) (indent : Nat) : List Value → Page → Page
  | [], page => page
  | item :: items, page =>
      putMembers repeated indent items
        (putScalar false (indent + 2) .null (putKey repeated indent item page))

end

/-- A document that holds a mapping. `none` if it holds an integer that cannot be shown. -/
def write (entries : Entries) : Option String :=
  if (Value.map entries).isShowable then
    let repeated := (surveyEntries entries {}).repeated
    let page : Page := match entries with
      | [] => (Page.mark {} ['\x7b'] true false).mark ['\x7d'] false false
      | entries => putEntries repeated 0 entries {}
    some (String.ofList (page.indent 0).written.reverse)
  else none

end VariantIter.Yaml
