import VariantIter.Yaml.Cursor

/-!
The text of YAML scalars: plain, quoted, and in blocks.

Line ends inside of a plain or quoted scalar are folded: one becomes a space, of several the first is
dropped. A block keeps its line ends, or folds them between lines that are not indented further.
-/

namespace VariantIter.Yaml

/-- Folds a line end and the line ends that follow it. -/
def foldBreaks (first breaks : List Char) : List Char :=
  if first != ['\n'] then first ++ breaks else if breaks.isEmpty then [' '] else breaks

/-! ## Plain scalars -/

def isFlowMark (c : Char) : Bool :=
  c == ',' || c == '[' || c == ']' || c == '\x7b' || c == '\x7d'

/-- A colon ends a plain scalar before a gap, and inside of brackets also before a mark. -/
def endsAfterColon (flow : Bool) : List Char → Bool
  | [] => true
  | c :: _ => isGap c || (flow && isFlowMark c)

/-- The characters up to the next gap or the end of a plain scalar. -/
def plainWord (flow : Bool) : List Char → List Char
  | [] => []
  | c :: rest =>
      if isGap c || (c == ':' && endsAfterColon flow rest) || (flow && (isFlowMark c || c == '?')) then []
      else c :: plainWord flow rest

/-- Line ends and spaces after a first line end, up to a document mark; `none` at a mark. -/
def plainBreaks (breaks : List Char) : (fuel : Nat) → Cursor → Option (List Char) × Cursor
  | 0, cursor => (some breaks, cursor)
  | fuel + 1, cursor =>
      match cursor.rest with
      | ' ' :: _ => plainBreaks breaks fuel cursor.next
      | c :: _ =>
          if isBreak c then
            let (text, cursor) := cursor.lineEnd
            if markerAhead cursor.rest then (none, cursor)
            else plainBreaks (breaks ++ text) fuel cursor
          else (some breaks, cursor)
      | [] => (some breaks, cursor)

/-- The gap after a word of a plain scalar: what it stands for, whether it holds a line end, and the
place after it. -/
def plainGap (cursor : Cursor) : List Char × Bool × Cursor :=
  let (spaces, cursor) := cursor.span (· == ' ')
  match cursor.rest with
  | [] => (spaces, false, cursor)
  | c :: _ =>
      if isBreak c then
        let (first, cursor) := cursor.lineEnd
        if markerAhead cursor.rest then ([], true, cursor)
        else match plainBreaks [] cursor.rest.length cursor with
          | (none, cursor) => ([], true, cursor)
          | (some breaks, cursor) => (foldBreaks first breaks, true, cursor)
      else (spaces, false, cursor)

/-- A plain scalar, `reversed` being its text so far: its text, whether a line end follows it, and the
place after it and the gap. In block context it goes on as long as lines are indented by `indent`. -/
def plainFrom (flow : Bool) (indent : Int) (reversed gap : List Char) (crossed : Bool) :
    (fuel : Nat) → Cursor → List Char × Bool × Cursor
  | 0, cursor => (reversed.reverse, crossed, cursor)
  | fuel + 1, cursor =>
      let word := match cursor.rest with
        | '#' :: _ => []
        | rest => plainWord flow rest
      if word.isEmpty then (reversed.reverse, crossed, cursor)
      else
        let reversed := word.reverse ++ gap.reverse ++ reversed
        let (gap, crossed, cursor) := plainGap (cursor.skip word.length)
        if gap.isEmpty || cursor.rest.head? == some '#' ||
            (!flow && decide ((cursor.column : Int) < indent)) then (reversed.reverse, crossed, cursor)
        else plainFrom flow indent reversed gap crossed fuel cursor

def plain (flow : Bool) (indent : Int) (cursor : Cursor) : List Char × Bool × Cursor :=
  plainFrom flow indent [] [] false (cursor.rest.length + 1) cursor

/-! ## Quoted scalars -/

/-- The line ends after a first one inside of quotes; a document mark is refused. -/
def quotedBreaks (breaks : List Char) :
    (fuel : Nat) → Cursor → Except Halt (List Char × Cursor)
  | 0, cursor => .ok (breaks, cursor)
  | fuel + 1, cursor =>
      if markerAhead cursor.rest then .error (.malformed .markerInQuote)
      else
        let cursor := cursor.skipWhile fun c => c == ' ' || c == '\t'
        match cursor.lineEnd with
        | ([], cursor) => .ok (breaks, cursor)
        | (text, cursor) => quotedBreaks (breaks ++ text) fuel cursor

/-- The characters that a backslash and one character stand for. -/
def simpleEscapes : List (Char × Nat) :=
  [('0', 0), ('a', 7), ('b', 8), ('t', 9), ('\t', 9), ('n', 10), ('v', 11), ('f', 12), ('r', 13),
    ('e', 27), (' ', 32), ('\x22', 34), ('/', 47), ('\\', 92), ('N', 0x85), ('_', 0xA0),
    ('L', 0x2028), ('P', 0x2029)]

/-- The number of hexadecimal digits that follow a character after a backslash. -/
def escapeWidths : List (Char × Nat) :=
  [('x', 2), ('u', 4), ('U', 8)]

/-- What a backslash stands for, the place being after it. -/
def quotedEscape (cursor : Cursor) : Except Halt (Text × Cursor) :=
  match cursor.rest with
  | [] => .error (.malformed .invalidEscape)
  | c :: rest =>
      match simpleEscapes.lookup c, escapeWidths.lookup c with
      | some code, _ => .ok ([.char (Char.ofNat code)], cursor.next)
      | none, some width =>
          let digits := rest.take width
          if digits.length = width ∧ digits.all Text.isHexDigit then
            let code := Text.readDigits 16 digits
            match CodePoint.ofCode? code with
            | some c => .ok ([c], cursor.skip (width + 1))
            | none => .error (.fault (.codePoint code) (cursor.index + 1 + width))
          else .error (.malformed .invalidEscape)
      | none, none =>
          if isBreak c then
            (quotedBreaks [] (rest.length + 1) cursor.lineEnd.2).map fun (breaks, cursor) =>
              (Text.ofChars breaks, cursor)
          else .error (.malformed .invalidEscape)

/-- A gap inside of quotes: what it stands for, and the place after it. -/
def quotedGap (cursor : Cursor) : Except Halt (List Char × Cursor) :=
  let (spaces, cursor) := cursor.span fun c => c == ' ' || c == '\t'
  match cursor.lineEnd with
  | ([], cursor) => .ok (spaces, cursor)
  | (first, cursor) =>
      (quotedBreaks [] (cursor.rest.length + 1) cursor).map fun (breaks, cursor) =>
        (foldBreaks first breaks, cursor)

/-- The text up to the closing quote, `reversed` being what was read of it, in reverse. -/
def quotedFrom (quote : Char) (reversed : Text) :
    (fuel : Nat) → Cursor → Except Halt (Text × Cursor)
  | 0, _ => .error (.malformed .unterminatedQuote)
  | fuel + 1, cursor =>
      match cursor.rest with
      | [] => .error (.malformed .unterminatedQuote)
      | c :: rest =>
          if c == quote then
            if quote == '\x27' && rest.head? == some quote then
              quotedFrom quote (.char quote :: reversed) fuel (cursor.skip 2)
            else .ok (reversed.reverse, cursor.next)
          else if c == '\\' && quote == '\x22' then do
            let (points, cursor) ← quotedEscape cursor.next
            quotedFrom quote (points.reverse ++ reversed) fuel cursor
          else if isGap c then do
            let (chars, cursor) ← quotedGap cursor
            quotedFrom quote ((Text.ofChars chars).reverse ++ reversed) fuel cursor
          else quotedFrom quote (.char c :: reversed) fuel cursor.next

/-- A quoted scalar, the place being at its opening quote. -/
def quoted (quote : Char) (cursor : Cursor) : Except Halt (Text × Cursor) :=
  quotedFrom quote [] (cursor.rest.length + 1) cursor.next

/-! ## Block scalars -/

/-- What becomes of the line ends at the end of a block. -/
inductive Chomp where
  | strip
  | clip
  | keep
deriving DecidableEq, Repr

def chompOf? : Char → Option Chomp
  | '+' => some .keep
  | '-' => some .strip
  | _ => none

/-- The header of a block: how it ends, and by how much it is indented if that is said. -/
def blockHeader (cursor : Cursor) : Except Halt (Chomp × Option Nat × Cursor) :=
  let increment? (c : Char) : Option Nat := if Text.isDigit c then Text.digitValue? c else none
  let result : Chomp × Option Nat × Cursor :=
    match cursor.rest with
    | [] => (.clip, none, cursor)
    | c :: rest =>
        match chompOf? c, increment? c with
        | some chomp, _ => match rest.head?.bind increment? with
          | some n => (chomp, some n, cursor.skip 2)
          | none => (chomp, none, cursor.next)
        | none, some n => match rest.head?.bind chompOf? with
          | some chomp => (chomp, some n, cursor.skip 2)
          | none => (.clip, some n, cursor.next)
        | none, none => (.clip, none, cursor)
  if result.2.1 == some 0 || !spaceAhead result.2.2.rest then .error (.malformed .invalidBlockHeader)
  else .ok result

/-- Empty lines before a block without a stated indentation: their line ends, and the widest
indentation met. -/
def blockStart (breaks : List Char) (widest : Nat) : (fuel : Nat) → Cursor → List Char × Nat × Cursor
  | 0, cursor => (breaks, widest, cursor)
  | fuel + 1, cursor =>
      match cursor.rest with
      | ' ' :: _ => blockStart breaks (max widest cursor.next.column) fuel cursor.next
      | _ => match cursor.lineEnd with
        | ([], cursor) => (breaks, widest, cursor)
        | (text, cursor) => blockStart (breaks ++ text) widest fuel cursor

/-- Passes over spaces up to a column. -/
def skipIndent (indent : Nat) (cursor : Cursor) : Cursor :=
  let spaces := (cursor.rest.takeWhile (· == ' ')).length
  cursor.skip (min spaces (indent - cursor.column))

/-- Empty lines inside of a block: their line ends, and the place after the next indentation. -/
def blockBreaks (indent : Nat) (breaks : List Char) : (fuel : Nat) → Cursor → List Char × Cursor
  | 0, cursor => (breaks, cursor)
  | fuel + 1, cursor =>
      match (skipIndent indent cursor).lineEnd with
      | ([], cursor) => (breaks, cursor)
      | (text, cursor) => blockBreaks indent (breaks ++ text) fuel cursor

/-- The lines of a block from one that starts at the indentation; what follows is the text, the last
line end, and the empty lines after it. -/
def blockLines (folded : Bool) (indent : Nat) (text breaks : List Char) :
    (fuel : Nat) → Cursor → List Char × List Char × List Char × Cursor
  | 0, cursor => (text, [], breaks, cursor)
  | fuel + 1, cursor =>
      if cursor.column == indent && !cursor.rest.isEmpty then
        let flush := !(cursor.rest.head? == some ' ' || cursor.rest.head? == some '\t')
        let (line, cursor) := cursor.span fun c => !isBreak c
        let text := text ++ breaks ++ line
        let (first, cursor) := cursor.lineEnd
        let (breaks, cursor) := blockBreaks indent [] (cursor.rest.length + 1) cursor
        if cursor.column == indent && !cursor.rest.isEmpty then
          let nextFlush := !(cursor.rest.head? == some ' ' || cursor.rest.head? == some '\t')
          let joint :=
            if folded && first == ['\n'] && flush && nextFlush then
              if breaks.isEmpty then [' '] else []
            else first
          blockLines folded indent (text ++ joint) breaks fuel cursor
        else (text, first, breaks, cursor)
      else (text, [], breaks, cursor)

/-- A block scalar, the place being at its mark and the block around it being indented by
`parent`. -/
def block (folded : Bool) (parent : Int) (cursor : Cursor) :
    Except Halt (List Char × Cursor) := do
  let (chomp, increment, cursor) ← blockHeader cursor.next
  let cursor ← cursor.skipLine .invalidBlockHeader
  let least := (max (parent + 1) 1).toNat
  let fuel := cursor.rest.length + 1
  let (indent, breaks, cursor) := match increment with
    | some n =>
        let indent := least + n - 1
        let (breaks, cursor) := blockBreaks indent [] fuel cursor
        (indent, breaks, cursor)
    | none =>
        let (breaks, widest, cursor) := blockStart [] 0 fuel cursor
        (max least widest, breaks, cursor)
  let (text, last, breaks, cursor) := blockLines folded indent [] breaks fuel cursor
  let ending := match chomp with
    | .strip => []
    | .clip => last
    | .keep => last ++ breaks
  return (text ++ ending, cursor)

end VariantIter.Yaml
