import VariantIter.Text.Utf8
import VariantIter.Yaml.Scalar

/-!
The tokens of a YAML document.

Blocks are found by indentation: a token that starts a block remembers its column, and a token further
to the left ends it. A key of a mapping is only recognised at the colon after it, so the place of every
token that may turn out to be a key is remembered as long as the colon can still come: on the same
line, and within 1024 characters.

Tokens are handed on one by one. Where finding them ends in a fault, those before it still are, except
for what waits for the colon of a possible key.
-/

namespace VariantIter.Yaml

inductive Token where
  | versionDirective (major : Nat)
  | tagDirective (handle tagStart : String)
  | otherDirective
  | documentStart
  | documentEnd
  | blockSequence
  | blockMapping
  | blockEnd
  | flowSequence
  | flowSequenceEnd
  | flowMapping
  | flowMappingEnd
  | blockEntry
  | flowEntry
  | key
  | value
  | alias (name : String)
  | anchor (name : String)
  | tag (handle : Option String) (suffix : String)
  | scalar (text : Text) (plain : Bool)
deriving DecidableEq, Repr

/-- A token that may turn out to be the start of a key. It is required when nothing else can stand at
its column. -/
structure PossibleKey where
  flow : Nat
  position : Nat
  required : Bool
  index : Nat
  line : Nat
  column : Nat
deriving Repr

structure Scanner where
  cursor : Cursor
  tokens : Array Token := #[]
  flow : Nat := 0
  indent : Int := -1
  indents : List Int := []
  keyAllowed : Bool := true
  keys : List PossibleKey := []

namespace Scanner

def push (s : Scanner) (token : Token) : Scanner :=
  { s with tokens := s.tokens.push token }

/-- Goes on at the given place after a token. -/
def emit (s : Scanner) (token : Token) (cursor : Cursor) : Scanner :=
  { s with tokens := s.tokens.push token, cursor }

/-- Passes over spaces, comments and line ends. After a line end in block context a key may come. -/
def skipGap : (fuel : Nat) → Scanner → Scanner
  | 0, s => s
  | fuel + 1, s =>
      let cursor := s.cursor.skipSpaces.skipComment
      match cursor.lineEnd with
      | ([], cursor) => { s with cursor }
      | (_, cursor) => skipGap fuel { s with cursor, keyAllowed := s.keyAllowed || s.flow == 0 }

def skipMark (s : Scanner) : Scanner :=
  match s.cursor.rest with
  | '\ufeff' :: _ => if s.cursor.index == 0 then { s with cursor := s.cursor.next } else s
  | _ => s

/-- The colon of a key can no longer come. -/
def isStale (s : Scanner) (key : PossibleKey) : Bool :=
  key.line != s.cursor.line || decide (1024 < s.cursor.index - key.index)

/-- Forgets the keys whose colon can no longer come. -/
def dropStaleKeys (s : Scanner) : Except Halt Scanner :=
  if s.keys.any fun key => s.isStale key && key.required then .error (.malformed .colonExpected)
  else .ok { s with keys := s.keys.filter fun key => !s.isStale key }

/-- Forgets the key of the present level. -/
def dropKey (s : Scanner) : Except Halt Scanner :=
  if s.keys.any fun key => key.flow == s.flow && key.required then .error (.malformed .colonExpected)
  else .ok { s with keys := s.keys.filter fun key => key.flow != s.flow }

/-- Remembers that the next token may be the start of a key. -/
def saveKey (s : Scanner) : Except Halt Scanner :=
  if s.keyAllowed then do
    let required := s.flow == 0 && s.indent == (s.cursor.column : Int)
    let s ← s.dropKey
    let key : PossibleKey :=
      ⟨s.flow, s.tokens.size, required, s.cursor.index, s.cursor.line, s.cursor.column⟩
    return { s with keys := key :: s.keys }
  else .ok s

/-- Ends the blocks that are indented further than a column. -/
def unwind (column : Int) : List Int → Scanner → Scanner
  | [], s => s
  | outer :: outers, s =>
      if column < s.indent then
        unwind column outers { s.push .blockEnd with indent := outer, indents := outers }
      else s

def unwindTo (s : Scanner) (column : Int) : Scanner :=
  if s.flow == 0 then unwind column s.indents s else s

/-- Starts a block at a column to the right of the block around it. -/
def indentTo (s : Scanner) (column : Nat) : Option Scanner :=
  if s.indent < (column : Int) then
    some { s with indents := s.indent :: s.indents, indent := column }
  else none

/-- Starts a block at the present column where one is due. -/
def openBlock (s : Scanner) (token : Token) : Scanner :=
  match s.indentTo s.cursor.column with
  | some s => s.push token
  | none => s

/-! ## Directives, anchors and tags -/

def isWordChar (c : Char) : Bool :=
  Text.isDigit c || ('a' ≤ c && c ≤ 'z') || ('A' ≤ c && c ≤ 'Z') || c == '-' || c == '_'

def uriMarks : List Char :=
  ['-', ';', '/', '?', ':', '@', '&', '=', '+', '$', ',', '_', '.', '!', '~', '*', '\x27', '(', ')',
    '[', ']', '%']

def isUriChar (c : Char) : Bool :=
  isWordChar c || uriMarks.contains c

/-- The characters of a URI. A percent sign and two hexadecimal digits are a byte of a character in
UTF-8; `bytes` are those in front, in reverse. -/
def uriChars (bytes : List UInt8) : List Char → Option (List Char)
  | '%' :: a :: b :: rest =>
      if Text.isHexDigit a && Text.isHexDigit b then
        uriChars (UInt8.ofNat (Text.readDigits 16 [a, b]) :: bytes) rest
      else none
  | '%' :: _ => none
  | [] => (Text.Utf8.decode bytes.reverse).toOption.map String.toList
  | c :: rest => do
      let decoded ← (Text.Utf8.decode bytes.reverse).toOption
      return decoded.toList ++ c :: (← uriChars [] rest)

def tagUri (cursor : Cursor) : Except Halt (String × Cursor) :=
  let (uri, cursor) := cursor.span isUriChar
  match uri, uriChars [] uri with
  | _ :: _, some chars => .ok (String.ofList chars, cursor)
  | _, _ => .error (.malformed .invalidTag)

/-- A handle: an exclamation mark, or a word between two. -/
def tagHandle (cursor : Cursor) : Except Halt (String × Cursor) :=
  match cursor.rest with
  | '!' :: ' ' :: _ => .ok ("!", cursor.next)
  | '!' :: rest =>
      let word := rest.takeWhile isWordChar
      match rest.drop word.length with
      | '!' :: _ =>
          .ok (String.ofList ('!' :: word ++ ['!']), cursor.skip (word.length + 2))
      | _ => .error (.malformed .invalidTag)
  | _ => .error (.malformed .invalidTag)

def versionNumber (cursor : Cursor) : Except Halt (Nat × Cursor) :=
  let (digits, cursor) := cursor.span Text.isDigit
  if digits.isEmpty then .error (.malformed .invalidDirective)
  else if Number.maxDigits < digits.length then
    .error (.fault (.integer (.tooManyDigits digits.length)) (cursor.index + 1))
  else .ok (Text.readDigits 10 digits, cursor)

/-- A directive, the place being at its percent sign. -/
def directive (cursor : Cursor) : Except Halt (Token × Cursor) := do
  let (name, cursor) := cursor.next.span isWordChar
  if name.isEmpty || !spaceAhead cursor.rest then throw (.malformed .invalidDirective)
  let (token, cursor) ←
    if name == "YAML".toList then do
      let (major, cursor) ← versionNumber cursor.skipSpaces
      match cursor.rest with
      | '.' :: _ => do
          let (_, cursor) ← versionNumber cursor.next
          if !spaceAhead cursor.rest then throw (.malformed .invalidDirective)
          pure (Token.versionDirective major, cursor)
      | _ => throw (.malformed .invalidDirective)
    else if name == "TAG".toList then do
      let (handle, cursor) ← tagHandle cursor.skipSpaces
      if cursor.rest.head? != some ' ' then throw (.malformed .invalidDirective)
      let (uri, cursor) ← tagUri cursor.skipSpaces
      if !spaceAhead cursor.rest then throw (.malformed .invalidDirective)
      pure (Token.tagDirective handle uri, cursor)
    else pure (Token.otherDirective, cursor.skipWhile fun c => !isBreak c)
  let cursor ← cursor.skipLine .invalidDirective
  return (token, cursor)

def anchorEnds : List Char :=
  ['?', ':', ',', ']', '\x7d', '%', '@', '\x60']

/-- The name of an anchor or alias, the place being at its mark. -/
def anchorName (cursor : Cursor) : Except Halt (String × Cursor) :=
  let (name, cursor) := cursor.next.span isWordChar
  let ended := match cursor.rest with
    | [] => true
    | c :: _ => isGap c || anchorEnds.contains c
  if name.isEmpty || !ended then .error (.malformed .invalidAnchor) else .ok (String.ofList name, cursor)

/-- A tag, the place being at its exclamation mark. -/
def tag (cursor : Cursor) : Except Halt (Token × Cursor) := do
  let (token, cursor) ← match cursor.rest with
    | '!' :: '<' :: _ => do
        let (uri, cursor) ← tagUri (cursor.skip 2)
        match cursor.rest with
        | '>' :: _ => pure (Token.tag none uri, cursor.next)
        | _ => throw (.malformed .invalidTag)
    | _ :: rest =>
        if gapAhead rest then pure (Token.tag none "!", cursor.next)
        else if (rest.takeWhile fun c => !(c == ' ' || isBreak c)).contains '!' then do
          let (handle, cursor) ← tagHandle cursor
          let (uri, cursor) ← tagUri cursor
          pure (Token.tag (some handle) uri, cursor)
        else do
          let (uri, cursor) ← tagUri cursor.next
          pure (Token.tag (some "!") uri, cursor)
    | [] => throw (.malformed .invalidTag)
  if spaceAhead cursor.rest then return (token, cursor) else throw (.malformed .invalidTag)

/-! ## One token after another -/

/-- A token that ends all blocks: a directive or a document mark. -/
def boundary (s : Scanner) (token : Token) (cursor : Cursor) : Except Halt Scanner := do
  let s ← (s.unwindTo (-1)).dropKey
  return { s.emit token cursor with keyAllowed := false }

def openBracket (s : Scanner) (token : Token) : Except Halt Scanner := do
  let s ← s.saveKey
  return { s.emit token s.cursor.next with flow := s.flow + 1, keyAllowed := true }

def closeBracket (s : Scanner) (token : Token) : Except Halt Scanner := do
  if s.flow == 0 then throw (.malformed .unbalancedBracket)
  let s ← s.dropKey
  return { s.emit token s.cursor.next with flow := s.flow - 1, keyAllowed := false }

def comma (s : Scanner) : Except Halt Scanner := do
  let s ← s.dropKey
  return { s.emit .flowEntry s.cursor.next with keyAllowed := true }

/-- A hyphen before an entry of a block. Inside of brackets the token is left to be refused later. -/
def hyphen (s : Scanner) : Except Halt Scanner := do
  if s.flow == 0 && !s.keyAllowed then throw (.malformed .entryNotAllowed)
  let s := if s.flow == 0 then s.openBlock .blockSequence else s
  let s ← s.dropKey
  return { s.emit .blockEntry s.cursor.next with keyAllowed := true }

/-- A question mark before a key. -/
def questionMark (s : Scanner) : Except Halt Scanner := do
  if s.flow == 0 && !s.keyAllowed then throw (.malformed .keyNotAllowed)
  let s := if s.flow == 0 then s.openBlock .blockMapping else s
  let s ← s.dropKey
  return { s.emit .key s.cursor.next with keyAllowed := s.flow == 0 }

/-- A colon before a value. If a key is remembered on this level, its tokens get their mark, and in block
context the mark of a mapping that starts with it. -/
def colon (s : Scanner) : Except Halt Scanner :=
  match s.keys.find? fun key => key.flow == s.flow with
  | some key =>
      let s := { s with keys := s.keys.filter fun key => key.flow != s.flow }
      let s := { s with tokens := s.tokens.insertIdxIfInBounds key.position .key }
      let s := match (if s.flow == 0 then s.indentTo key.column else none) with
        | some s => { s with tokens := s.tokens.insertIdxIfInBounds key.position .blockMapping }
        | none => s
      .ok { s.emit .value s.cursor.next with keyAllowed := false }
  | none => do
      if s.flow == 0 && !s.keyAllowed then throw (.malformed .valueNotAllowed)
      let s := if s.flow == 0 then s.openBlock .blockMapping else s
      let s ← s.dropKey
      return { s.emit .value s.cursor.next with keyAllowed := s.flow == 0 }

/-- A token that may be a key, after which no other key may follow directly. -/
def content (s : Scanner) (read : Cursor → Except Halt (Token × Cursor)) :
    Except Halt Scanner := do
  let s ← s.saveKey
  let (token, cursor) ← read s.cursor
  return { s.emit token cursor with keyAllowed := false }

def quotedScalar (s : Scanner) (quote : Char) : Except Halt Scanner :=
  s.content fun cursor => (quoted quote cursor).map fun (text, cursor) =>
    (.scalar text false, cursor)

def blockScalar (s : Scanner) (folded : Bool) : Except Halt Scanner := do
  let s ← s.dropKey
  let (text, cursor) ← block folded s.indent s.cursor
  return { s.emit (.scalar (Text.ofChars text) false) cursor with keyAllowed := true }

def plainScalar (s : Scanner) : Except Halt Scanner := do
  let s ← s.saveKey
  let (text, crossed, cursor) := plain (s.flow != 0) (s.indent + 1) s.cursor
  return { s.emit (.scalar (Text.ofChars text) true) cursor with keyAllowed := crossed }

/-- The characters that cannot start a plain scalar. -/
def indicators : List Char :=
  ['-', '?', ':', ',', '[', ']', '\x7b', '\x7d', '#', '&', '*', '!', '|', '>', '\x27', '\x22', '%', '@',
    '\x60']

/-- A plain scalar may start with a hyphen, and in block context with a question mark or a colon, if no
gap follows. -/
def plainAhead (flow : Bool) (c : Char) (rest : List Char) : Bool :=
  (!isGap c && !indicators.contains c) ||
    (!gapAhead rest && (c == '-' || (!flow && (c == '?' || c == ':'))))

/-- The next token, the place being at its first character. -/
def next (s : Scanner) (c : Char) (rest : List Char) : Except Halt Scanner :=
  let start := s.cursor.column == 0
  let flow := s.flow != 0
  if c == '%' && start then do
    let s ← (s.unwindTo (-1)).dropKey
    let (token, cursor) ← directive s.cursor
    return { s.emit token cursor with keyAllowed := false }
  else if start && markerAhead s.cursor.rest then
    s.boundary (if c == '-' then .documentStart else .documentEnd) (s.cursor.skip 3)
  else if c == '[' then s.openBracket .flowSequence
  else if c == '\x7b' then s.openBracket .flowMapping
  else if c == ']' then s.closeBracket .flowSequenceEnd
  else if c == '\x7d' then s.closeBracket .flowMappingEnd
  else if c == ',' then s.comma
  else if c == '-' && gapAhead rest then s.hyphen
  else if c == '?' && (flow || gapAhead rest) then s.questionMark
  else if c == ':' && (flow || gapAhead rest) then s.colon
  else if c == '*' then s.content fun cursor =>
    (anchorName cursor).map fun (name, cursor) => (.alias name, cursor)
  else if c == '&' then s.content fun cursor =>
    (anchorName cursor).map fun (name, cursor) => (.anchor name, cursor)
  else if c == '!' then s.content tag
  else if c == '|' && !flow then s.blockScalar false
  else if c == '>' && !flow then s.blockScalar true
  else if c == '\x27' then s.quotedScalar c
  else if c == '\x22' then s.quotedScalar c
  else if plainAhead flow c rest then s.plainScalar
  else .error (.malformed .unexpectedCharacter)

/-- Finds one more token; false tells that the text has ended. -/
def step (s : Scanner) : Except Halt (Scanner × Bool) := do
  let s ← (s.skipMark.skipGap (s.cursor.rest.length + 1)).dropStaleKeys
  let s := s.unwindTo s.cursor.column
  match s.cursor.rest with
  | [] => return (← (s.unwindTo (-1)).dropKey, false)
  | c :: rest => return (← s.next c rest, true)

/-- Finds all tokens, or those before something that stops the search. Every token has a character of
its own, so fuel above their number never runs out. -/
def all : (fuel : Nat) → Scanner → Scanner × Option Halt
  | 0, s => (s, some (.malformed .tooDeep))
  | fuel + 1, s =>
      match s.step with
      | .error halt => (s, some halt)
      | .ok (s, true) => all fuel s
      | .ok (s, false) => (s, none)

/-- The tokens that wait for no colon. -/
def settled (s : Scanner) : List Token :=
  let waiting := (s.keys.filter fun key => !s.isStale key).map PossibleKey.position
  s.tokens.toList.take (waiting.foldl min s.tokens.size)

end Scanner

/-- The characters that a document may hold. -/
def isAllowed (c : Char) : Bool :=
  let code := c.toNat
  code == 0x9 || code == 0xA || code == 0xD || (0x20 ≤ code && code ≤ 0x7E) || code == 0x85 ||
    (0xA0 ≤ code && code ≤ 0xD7FF) || (0xE000 ≤ code && code ≤ 0xFFFD) || 0x10000 ≤ code

/-- A text is loaded in blocks, two at first and then one by one. The number of characters loaded when
so many have been looked at. -/
def loaded (seen : Nat) : Nat :=
  if seen ≤ 8192 then 8192 else (seen + 4095) / 4096 * 4096

/-- The tokens of a text, and the fault that comes after them, if there is one. A character that is not
allowed counts as soon as it is loaded. -/
def tokens (cs : List Char) : Except Malformed (List Token × Option Fault) :=
  let (s, halt) := Scanner.all (cs.length + 2) { cursor := ⟨cs, 0, 0, 0⟩ }
  let refused := cs.findIdx? fun c => !isAllowed c
  match halt, refused with
  | some (.fault fault seen), some index =>
      if loaded seen ≤ index then .ok (s.settled, some fault) else .error .unprintable
  | _, some _ => .error .unprintable
  | some (.malformed cause), none => .error cause
  | some (.fault fault _), none => .ok (s.settled, some fault)
  | none, none => .ok (s.tokens.toList, none)

end VariantIter.Yaml
