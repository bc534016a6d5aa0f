import VariantIter.Value.Display

/-!
Writing JSON.

The text is plain ASCII: other code points are written as units of sixteen bits. Collections are either
indented, one item to a line, or written on one line. Writing ends at something that JSON has no form
for, and what is written up to there stays.
-/

namespace VariantIter.Json

/-- The escape of one unit of sixteen bits. -/
def unitEscape (u : Nat) : List Char :=
  '\\' :: 'u' :: Text.hex 4 u

/-- A code point beyond ASCII, or a control. -/
def writeCode (code : Nat) : List Char :=
  if code < 0x10000 then unitEscape code
  else
    let offset := code - 0x10000
    unitEscape (0xD800 + offset / 0x400) ++ unitEscape (0xDC00 + offset % 0x400)

/-- One character of a quoted text. -/
def writeChar (c : Char) : List Char :=
  if c = '\x22' ∨ c = '\\' then ['\\', c]
  else if c = '\n' then ['\\', 'n']
  else if c = '\r' then ['\\', 'r']
  else if c = '\t' then ['\\', 't']
  else if c = '\x0c' then ['\\', 'f']
  else if c = '\x08' then ['\\', 'b']
  else if 0x20 ≤ c.toNat ∧ c.toNat < 0x7F then [c]
  else writeCode c.toNat

/-- One code point of a quoted text. -/
def writePoint : CodePoint → List Char
  | .char c => writeChar c
  | .surrogate half => writeCode (CodePoint.surrogate half).code

/-- A quoted text. -/
def writeText (s : Text) : List Char :=
  '\x22' :: s.flatMap writePoint ++ ['\x22']

def writeDouble : Double → List Char
  | .nan => "NaN".toList
  | .infinite negative => (if negative then "-Infinity" else "Infinity").toList
  | x => x.chars

/-- What has no form in JSON: values and keys of some kinds, integers that cannot be shown, and
collections inside of themselves. -/
inductive Unwritable where
  | value (kind : Text)
  | key (kind : Text)
  | tooManyDigits
  | circular
deriving DecidableEq, Repr

/-- A text that was written to its end, or up to something unwritable. -/
structure Written where
  text : List Char
  stopped : Option Unwritable := none

namespace Written

def stop (unwritable : Unwritable) : Written :=
  ⟨[], some unwritable⟩

/-- Goes on writing unless something unwritable was met. -/
def andThen (w : Written) (next : Written) : Written :=
  match w.stopped with
  | some _ => w
  | none => ⟨w.text ++ next.text, next.stopped⟩

end Written

/-- How collections are laid out: with a number of spaces per level, or on one line. -/
inductive Layout where
  | indented (width : Nat)
  | oneLine
deriving DecidableEq, Repr

/-- What stands before an item at the given depth. -/
def Layout.lineBreak (layout : Layout) (depth : Nat) : List Char :=
  match layout with
  | .indented width => '\n' :: List.replicate (width * depth) ' '
  | .oneLine => []

/-- What stands between two items at the given depth. -/
def Layout.separator (layout : Layout) (depth : Nat) : List Char :=
  match layout with
  | .indented _ => ',' :: layout.lineBreak depth
  | .oneLine => [',', ' ']

/-- A key as the text that JSON wants it to be. -/
def keyText? : Value → Except Unwritable Text
  | .text s => .ok s
  | .null => .ok "null"
  | .bool b => .ok (if b then "true" else "false")
  | .int n => if (Value.int n).isShowable then .ok (Text.ofInt n) else .error .tooManyDigits
  | .double x => .ok (Text.ofChars (writeDouble x))
  | .shared _ key => keyText? key
  | key => .error (.key key.kindName)

mutual

/-- Writes a value at a depth and inside of the given knots, after the text `lead`. An integer that
cannot be shown is met before that text, everything else that is unwritable after it. -/
def writeValue (layout : Layout) (depth : Nat) (around : List Nat) (lead : List Char) :
    Value → Written
  | .null => ⟨lead ++ "null".toList, none⟩
  | .bool b => ⟨lead ++ (if b then "true" else "false").toList, none⟩
  | .int n =>
      if (Value.int n).isShowable then ⟨lead ++ Text.decimalInt n, none⟩
      else .stop .tooManyDigits
  | .double x => ⟨lead ++ writeDouble x, none⟩
  | .text s => ⟨lead ++ writeText s, none⟩
  | .list items => writeList layout depth around lead items
  | .tuple items => writeList layout depth around lead items
  | .map entries => writeMap layout depth around lead entries
  | .shared _ value => writeValue layout depth around lead value
  | .knot label value =>
      if around.contains label then ⟨lead, some .circular⟩
      else writeValue layout depth (label :: around) lead value
  | .again _ => ⟨lead, some .circular⟩
  | .bytes bs => ⟨lead, some (.value (Value.bytes bs).kindName)⟩
  | .date d => ⟨lead, some (.value (Value.date d).kindName)⟩
  | .moment m => ⟨lead, some (.value (Value.moment m).kindName)⟩
  | .set items => ⟨lead, some (.value (Value.set items).kindName)⟩

def writeList (layout : Layout) (depth : Nat) (around : List Nat) (lead : List Char) :
    List Value → Written
  | [] => ⟨lead ++ ['[', ']'], none⟩
  | item :: items =>
      Written.andThen ⟨lead, none⟩ <|
        (writeValue layout (depth + 1) around ('[' :: layout.lineBreak (depth + 1)) item).andThen <|
          (writeItems layout (depth + 1) around items).andThen
            ⟨layout.lineBreak depth ++ [']'], none⟩

/-- The items after the first. -/
def writeItems (layout : Layout) (depth : Nat) (around : List Nat) : List Value → Written
  | [] => ⟨[], none⟩
  | item :: items =>
      (writeValue layout depth around (layout.separator depth) item).andThen
        (writeItems layout depth around items)

def writeMap (layout : Layout) (depth : Nat) (around : List Nat) (lead : List Char) :
    List (Value × Value) → Written
  | [] => ⟨lead ++ ['\x7b', '\x7d'], none⟩
  | entry :: entries =>
      Written.andThen ⟨lead ++ '\x7b' :: layout.lineBreak (depth + 1), none⟩ <|
        (writeEntry layout (depth + 1) around [] entry).andThen <|
          (writeEntries layout (depth + 1) around entries).andThen
            ⟨layout.lineBreak depth ++ ['\x7d'], none⟩

/-- The entries after the first. -/
def writeEntries (layout : Layout) (depth : Nat) (around : List Nat) :
    List (Value × Value) → Written
  | [] => ⟨[], none⟩
  | entry :: entries =>
      (writeEntry layout depth around (layout.separator depth) entry).andThen
        (writeEntries layout depth around entries)

/-- One entry after the text `lead`; an unwritable key is met before it. -/
def writeEntry (layout : Layout) (depth : Nat) (around : List Nat) (lead : List Char) :
    Value × Value → Written
  | (key, value) =>
      match keyText? key with
      | .error unwritable => .stop unwritable
      | .ok name =>
          Written.andThen ⟨lead ++ writeText name ++ [':', ' '], none⟩
            (writeValue layout depth around [] value)

end

/-- A document with two spaces per level, as far as it can be written. -/
def write (value : Value) : String × Option Unwritable :=
  let written := writeValue (.indented 2) 0 [] [] value
  (String.ofList written.text, written.stopped)

/-- A value on one line. -/
def compact (value : Value) : String :=
  String.ofList (writeValue .oneLine 0 [] [] value).text

end VariantIter.Json
