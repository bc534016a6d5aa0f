/-!
Text: a sequence of code points.

An escape in a document can stand for half of a surrogate pair, which is no character. A text may hold
such halves next to characters; a file cannot.
-/

namespace VariantIter

/-- A character, or half of a surrogate pair, counted from U+D800. -/
inductive CodePoint where
  | char (c : Char)
  | surrogate (half : Fin 0x800)
deriving DecidableEq, Repr

namespace CodePoint

/-- The number of a code point. -/
def code : CodePoint → Nat
  | .char c => c.toNat
  | .surrogate half => 0xD800 + half.val

/-- The code point of a number; numbers beyond the last code point have none. -/
def ofCode? (code : Nat) : Option CodePoint :=
  if h : 0xD800 ≤ code ∧ code < 0xE000 then some (.surrogate ⟨code - 0xD800, by omega⟩)
  else if code < 0x110000 then some (.char (Char.ofNat code))
  else none

def isSurrogate : CodePoint → Bool
  | .char _ => false
  | .surrogate _ => true

instance : Coe Char CodePoint := ⟨.char⟩

end CodePoint

abbrev Text := List CodePoint

namespace Text

def ofChars (cs : List Char) : Text :=
  cs.map .char

def ofString (s : String) : Text :=
  ofChars s.toList

instance : Coe String Text := ⟨ofString⟩

/-- The characters of a text that holds nothing else. -/
def chars? : Text → Option (List Char)
  | [] => some []
  | .char c :: rest => (chars? rest).map (c :: ·)
  | .surrogate _ :: _ => none

/-- Texts one after another, with a separator between them. -/
def joined (separator : Text) (parts : List Text) : Text :=
  separator.intercalate parts

/-- The order of texts: by the first code point at which they differ, a beginning coming first. -/
def precedes : Text → Text → Bool
  | _, [] => false
  | [], _ :: _ => true
  | a :: as, b :: bs => decide (a.code < b.code) || (a.code == b.code && precedes as bs)

end Text

end VariantIter
