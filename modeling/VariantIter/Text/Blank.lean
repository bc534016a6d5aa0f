import VariantIter.Text.Basic

/-!
White space in names, visibility qualifiers and field types.

A code point is blank when it lies in one of ten ranges of the Unicode table. Trimming removes blanks
at both ends; the words of a text are its maximal runs of other code points.
-/

namespace VariantIter.Text

/-- The blanks as inclusive ranges of code points. -/
def blankRanges : List (Nat × Nat) :=
  [(0x9, 0xD), (0x1C, 0x20), (0x85, 0x85), (0xA0, 0xA0), (0x1680, 0x1680), (0x2000, 0x200A),
    (0x2028, 0x2029), (0x202F, 0x202F), (0x205F, 0x205F), (0x3000, 0x3000)]

/-- Membership of a code point in a list of inclusive ranges. -/
def inRanges (ranges : List (Nat × Nat)) (code : Nat) : Bool :=
  ranges.any fun range => decide (range.1 ≤ code) && decide (code ≤ range.2)

def isBlank (c : CodePoint) : Bool :=
  inRanges blankRanges c.code

/-- Removes the code points at the end that satisfy `p`. -/
def dropRight (p : CodePoint → Bool) (cs : Text) : Text :=
  (cs.reverse.dropWhile p).reverse

/-- Removes blanks at both ends. -/
def trim (cs : Text) : Text :=
  dropRight isBlank (cs.dropWhile isBlank)

/-- The words of a text, `word` being the reversed beginning of the word under way. -/
def wordsFrom (word : Text) : Text → List Text
  | [] => if word.isEmpty then [] else [word.reverse]
  | c :: cs =>
      if isBlank c then
        if word.isEmpty then wordsFrom [] cs else word.reverse :: wordsFrom [] cs
      else wordsFrom (c :: word) cs

/-- The maximal runs of code points that are not blank. -/
def words (cs : Text) : List Text :=
  wordsFrom [] cs

/-- The words joined by single spaces. -/
def unifyBlanks (cs : Text) : Text :=
  joined " " (words cs)

end VariantIter.Text
