import VariantIter.Text.Basic

/-!
Line ends: a carriage return, alone or before a line feed, is read as a line feed.
-/

namespace VariantIter.Text

def unifyLines : List Char → List Char
  | [] => []
  | '\r' :: '\n' :: rest => '\n' :: unifyLines rest
  | '\r' :: rest => '\n' :: unifyLines rest
  | c :: rest => c :: unifyLines rest

/-- Splits a sequence at every item that satisfies `p`; there is one piece more than such items. -/
def splitOn {α : Type} (p : α → Bool) : List α → List (List α)
  | [] => [[]]
  | c :: cs =>
      if p c then [] :: splitOn p cs
      else match splitOn p cs with
        | [] => [[c]]
        | piece :: pieces => (c :: piece) :: pieces

end VariantIter.Text
