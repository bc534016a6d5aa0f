import Mathlib.Data.List.DropRight
import VariantIter.Identifier
import VariantIter.Text.Blank

/-!
Words and blanks.

A text without blanks is its only word, and a blank after it ends it. Trimming leaves exactly the texts
alone that have no blank at either end. No part of an identifier is blank.
-/

namespace VariantIter

/-! ## Blanks and identifiers -/

theorem Text.code_of_isBlank {c : CodePoint} (blank : isBlank c = true) :
    c.code ≤ 0x20 ∨ 0x85 ≤ c.code := by
  simp only [isBlank, inRanges, blankRanges, List.any_cons, List.any_nil, Bool.or_eq_true,
    Bool.and_eq_true, decide_eq_true_eq, Bool.or_false] at blank
  omega

theorem Identifier.code_of_isPart {c : CodePoint} (part : isPart c = true) :
    0x30 ≤ c.code ∧ c.code ≤ 0x7A := by
  cases c with
  | surrogate half => cases part
  | char c =>
    simp only [isPart, isStart, Bool.or_eq_true, Bool.and_eq_true, decide_eq_true_eq, beq_iff_eq,
      Char.le_def, UInt32.le_iff_toNat_le] at part
    show 0x30 ≤ c.val.toNat ∧ c.val.toNat ≤ 0x7A
    rcases part with ((⟨low, high⟩ | ⟨low, high⟩) | rfl) | ⟨low, high⟩
    · exact ⟨le_trans (by decide) low, le_trans high (by decide)⟩
    · exact ⟨le_trans (by decide) low, le_trans high (by decide)⟩
    · decide
    · exact ⟨le_trans (by decide) low, le_trans high (by decide)⟩

theorem Identifier.isBlank_of_isPart {c : CodePoint} (part : isPart c = true) :
    Text.isBlank c = false := by
  have range := code_of_isPart part
  rw [← Bool.not_eq_true]
  intro blank
  have outside := Text.code_of_isBlank blank
  omega

theorem Identifier.isPart_of_isStart {c : CodePoint} (start : isStart c = true) :
    isPart c = true := by
  cases c with
  | surrogate half => cases start
  | char c =>
    show (isStart (.char c) || _) = true
    rw [start]
    rfl

theorem Identifier.isPart_of_isPlain {name : Text} (plain : isPlain name = true) :
    ∀ c ∈ name, isPart c = true := by
  cases name with
  | nil => cases plain
  | cons first rest =>
    obtain ⟨start, parts⟩ := Bool.and_eq_true _ _ ▸ plain
    intro c member
    rcases List.mem_cons.mp member with rfl | later
    · exact isPart_of_isStart start
    · exact List.all_eq_true.mp parts c later

namespace Text

/-! ## Joining -/

theorem joined_cons (separator first : Text) (others : List Text) :
    joined separator (first :: others) = first ++ others.flatMap fun other => separator ++ other := by
  unfold joined
  induction others generalizing first with
  | nil => simp
  | cons other others ih => rw [List.intercalate_cons_cons, ih other, List.flatMap_cons,
      List.append_assoc, List.append_assoc]

/-! ## Words -/

theorem wordsFrom_append {word : Text} (solid : ∀ c ∈ word, isBlank c = false)
    (before rest : Text) : wordsFrom before (word ++ rest) = wordsFrom (word.reverse ++ before) rest := by
  induction word generalizing before with
  | nil => rfl
  | cons c cs ih =>
    have step : wordsFrom before (c :: (cs ++ rest)) = wordsFrom (c :: before) (cs ++ rest) := by
      rw [wordsFrom, solid c List.mem_cons_self]
      rfl
    rw [List.cons_append, step, ih fun d member => solid d (List.mem_cons_of_mem c member),
      List.reverse_cons, List.append_assoc]
    rfl

/-- A text without blanks is its only word. -/
theorem words_of_solid {word : Text} (filled : word ≠ [])
    (solid : ∀ c ∈ word, isBlank c = false) : words word = [word] := by
  have read := wordsFrom_append solid [] []
  rw [List.append_nil, List.append_nil] at read
  unfold words
  rw [read, wordsFrom, if_neg (by simpa using filled), List.reverse_reverse]

/-- A blank ends a word. -/
theorem words_append_blank {word : Text} (filled : word ≠ [])
    (solid : ∀ c ∈ word, isBlank c = false) {blank : CodePoint} (ended : isBlank blank = true)
    (rest : Text) : words (word ++ blank :: rest) = word :: words rest := by
  have unfinished : ¬ (word.reverse.isEmpty = true) := by simpa using filled
  unfold words
  rw [wordsFrom_append solid, List.append_nil, wordsFrom, if_pos ended, if_neg unfinished,
    List.reverse_reverse]

/-! ## Trimming -/

/-- A text that is not empty and has no blank at either end. -/
structure Trimmed (text : Text) : Prop where
  filled : text ≠ []
  head : isBlank (text.head filled) = false
  last : isBlank (text.getLast filled) = false

theorem trimmed_trim {text : Text} (filled : trim text ≠ []) : Trimmed (trim text) := by
  have front : trim text <+: text.dropWhile isBlank := List.rdropWhile_prefix isBlank _
  refine ⟨filled, ?_, ?_⟩
  · rw [front.head filled]
    exact List.head_dropWhile_not isBlank _
  · exact Bool.not_eq_true _ ▸ List.rdropWhile_last_not isBlank (text.dropWhile isBlank) filled

theorem Trimmed.trim_eq {text : Text} (trimmed : Trimmed text) : trim text = text := by
  have front : text.dropWhile isBlank = text := by
    obtain ⟨filled, head, _⟩ := trimmed
    cases text with
    | nil => rfl
    | cons c cs => rw [List.dropWhile_cons_of_neg (by simpa using head)]
  show (text.dropWhile isBlank).rdropWhile isBlank = text
  rw [front, List.rdropWhile_eq_self_iff]
  intro filled
  simpa using trimmed.last

end Text

end VariantIter
