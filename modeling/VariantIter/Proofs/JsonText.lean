import Mathlib.Data.List.Chain
import Mathlib.Data.List.TakeWhile
import VariantIter.Json.Reader
import VariantIter.Json.Writer
import VariantIter.Proofs.Delimiting
import VariantIter.Proofs.Outcome

/-!
Texts and integers in JSON.

A text is written as units of sixteen bits, and a code point beyond them as two. The two halves of such a
pair are one code point when they are read, so a text is read back as it was unless it holds the halves
of a pair next to each other as two code points. No text that was read does. Main statements: a written
text and a written integer are read back, whatever follows them.
-/

namespace VariantIter

/-- The number of a character lies outside of the halves of pairs. -/
theorem CodePoint.code_char (c : Char) :
    (char c).code < 0xD800 ∨ 0xDFFF < (char c).code ∧ (char c).code < 0x110000 :=
  c.valid

theorem CodePoint.ofCode?_code (c : CodePoint) : ofCode? c.code = some c := by
  cases c with
  | char c =>
    have valid := code_char c
    rw [ofCode?, dif_neg (by omega), if_pos (by omega), code, Char.ofNat_toNat]
  | surrogate half =>
    rw [code, ofCode?, dif_pos (by omega)]
    simp

theorem CodePoint.code_lt (c : CodePoint) : c.code < 0x110000 := by
  cases c with
  | char c =>
    have valid := code_char c
    omega
  | surrogate half =>
    rw [code]
    omega

/-! ## Digits -/

namespace Text

theorem digitValue?_digitChar {d : Nat} (small : d < 16) : digitValue? (digitChar d) = some d := by
  have each : ∀ d < 16, digitValue? (digitChar d) = some d := by decide
  exact each d small

/-- The digits of a number stand for it. -/
theorem readDigits_decimal (n : Nat) : readDigits 10 (decimal n) = n := by
  fun_induction decimal n with
  | case1 n small =>
    simp [readDigits, digitValue?_digitChar (show n < 16 by omega)]
  | case2 n large ih =>
    rw [readDigits] at ih ⊢
    rw [List.foldl_append, ih, List.foldl_cons, List.foldl_nil,
      digitValue?_digitChar (by omega), Option.getD_some]
    omega

/-- A number that starts with a zero has no other digit. -/
theorem eq_nil_of_decimal {n : Nat} {cs : List Char} (starts : decimal n = '0' :: cs) : cs = [] := by
  fun_induction decimal n generalizing cs with
  | case1 n small => exact (List.cons.inj starts).2.symm
  | case2 n large ih =>
    obtain ⟨c, more, front⟩ := List.exists_cons_of_ne_nil (decimal_ne_nil (n / 10))
    obtain ⟨rfl, _⟩ := List.cons.inj (front ▸ starts : c :: (more ++ _) = '0' :: cs)
    have zero : n / 10 = 0 := by
      rw [← readDigits_decimal (n / 10), front, ih front]
      rfl
    omega

/-- A number below a power of ten has no more digits than the exponent says. -/
theorem length_decimal_le {n k : Nat} (small : n < Nat.pow 10 (k + 1)) : (decimal n).length ≤ k + 1 := by
  fun_induction decimal n generalizing k with
  | case1 n single => simp
  | case2 n large ih =>
    cases k with
    | zero => exact absurd small large
    | succ k =>
      have shifted : n < Nat.pow 10 (k + 1) * 10 := small
      rw [Nat.mul_comm] at shifted
      have front := ih (Nat.div_lt_of_lt_mul shifted)
      rw [List.length_append, List.length_singleton]
      omega

end Text

namespace Json

/-- A high and a low half of a surrogate pair. -/
def IsPair (high low : Nat) : Prop :=
  0xD800 ≤ high ∧ high ≤ 0xDBFF ∧ 0xDC00 ≤ low ∧ low ≤ 0xDFFF

end Json

/-- No high half of a pair stands right before a low one. -/
def Text.Unsplit (s : Text) : Prop :=
  s.IsChain fun c d => ¬ Json.IsPair c.code d.code

/-! ## Units -/

namespace Json

/-- The units of sixteen bits that a code point is written as. -/
def units (c : CodePoint) : List Nat :=
  if c.code < 0x10000 then [c.code]
  else [0xD800 + (c.code - 0x10000) / 0x400, 0xDC00 + (c.code - 0x10000) % 0x400]

theorem unitPoint_code (c : CodePoint) : unitPoint c.code = c := by
  rw [unitPoint, CodePoint.ofCode?_code, Option.getD_some]

/-- A code point of two units starts with a high half. -/
theorem exists_units_eq (c : CodePoint) :
    ∃ first more, units c = first :: more ∧ (first = c.code ∨ first < 0xDC00) := by
  have bound := c.code_lt
  unfold units
  split
  · exact ⟨_, _, rfl, .inl rfl⟩
  · exact ⟨_, _, rfl, .inr (by omega)⟩

theorem joinUnits_cons_of_not_isPair {u v : Nat} {more : List Nat} (apart : ¬ IsPair u v) :
    joinUnits (u :: v :: more) = unitPoint u :: joinUnits (v :: more) := by
  rw [joinUnits]
  exact if_neg apart

theorem joinUnits_units {s : Text} (unsplit : s.Unsplit) : joinUnits (s.flatMap units) = s := by
  induction s with
  | nil => rfl
  | cons c s ih =>
    have rest := ih unsplit.tail
    rw [List.flatMap_cons]
    by_cases single : c.code < 0x10000
    · rw [units, if_pos single, List.singleton_append]
      cases s with
      | nil => exact congrArg (· :: []) (unitPoint_code c)
      | cons d s =>
        obtain ⟨first, more, same, low⟩ := exists_units_eq d
        have apart : ¬ IsPair c.code first := by
          rcases low with rfl | high
          · exact unsplit.rel
          · unfold IsPair
            omega
        rw [List.flatMap_cons, same, List.cons_append] at rest ⊢
        rw [joinUnits_cons_of_not_isPair apart, unitPoint_code, rest]
    · have bound := c.code_lt
      rw [units, if_neg single]
      rw [List.cons_append, List.singleton_append, joinUnits, if_pos (by omega), rest, pairPoint]
      have whole : 0x10000 + (0xD800 + (c.code - 0x10000) / 0x400 - 0xD800) * 0x400 +
          (0xDC00 + (c.code - 0x10000) % 0x400 - 0xDC00) = c.code := by omega
      rw [whole, unitPoint_code]

/-- A unit is the number of its code point, unless it is beyond all of them. -/
theorem code_unitPoint {u : Nat} : (unitPoint u).code = u ∨ (unitPoint u).code = 0 := by
  unfold unitPoint CodePoint.ofCode?
  split
  · next half =>
    left
    rw [Option.getD_some, CodePoint.code]
    exact Nat.add_sub_of_le half.1
  · split
    · left
      have valid : u.isValidChar := by
        unfold Nat.isValidChar
        omega
      rw [Option.getD_some, CodePoint.code, Char.ofNat, dif_pos valid]
      rfl
    · exact .inr rfl

/-- Text that was joined from units holds no two halves next to each other. -/
theorem unsplit_joinUnits (us : List Nat) : (joinUnits us).Unsplit := by
  fun_induction joinUnits us with
  | case1 => exact .nil
  | case2 u v more pair ih =>
    refine List.isChain_cons.mpr ⟨fun d _ joins => ?_, ih⟩
    rcases @code_unitPoint (0x10000 + (u - 0xD800) * 0x400 + (v - 0xDC00)) with same | same
    all_goals
      unfold IsPair pairPoint at joins
      omega
  | case3 u v more apart ih =>
    refine List.isChain_cons.mpr ⟨fun d first joins => apart ?_, ih⟩
    have high := @code_unitPoint u
    suffices d.code = v ∨ d.code = 0 ∨ 0x10000 ≤ d.code by
      unfold IsPair at joins
      omega
    cases more with
    | nil =>
      cases Option.some.inj first
      exact (code_unitPoint).imp_right .inl
    | cons w more =>
      rw [joinUnits] at first
      split at first
      all_goals cases Option.some.inj first
      · have low := @code_unitPoint (0x10000 + (v - 0xD800) * 0x400 + (w - 0xDC00))
        unfold pairPoint
        omega
      · exact (code_unitPoint).imp_right .inl
  | case4 u => exact .singleton _

/-! ## Quoted texts -/

variable {opening : Nat} {rest : List Char}

theorem unit?_hex {u : Nat} (small : u < 0x10000) :
    unit? (Text.digitChar (u / 16 / 16 / 16 % 16)) (Text.digitChar (u / 16 / 16 % 16))
      (Text.digitChar (u / 16 % 16)) (Text.digitChar (u % 16)) = some u := by
  have digit (n : Nat) := Text.digitValue?_digitChar (Nat.mod_lt n (show 0 < 16 by decide))
  simp only [unit?, digit, bind, Option.bind, pure]
  congr 1
  omega

theorem readUnits_unitEscape {u : Nat} (small : u < 0x10000) (goesOn : rest ≠ []) :
    readUnits opening (unitEscape u ++ rest) = prepend u (readUnits opening rest) := by
  obtain ⟨c, rest, rfl⟩ := List.exists_cons_of_ne_nil goesOn
  have spelled : unitEscape u ++ c :: rest =
      '\\' :: 'u' :: Text.digitChar (u / 16 / 16 / 16 % 16) :: Text.digitChar (u / 16 / 16 % 16) ::
        Text.digitChar (u / 16 % 16) :: Text.digitChar (u % 16) :: c :: rest := rfl
  rw [spelled, readUnits]
  exact unit?_hex small

theorem readUnits_escape {c c' : Char} (known : escape? c = some c') :
    readUnits opening ('\\' :: c :: rest) = prepend c'.toNat (readUnits opening rest) := by
  have plain : c ≠ 'u' := by
    rintro rfl
    cases known
  rw [readUnits, if_neg plain, known]
  all_goals
    intros
    simp_all

theorem readUnits_plain {c : Char} (noQuote : c ≠ '\x22') (noBackslash : c ≠ '\\')
    (shown : 0x20 ≤ c.toNat) :
    readUnits opening (c :: rest) = prepend c.toNat (readUnits opening rest) := by
  rw [readUnits, if_neg noQuote, if_neg (by omega)]
  all_goals
    intros
    simp_all

theorem readUnits_writeCode (c : CodePoint) (goesOn : rest ≠ []) :
    readUnits opening (writeCode c.code ++ rest) =
      (readUnits opening rest).map fun (us, rest) => (units c ++ us, rest) := by
  have bound := c.code_lt
  unfold writeCode units
  split
  · next single => exact readUnits_unitEscape single goesOn
  · have low : unitEscape (0xDC00 + (c.code - 0x10000) % 0x400) ++ rest ≠ [] := List.cons_ne_nil _ _
    rw [List.append_assoc, readUnits_unitEscape (by omega) low,
      readUnits_unitEscape (by omega) goesOn]
    cases readUnits opening rest with
    | error stop => rfl
    | ok read => rfl

theorem units_ascii {c : Char} (ascii : c.toNat < 0x80) : units (.char c) = [c.toNat] := by
  rw [units, if_pos (show (CodePoint.char c).code < 0x10000 by rw [CodePoint.code]; omega)]
  rfl

/-- One step: a written code point is read as its units. -/
theorem readUnits_writePoint (c : CodePoint) (goesOn : rest ≠ []) :
    readUnits opening (writePoint c ++ rest) =
      (readUnits opening rest).map fun (us, rest) => (units c ++ us, rest) := by
  cases c with
  | surrogate half => exact readUnits_writeCode (.surrogate half) goesOn
  | char c =>
    rw [writePoint, writeChar]
    split_ifs with quoted newline carriage tab feed backspace plain
    · rcases quoted with rfl | rfl
      · exact readUnits_escape rfl
      · exact readUnits_escape rfl
    · exact newline ▸ readUnits_escape rfl
    · exact carriage ▸ readUnits_escape rfl
    · exact tab ▸ readUnits_escape rfl
    · exact feed ▸ readUnits_escape rfl
    · exact backspace ▸ readUnits_escape rfl
    · obtain ⟨noQuote, noBackslash⟩ := not_or.mp quoted
      rw [units_ascii (by omega)]
      exact readUnits_plain noQuote noBackslash plain.1
    · exact readUnits_writeCode (.char c) goesOn

theorem readUnits_writeText (s : Text) :
    readUnits opening (s.flatMap writePoint ++ '\x22' :: rest) = .ok (s.flatMap units, rest) := by
  induction s with
  | nil =>
    rw [List.flatMap_nil, List.nil_append, readUnits, if_pos rfl]
    · rfl
    all_goals
      intros
      simp_all
  | cons c s ih =>
    rw [List.flatMap_cons, List.append_assoc, readUnits_writePoint c (by simp), ih]
    rfl

/-- A written text is read back if no pair in it is split. -/
theorem readString_writeText {s : Text} (unsplit : s.Unsplit) :
    readString opening (s.flatMap writePoint ++ '\x22' :: rest) = .ok (s, rest) := by
  rw [readString, readUnits_writeText]
  exact congrArg (fun s => Except.ok (s, rest)) (joinUnits_units unsplit)

theorem unsplit_of_readString {cs : List Char} {s : Text}
    (done : readString opening cs = .ok (s, rest)) : s.Unsplit := by
  obtain ⟨⟨us, after⟩, _, same⟩ := Outcome.map_eq_ok.mp done
  cases same
  exact unsplit_joinUnits us

/-! ## Integers -/

/-- What follows cannot go on a number. -/
def EndsNumber (rest : List Char) : Prop :=
  ∀ c, rest.head? = some c → Text.isDigit c = false ∧ c ≠ '.' ∧ c ≠ 'e' ∧ c ≠ 'E'

theorem finishNumber_of_ends (negative : Bool) {digits : List Char} (ends : EndsNumber rest)
    (short : digits.length ≤ Number.maxDigits) :
    finishNumber negative digits rest =
      .ok (.int (if negative then -(Text.readDigits 10 digits : Int) else Text.readDigits 10 digits),
        rest) := by
  have fraction : splitFraction rest = ([], rest) := by
    unfold splitFraction
    split
    · exact absurd rfl (ends _ rfl).2.1
    · rfl
  have exponent : splitExponent rest = (none, rest) := by
    unfold splitExponent
    split
    · rfl
    · next c more =>
      rw [if_neg (by simpa using (ends c rfl).2.2)]
  rw [finishNumber, fraction]
  simp only [exponent]
  exact if_neg (Nat.not_lt.mpr short)

theorem readNumber_decimal (start : List Char) (negative : Bool) {n : Nat} (ends : EndsNumber rest)
    (short : (Text.decimal n).length ≤ Number.maxDigits) :
    readNumber start negative (Text.decimal n ++ rest) =
      .ok (.int (if negative then -(n : Int) else n), rest) := by
  have done := finishNumber_of_ends negative ends short
  rw [Text.readDigits_decimal] at done
  rw [← done]
  unfold readNumber
  split
  · next after starts =>
    obtain ⟨c, more, same⟩ := List.exists_cons_of_ne_nil (Text.decimal_ne_nil n)
    rw [same, List.cons_append] at starts
    obtain ⟨rfl, rfl⟩ := List.cons.inj starts
    rw [same, Text.eq_nil_of_decimal same, List.nil_append]
  · have spanned : (Text.decimal n ++ rest).span Text.isDigit = (Text.decimal n, rest) := by
      rw [List.span_eq_takeWhile_dropWhile,
        List.takeWhile_append_of_pos Text.isDigit_of_mem_decimal,
        List.dropWhile_append_of_pos Text.isDigit_of_mem_decimal]
      cases rest with
      | nil => simp
      | cons c rest =>
        have other := (ends c rfl).1
        simp [other]
    rw [spanned]
    split
    · next empty => exact absurd (congrArg Prod.fst empty) (Text.decimal_ne_nil n)
    · next same =>
      cases same
      rfl

theorem readAtom_of_isDigit {c : Char} {cs : List Char} (digit : Text.isDigit c = true) :
    readAtom (c :: cs) = readNumber (c :: cs) false (c :: cs) := by
  unfold readAtom
  split
  case h_8 => rfl
  all_goals
    next starts =>
    cases starts
    cases digit

theorem readAtom_minus {c : Char} {cs : List Char} (digit : Text.isDigit c = true) :
    readAtom ('-' :: c :: cs) = readNumber ('-' :: c :: cs) true (c :: cs) := by
  unfold readAtom
  split
  case h_6 =>
    next starts =>
    cases starts
    cases digit
  case h_7 =>
    next starts =>
    cases starts
    rfl
  case h_8 =>
    next other =>
    exact absurd rfl (other _)
  all_goals
    next starts =>
    cases starts

theorem length_decimal_of_isShowable {n : Int} (showable : (Value.int n).isShowable = true) :
    (Text.decimal n.natAbs).length ≤ Number.maxDigits := by
  unfold Value.isShowable Value.showLimit at showable
  rw [decide_eq_true_iff] at showable
  obtain ⟨k, limit⟩ : ∃ k, Number.maxDigits = k + 1 := ⟨4299, rfl⟩
  rw [limit] at showable ⊢
  exact Text.length_decimal_le showable

/-- A written integer is read back if it can be shown. -/
theorem readAtom_decimalInt {n : Int} (showable : (Value.int n).isShowable = true)
    (ends : EndsNumber rest) : readAtom (Text.decimalInt n ++ rest) = .ok (.int n, rest) := by
  have short := length_decimal_of_isShowable showable
  cases n with
  | ofNat n =>
    have number := @readNumber_decimal rest (Text.decimal n ++ rest) false n ends short
    obtain ⟨c, cs, same⟩ := List.exists_cons_of_ne_nil (Text.decimal_ne_nil n)
    have digit := Text.isDigit_of_mem_decimal c (same ▸ List.mem_cons_self)
    rw [Text.decimalInt]
    rw [same, List.cons_append] at number ⊢
    rw [readAtom_of_isDigit digit, number]
    rfl
  | negSucc n =>
    have number := @readNumber_decimal rest ('-' :: (Text.decimal (n + 1) ++ rest)) true
      (n + 1) ends short
    obtain ⟨c, cs, same⟩ := List.exists_cons_of_ne_nil (Text.decimal_ne_nil (n + 1))
    have digit := Text.isDigit_of_mem_decimal c (same ▸ List.mem_cons_self)
    rw [Text.decimalInt, List.cons_append]
    rw [same, List.cons_append] at number ⊢
    rw [readAtom_minus digit, number]
    rfl

end Json

end VariantIter
