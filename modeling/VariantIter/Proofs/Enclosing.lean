import VariantIter.Proofs.Layout

/-!
Enclosed texts are read back.

Enclosing goes over the text twice, and the second pass sees the backslashes that the first has written.
Still both together work on each code point for itself (`enclose_eq`), since the first pass writes no
double quote. Reading takes what stands for one code point in one step, so that backslashes stay paired
in runs of any length. Main statement: what the filter `quote` makes of a text is closed by its last
double quote and by none before it, and the text read up to there is the one that was given.
-/

namespace VariantIter.Text

/-! ## Both passes at once -/

/-- What stands for a code point in an enclosed text. -/
def enclosedPoint (c : CodePoint) : Text :=
  if c = backslash ∨ c = doubleQuote then [backslash, c] else [c]

theorem replaced_append (front back : Text) (old : CodePoint) (new : Text) :
    (front ++ back).replaced old new = front.replaced old new ++ back.replaced old new :=
  List.flatMap_append

theorem replaced_singleton_self (old : CodePoint) (new : Text) : replaced [old] old new = new := by
  simp [replaced]

theorem replaced_singleton_of_ne {c old : CodePoint} (other : c ≠ old) (new : Text) :
    replaced [c] old new = [c] := by
  simp [replaced, other]

/-- The two passes over a single code point. -/
theorem replaced_backslash_doubleQuote (c : CodePoint) :
    (replaced [c] backslash [backslash, backslash]).replaced doubleQuote [backslash, doubleQuote] =
      enclosedPoint c := by
  have distinct : backslash ≠ doubleQuote := by decide
  by_cases slash : c = backslash
  · -- The two backslashes of the first pass go through the second unchanged.
    subst slash
    rw [replaced_singleton_self, enclosedPoint, if_pos (.inl rfl)]
    calc replaced [backslash, backslash] doubleQuote [backslash, doubleQuote]
      _ = replaced [backslash] doubleQuote [backslash, doubleQuote] ++
            replaced [backslash] doubleQuote [backslash, doubleQuote] :=
          replaced_append [backslash] [backslash] _ _
      _ = [backslash, backslash] := by rw [replaced_singleton_of_ne distinct]; rfl
  · rw [replaced_singleton_of_ne slash]
    by_cases quote : c = doubleQuote
    · subst quote
      rw [replaced_singleton_self, enclosedPoint, if_pos (.inr rfl)]
    · rw [replaced_singleton_of_ne quote, enclosedPoint, if_neg (not_or.mpr ⟨slash, quote⟩)]

theorem enclose_eq (s : Text) :
    enclose s = doubleQuote :: s.flatMap enclosedPoint ++ [doubleQuote] := by
  suffices passes : (s.replaced backslash [backslash, backslash]).replaced doubleQuote
      [backslash, doubleQuote] = s.flatMap enclosedPoint by
    rw [← passes]
    rfl
  induction s with
  | nil => rfl
  | cons c cs ih =>
    rw [List.flatMap_cons, ← ih, ← replaced_backslash_doubleQuote, ← replaced_append,
      ← replaced_append]
    rfl

example : enclose "\\\"\\" = "\"\\\\\\\"\\\\\"" := by decide

/-! ## Reading -/

theorem discloseBody_taken (c : CodePoint) (rest : Text) :
    discloseBody (backslash :: c :: rest) = (discloseBody rest).map (Prod.map (c :: ·) id) := by
  rw [discloseBody, if_pos rfl]
  rfl

theorem discloseBody_plain {c : CodePoint} (slash : c ≠ backslash) (quote : c ≠ doubleQuote)
    (rest : Text) :
    discloseBody (c :: rest) = (discloseBody rest).map (Prod.map (c :: ·) id) := by
  cases rest with
  | nil => exact if_neg quote
  | cons d rest =>
    rw [discloseBody, if_neg slash, if_neg quote]
    rfl

theorem discloseBody_doubleQuote (rest : Text) :
    discloseBody (doubleQuote :: rest) = some ([], rest) := by
  cases rest with
  | nil => rfl
  | cons d rest => rfl

/-- One step of reading for each code point of the text. -/
theorem discloseBody_enclosedPoint (c : CodePoint) (rest : Text) :
    discloseBody (enclosedPoint c ++ rest) = (discloseBody rest).map (Prod.map (c :: ·) id) := by
  unfold enclosedPoint
  split
  · exact discloseBody_taken c rest
  · next plain =>
    obtain ⟨slash, quote⟩ := not_or.mp plain
    exact discloseBody_plain slash quote rest

/-- Reading goes through all that stands for a text, and on behind it. -/
theorem discloseBody_flatMap (s rest : Text) :
    discloseBody (s.flatMap enclosedPoint ++ rest) =
      (discloseBody rest).map (Prod.map (s ++ ·) id) := by
  induction s with
  | nil => exact (Option.map_id_apply).symm
  | cons c cs ih =>
    rw [List.flatMap_cons, List.append_assoc, discloseBody_enclosedPoint, ih, Option.map_map]
    rfl

/-- What has been read stays read, whatever is added behind. -/
theorem discloseBody_append {cs text tail : Text} (read : discloseBody cs = some (text, tail))
    (more : Text) : discloseBody (cs ++ more) = some (text, tail ++ more) := by
  fun_induction discloseBody cs generalizing text tail with
  | case1 => cases read
  | case2 =>
    cases read
    exact discloseBody_doubleQuote more
  | case3 => cases read
  | case4 c rest ih =>
    obtain ⟨⟨text, tail⟩, inner, same⟩ := Option.map_eq_some_iff.mp read
    cases same
    rw [List.cons_append, List.cons_append, discloseBody_taken, ih inner]
    rfl
  | case5 c rest =>
    cases read
    exact discloseBody_doubleQuote (c :: rest ++ more)
  | case6 c d rest slash quote ih =>
    obtain ⟨⟨text, tail⟩, inner, same⟩ := Option.map_eq_some_iff.mp read
    cases same
    rw [List.cons_append, discloseBody_plain slash quote, ih inner]
    rfl

/-- Where the whole does not close, no beginning does. -/
theorem discloseBody_take {cs : Text} (opened : discloseBody cs = none) (n : Nat) :
    discloseBody (cs.take n) = none := by
  rw [Option.eq_none_iff_forall_ne_some]
  rintro ⟨text, tail⟩ read
  have closed := discloseBody_append read (cs.drop n)
  rw [List.take_append_drop, opened] at closed
  cases closed

theorem disclose_enclose (s rest : Text) : disclose (enclose s ++ rest) = some (s, rest) := by
  rw [enclose_eq, List.append_assoc, List.cons_append, disclose, if_pos rfl, discloseBody_flatMap,
    List.singleton_append, discloseBody_doubleQuote]
  show some (s ++ [], rest) = _
  rw [List.append_nil]

theorem enclose_injective : Function.Injective enclose := by
  intro s other same
  have read : some (s, ([] : Text)) = some (other, []) := by
    rw [← disclose_enclose, ← disclose_enclose, same]
  cases read
  rfl

end VariantIter.Text

namespace VariantIter.Template

open Text

/-- In every dialect, a quoted text is closed by its last double quote and by none before it, whatever
follows, and has been read by then. Hence no two texts are quoted alike. -/
theorem quote_undone (s : Text) :
    ∃ body,
      (∀ dialect, applyNamed dialect (.text s) "quote" =
        .ok (.text (doubleQuote :: body ++ [doubleQuote]))) ∧
      (∀ n, disclose (doubleQuote :: body.take n) = none) ∧
      (∀ rest, disclose (doubleQuote :: body ++ doubleQuote :: rest) = some (s, rest)) ∧
      ∀ dialect other, applyNamed dialect (.text other) "quote" =
        applyNamed dialect (.text s) "quote" ↔ other = s := by
  refine ⟨s.flatMap enclosedPoint, ?_, ?_, ?_, ?_⟩
  · intro dialect
    rw [applyNamed_quote, enclose_eq]
  · intro n
    have opened : discloseBody (s.flatMap enclosedPoint) = none := by
      have read := discloseBody_flatMap s []
      rwa [List.append_nil] at read
    exact discloseBody_take opened n
  · intro rest
    have read := disclose_enclose s rest
    rwa [enclose_eq, List.append_assoc] at read
  · intro dialect other
    rw [applyNamed_quote, applyNamed_quote]
    constructor
    · intro same
      exact enclose_injective (Value.text.inj (Datum.value.inj (Except.ok.inj same)))
    · intro same
      rw [same]

end VariantIter.Template
