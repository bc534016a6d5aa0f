import Mathlib.Data.List.Infix
import Mathlib.Data.List.TakeWhile
import VariantIter.Json.Reader
import VariantIter.Proofs.Outcome

/-!
Where reading JSON stops.

Reading goes forward: what is left of a text after a value is one of its ends. Main statement: where
reading stops at something else than a malformed text, the text shows why. It holds a run of digits that
is too long, or it opens more collections than may stand inside of each other.
-/

namespace VariantIter.Json

open Outcome

/-- How many collections a text opens at most. -/
def openings (cs : List Char) : Nat :=
  cs.countP fun c => c == '[' || c == '\x7b'

/-- The text that is left shows why reading stopped, inside of `depth` collections. -/
def Stop.Shown (depth : Nat) (cs : List Char) : Stop → Prop
  | .problem _ _ => True
  | .tooManyDigits count =>
      Number.maxDigits < count ∧
        ∃ run, run <:+: cs ∧ run.length = count ∧ ∀ c ∈ run, Text.isDigit c = true
  | .tooDeep _ => maxDepth < depth + openings cs

/-- Reading ends with a rest of the text, or where the text shows why. -/
def Accounts {α : Type} (depth : Nat) (cs : List Char) : Except Stop (α × List Char) → Prop :=
  Ends (fun read => read.2 <:+ cs) (Stop.Shown depth cs)

section Parts

variable {α β : Type} {depth : Nat} {cs rest : List Char} {stop : Stop}
  {result : Except Stop (α × List Char)}

theorem Stop.Shown.of_suffix (shown : stop.Shown depth rest) (suffix : rest <:+ cs) :
    stop.Shown depth cs := by
  cases stop with
  | problem problem left => trivial
  | tooManyDigits count =>
    obtain ⟨many, run, inside, length, digits⟩ := shown
    exact ⟨many, run, inside.trans suffix.isInfix, length, digits⟩
  | tooDeep nest =>
    have fewer : openings rest ≤ openings cs := suffix.sublist.countP_le
    exact Nat.lt_of_lt_of_le shown (Nat.add_le_add_left fewer depth)

/-- A collection that is opened is one of those around what it holds. -/
theorem Stop.Shown.of_opening {c : Char} (opens : (c == '[' || c == '\x7b') = true)
    (shown : stop.Shown (depth + 1) rest) : stop.Shown depth (c :: rest) := by
  cases stop with
  | problem problem left => trivial
  | tooManyDigits count =>
    obtain ⟨many, run, inside, length, digits⟩ := shown
    exact ⟨many, run, inside.trans (List.suffix_cons c rest).isInfix, length, digits⟩
  | tooDeep nest =>
    have more : openings (c :: rest) = openings rest + 1 := List.countP_cons_of_pos opens
    have deep : maxDepth < depth + 1 + openings rest := shown
    show maxDepth < depth + openings (c :: rest)
    omega

theorem Accounts.of_suffix (accounts : Accounts depth rest result) (suffix : rest <:+ cs) :
    Accounts depth cs result :=
  Ends.imp accounts (fun _ ends => ends.trans suffix) fun _ shown => shown.of_suffix suffix

theorem Accounts.of_opening (c : Char) (opens : (c == '[' || c == '\x7b') = true)
    (accounts : Accounts (depth + 1) rest result) : Accounts depth (c :: rest) result :=
  Ends.imp accounts (fun _ ends => ends.trans (List.suffix_cons c rest)) fun _ shown =>
    shown.of_opening opens

theorem Accounts.map (accounts : Accounts depth cs result) (f : α → β) :
    Accounts depth cs (result.map fun (a, rest) => (f a, rest)) :=
  ends_map.mpr accounts

theorem suffix_skipSpace (cs : List Char) : skipSpace cs <:+ cs :=
  List.dropWhile_suffix _

/-- What comes after a gap and one character. -/
theorem suffix_of_skipSpace {c : Char} {more : List Char} (suffix : rest <:+ cs)
    (skipped : skipSpace rest = c :: more) : more <:+ cs :=
  calc more <:+ c :: more := List.suffix_cons c more
    _ = skipSpace rest := skipped.symm
    _ <:+ rest := suffix_skipSpace rest
    _ <:+ cs := suffix

end Parts

/-! ## Texts -/

variable {depth : Nat}

theorem accounts_readUnits (opening : Nat) (cs : List Char) :
    Accounts depth cs (readUnits opening cs) := by
  fun_induction readUnits opening cs with
  | case1 => trivial
  | case2 => trivial
  | case3 a b c d u next more unit ih =>
    exact (ih.map _).of_suffix ⟨['\\', 'u', a, b, c, d], rfl⟩
  | case4 => trivial
  | case5 => trivial
  | case6 c rest notLong notUnit c' escaped ih =>
    exact (ih.map _).of_suffix ⟨['\\', c], rfl⟩
  | case7 => trivial
  | case8 rest => exact List.suffix_cons _ rest
  | case9 => trivial
  | case10 c rest _ _ _ _ _ ih => exact (ih.map _).of_suffix (List.suffix_cons c rest)

theorem accounts_readString (opening : Nat) (cs : List Char) :
    Accounts depth cs (readString opening cs) :=
  (accounts_readUnits opening cs).map joinUnits

/-! ## Numbers -/

theorem suffix_splitFraction (cs : List Char) : (splitFraction cs).2 <:+ cs := by
  unfold splitFraction
  split
  · next more =>
    rw [List.span_eq_takeWhile_dropWhile]
    split
    · exact List.suffix_rfl
    · next spanned =>
      cases spanned
      exact (List.dropWhile_suffix _).trans (List.suffix_cons '.' more)
  · exact List.suffix_rfl

theorem suffix_splitExponent (cs : List Char) : (splitExponent cs).2 <:+ cs := by
  unfold splitExponent
  split
  · exact List.suffix_rfl
  · next e more =>
    split
    · simp only [List.span_eq_takeWhile_dropWhile]
      split
      · exact List.suffix_rfl
      · next spanned =>
        cases spanned
        refine (List.dropWhile_suffix _).trans (List.IsSuffix.trans ?_ (List.suffix_cons e more))
        split
        · exact List.suffix_cons _ _
        · exact List.suffix_cons _ _
        · exact List.suffix_rfl
    · exact List.suffix_rfl

theorem accounts_finishNumber {negative : Bool} {digits more cs : List Char}
    (each : ∀ c ∈ digits, Text.isDigit c = true) (suffix : digits ++ more <:+ cs) :
    Accounts depth cs (finishNumber negative digits more) := by
  have after : (splitExponent (splitFraction more).2).2 <:+ cs :=
    calc (splitExponent (splitFraction more).2).2
      _ <:+ (splitFraction more).2 := suffix_splitExponent _
      _ <:+ more := suffix_splitFraction more
      _ <:+ digits ++ more := List.suffix_append digits more
      _ <:+ cs := suffix
  unfold finishNumber
  simp only
  split
  · split
    · next many =>
      have inside : digits <:+: cs := (List.prefix_append digits more).isInfix.trans suffix.isInfix
      exact ⟨many, digits, inside, rfl, each⟩
    · exact after
  · exact after

theorem accounts_readNumber (start : List Char) (negative : Bool) (cs : List Char) :
    Accounts depth cs (readNumber start negative cs) := by
  unfold readNumber
  split
  · exact accounts_finishNumber (List.forall_mem_singleton.mpr rfl) List.suffix_rfl
  · rw [List.span_eq_takeWhile_dropWhile]
    split
    · trivial
    · next spanned =>
      cases spanned
      refine accounts_finishNumber (fun c member => List.mem_takeWhile_imp member) ?_
      rw [List.takeWhile_append_dropWhile]

theorem accounts_readAtom (cs : List Char) : Accounts depth cs (readAtom cs) := by
  unfold readAtom
  split
  · exact ⟨['n', 'u', 'l', 'l'], rfl⟩
  · exact ⟨['t', 'r', 'u', 'e'], rfl⟩
  · exact ⟨['f', 'a', 'l', 's', 'e'], rfl⟩
  · exact ⟨['N', 'a', 'N'], rfl⟩
  · exact ⟨['I', 'n', 'f', 'i', 'n', 'i', 't', 'y'], rfl⟩
  · exact ⟨['-', 'I', 'n', 'f', 'i', 'n', 'i', 't', 'y'], rfl⟩
  · next rest _ => exact (accounts_readNumber _ true rest).of_suffix (List.suffix_cons '-' rest)
  · exact accounts_readNumber cs false cs

/-! ## Collections -/

/-- A collection that is opened too deeply is one too many. -/
theorem shown_tooDeep {c : Char} (opens : (c == '[' || c == '\x7b') = true) (nest : Nest)
    {rest : List Char} (deep : maxDepth ≤ depth) : (Stop.tooDeep nest).Shown depth (c :: rest) := by
  have more : openings (c :: rest) = openings rest + 1 := List.countP_cons_of_pos opens
  show maxDepth < depth + openings (c :: rest)
  omega

/-- The same of a value, of the items of a list, and of the members of a mapping. -/
theorem accounts_read (fuel : Nat) :
    (∀ depth cs, Accounts depth cs (readValue depth fuel cs)) ∧
    (∀ depth cs, Accounts depth cs (readItems depth fuel cs)) ∧
    (∀ depth cs, Accounts depth cs (readMembers depth fuel cs)) := by
  induction fuel with
  | zero => exact ⟨fun _ _ => trivial, fun _ _ => trivial, fun _ _ => trivial⟩
  | succ fuel ih =>
    obtain ⟨values, lists, mappings⟩ := ih
    refine ⟨fun depth cs => ?_, fun depth cs => ?_, fun depth cs => ?_⟩
    · unfold readValue
      split
      · next rest =>
        exact ((accounts_readString _ rest).map Value.text).of_suffix (List.suffix_cons _ rest)
      · next rest =>
        split
        · next deep => exact shown_tooDeep rfl .list deep
        · split
          · next closed => exact suffix_of_skipSpace (List.suffix_cons '[' rest) closed
          · exact (((lists _ _).of_suffix (suffix_skipSpace rest)).of_opening '[' rfl).map Value.list
      · next rest =>
        split
        · next deep => exact shown_tooDeep rfl .mapping deep
        · split
          · next closed => exact suffix_of_skipSpace (List.suffix_cons '\x7b' rest) closed
          · exact (((mappings _ _).of_suffix (suffix_skipSpace rest)).of_opening '\x7b' rfl).map
              fun members => Value.map (Entries.ofPairs members)
      · exact accounts_readAtom cs
    · unfold readItems
      refine Ends.bind (values depth cs) fun (item, rest) suffix => ?_
      simp only
      split
      · next closed => exact suffix_of_skipSpace suffix closed
      · next more separated =>
        have after : skipSpace more <:+ cs :=
          (suffix_skipSpace more).trans (suffix_of_skipSpace suffix separated)
        exact Ends.bind ((lists depth _).of_suffix after) fun _ ends => ends
      · trivial
    · unfold readMembers
      split
      · next rest =>
        refine Ends.bind ((accounts_readString _ rest).of_suffix (List.suffix_cons _ rest))
          fun (name, rest) suffix => ?_
        simp only
        split
        · next more separated =>
          have after : skipSpace more <:+ _ :=
            (suffix_skipSpace more).trans (suffix_of_skipSpace suffix separated)
          refine Ends.bind ((values depth _).of_suffix after) fun (value, rest) suffix => ?_
          simp only
          split
          · next closed => exact suffix_of_skipSpace suffix closed
          · next more separated =>
            have after : skipSpace more <:+ _ :=
              (suffix_skipSpace more).trans (suffix_of_skipSpace suffix separated)
            exact Ends.bind ((mappings depth _).of_suffix after) fun _ ends => ends
          · trivial
        · trivial
      · trivial

/-- The text shows why there is no value in it, unless it is malformed. -/
theorem shown_of_readDocument {cs : List Char} {stop : Stop} (stopped : readDocument cs = .error stop) :
    stop.Shown 0 cs := by
  unfold readDocument at stopped
  split at stopped
  · cases stopped
    trivial
  · rcases bind_eq_error.mp stopped with stopped | ⟨⟨value, rest⟩, _, extra⟩
    · have accounts := ((accounts_read (2 * cs.length + 2)).1 0 _).of_suffix (suffix_skipSpace cs)
      exact accounts.error stopped
    · simp only at extra
      split at extra
      · cases extra
      · cases extra
        trivial

end VariantIter.Json
