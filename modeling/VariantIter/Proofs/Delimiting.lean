import Mathlib.Data.List.Infix
import VariantIter.Proofs.Words
import VariantIter.Text.Digits

/-!
Texts that say where they end.

A way of printing delimits its values when a printed value can be told from whatever follows it. Words
of some class of characters end at the first other one. A text ends at a mark that it does not hold, as
long as the mark does not overlap itself. A list of printed items ends where its separator does not
follow.
-/

namespace VariantIter.Text

variable {α : Type}

/-- Among valid values, a printed value and what follows it can be read back from the text of both. -/
def Delimits (valid : α → Prop) (print : α → Text) : Prop :=
  ∀ ⦃a b : α⦄, valid a → valid b → ∀ ⦃rest rest' : Text⦄,
    print a ++ rest = print b ++ rest' → a = b ∧ rest = rest'

/-- Two texts that differ, whatever follows them. -/
def Apart (left right : Text) : Prop :=
  ∀ rest rest' : Text, left ++ rest ≠ right ++ rest'

theorem apart_cons {first second : CodePoint} (distinct : first ≠ second) (left right : Text) :
    Apart (first :: left) (second :: right) :=
  fun _ _ same => distinct (List.cons.inj same).1

theorem Apart.symm {left right : Text} (apart : Apart left right) : Apart right left :=
  fun rest rest' same => apart rest' rest same.symm

theorem Apart.append_left (front : Text) {left right : Text} (apart : Apart left right) :
    Apart (front ++ left) (front ++ right) := by
  intro rest rest' same
  simp only [List.append_assoc] at same
  exact apart rest rest' (List.append_cancel_left same)

/-! ## Words -/

/-- A text that begins outside of a class of characters. -/
def Leaves (inner : CodePoint → Prop) (text : Text) : Prop :=
  ∃ stop more, text = stop :: more ∧ ¬ inner stop

/-- A word ends at the first character that is not of its class. -/
theorem append_inj_of_leaves {inner : CodePoint → Prop} {word word' : Text}
    (inside : ∀ c ∈ word, inner c) (inside' : ∀ c ∈ word', inner c) {rest rest' : Text}
    (outside : Leaves inner rest) (outside' : Leaves inner rest')
    (same : word ++ rest = word' ++ rest') : word = word' ∧ rest = rest' := by
  induction word generalizing word' with
  | nil =>
    cases word' with
    | nil => exact ⟨rfl, same⟩
    | cons c cs =>
      obtain ⟨stop, more, rfl, left⟩ := outside
      have first : stop = c := (List.cons.inj same).1
      exact absurd (first ▸ inside' c List.mem_cons_self) left
  | cons c cs ih =>
    obtain ⟨now, later⟩ := List.forall_mem_cons.mp inside
    cases word' with
    | nil =>
      obtain ⟨stop, more, rfl, left⟩ := outside'
      have first : c = stop := (List.cons.inj same).1
      exact absurd (first ▸ now) left
    | cons d ds =>
      obtain ⟨rfl, after⟩ := List.cons.inj same
      obtain ⟨rfl, ends⟩ := ih later (List.forall_mem_cons.mp inside').2 after
      exact ⟨rfl, ends⟩

/-! ## Marks -/

/-- No proper part of the mark is both its beginning and its end, so that it cannot overlap itself. -/
def Unbordered (mark : Text) : Prop :=
  ∀ overlap, overlap <+: mark → overlap <:+ mark → overlap = [] ∨ overlap = mark

/-- A mark does not overlap itself if its last character stands nowhere else in it. -/
theorem unbordered_concat {body : Text} {stop : CodePoint} (once : stop ∉ body) :
    Unbordered (body ++ [stop]) := by
  intro overlap beginning ending
  rcases List.suffix_concat_iff.mp ending with empty | ⟨back, same, _⟩
  · exact .inl empty
  · rcases List.prefix_concat_iff.mp beginning with whole | early
    · exact .inr whole
    · refine absurd (early.subset ?_) once
      rw [same]
      exact List.mem_append_right back List.mem_cons_self

theorem eq_nil_of_unbordered {mark : Text} (unbordered : Unbordered mark) {between rest rest' : Text}
    (absent : ¬ mark <:+: between) (same : mark ++ rest = between ++ (mark ++ rest')) :
    between = [] := by
  -- The mark on the left ends inside of the text between, or it reaches into the mark on the right.
  rcases List.append_eq_append_iff.mp same with ⟨more, rfl, _⟩ | ⟨overlap, split, after⟩
  · exact absurd (List.infix_append [] mark more) absent
  · have shorter : overlap.length ≤ mark.length := by
      rw [split, List.length_append]
      exact Nat.le_add_left _ _
    have beginning : overlap <+: mark :=
      List.prefix_of_prefix_length_le (after ▸ List.prefix_append overlap rest)
        (List.prefix_append mark rest') shorter
    rcases unbordered overlap beginning ⟨between, split.symm⟩ with rfl | rfl
    · rw [List.append_nil] at split
      exact absurd (split ▸ List.infix_rfl) absent
    · exact List.append_left_eq_self.mp split.symm

/-- A text ends at the first mark after it. -/
theorem delimits_mark {mark : Text} (unbordered : Unbordered mark) :
    Delimits (fun text => ¬ mark <:+: text) (· ++ mark) := by
  intro text text' absent absent' rest rest' same
  simp only [List.append_assoc] at same
  -- The longer text would hold a mark right after the shorter one.
  rcases List.append_eq_append_iff.mp same with ⟨between, rfl, after⟩ | ⟨between, rfl, after⟩
  · have free : ¬ mark <:+: between := fun found =>
      absent' (found.trans (List.suffix_append text between).isInfix)
    obtain rfl := eq_nil_of_unbordered unbordered free after
    exact ⟨(List.append_nil text).symm, List.append_cancel_left after⟩
  · have free : ¬ mark <:+: between := fun found =>
      absent (found.trans (List.suffix_append text' between).isInfix)
    obtain rfl := eq_nil_of_unbordered unbordered free after
    exact ⟨List.append_nil text', (List.append_cancel_left after).symm⟩

/-! ## Lists -/

/-- What follows the first item of a list: more items after separators, up to a stop. -/
theorem delimits_separated {valid : α → Prop} {print : α → Text} (each : Delimits valid print)
    {separator stop : Text} (apart : Apart separator stop) :
    Delimits (fun items : List α => ∀ item ∈ items, valid item)
      (fun items => (items.flatMap fun item => separator ++ print item) ++ stop) := by
  intro items
  induction items with
  | nil =>
    intro items' _ _ rest rest' same
    cases items' with
    | nil => exact ⟨rfl, List.append_cancel_left same⟩
    | cons item items =>
      simp only [List.flatMap_cons, List.append_assoc] at same
      exact absurd same (apart.symm _ _)
  | cons item items ih =>
    intro items' valid valid' rest rest' same
    cases items' with
    | nil =>
      simp only [List.flatMap_cons, List.append_assoc] at same
      exact absurd same (apart _ _)
    | cons item' items' =>
      obtain ⟨first, others⟩ := List.forall_mem_cons.mp valid
      obtain ⟨first', others'⟩ := List.forall_mem_cons.mp valid'
      simp only [List.flatMap_cons, List.append_assoc] at same
      obtain ⟨rfl, after⟩ := each first first' (List.append_cancel_left same)
      rw [← List.append_assoc, ← List.append_assoc] at after
      obtain ⟨rfl, rest⟩ := ih others others' after
      exact ⟨rfl, rest⟩

/-- A list of items ends at a stop with which neither a separator nor an item begins. -/
theorem delimits_joined {valid : α → Prop} {print : α → Text} (each : Delimits valid print)
    {separator stop : Text} (apart : Apart separator stop)
    (started : ∀ item, valid item → Apart (print item) stop) :
    Delimits (fun items : List α => ∀ item ∈ items, valid item)
      (fun items => joined separator (items.map print) ++ stop) := by
  intro items items' valid valid' rest rest' same
  cases items with
  | nil =>
    cases items' with
    | nil => exact ⟨rfl, List.append_cancel_left same⟩
    | cons item' items' =>
      simp only [List.map_cons, joined_cons, List.append_assoc] at same
      exact absurd same ((started item' (valid' item' List.mem_cons_self)).symm _ _)
  | cons item items =>
    cases items' with
    | nil =>
      simp only [List.map_cons, joined_cons, List.append_assoc] at same
      exact absurd same (started item (valid item List.mem_cons_self) _ _)
    | cons item' items' =>
      obtain ⟨first, others⟩ := List.forall_mem_cons.mp valid
      obtain ⟨first', others'⟩ := List.forall_mem_cons.mp valid'
      simp only [List.map_cons, joined_cons, List.append_assoc, List.flatMap_map] at same
      obtain ⟨rfl, after⟩ := each first first' same
      rw [← List.append_assoc, ← List.append_assoc] at after
      obtain ⟨rfl, rest⟩ := delimits_separated each apart others others' after
      exact ⟨rfl, rest⟩

/-! ## Numbers -/

theorem isDigit_of_mem_decimal {n : Nat} : ∀ c ∈ decimal n, isDigit c = true := by
  have digit : ∀ d < 10, isDigit (digitChar d) = true := by decide
  fun_induction decimal n with
  | case1 n small =>
    intro c member
    cases List.mem_singleton.mp member
    exact digit n small
  | case2 n large ih =>
    intro c member
    rcases List.mem_append.mp member with front | last
    · exact ih c front
    · cases List.mem_singleton.mp last
      exact digit (n % 10) (Nat.mod_lt n (by decide))

theorem decimal_ne_nil (n : Nat) : decimal n ≠ [] := by
  fun_cases decimal n with
  | case1 small => exact List.cons_ne_nil _ _
  | case2 large => exact List.append_ne_nil_of_right_ne_nil _ (List.cons_ne_nil _ _)

/-- A number begins with a digit. -/
theorem exists_ofNat_eq (n : Nat) : ∃ c cs, ofNat n = .char c :: cs ∧ isDigit c = true := by
  obtain ⟨c, cs, same⟩ := List.exists_cons_of_ne_nil (decimal_ne_nil n)
  refine ⟨c, ofChars cs, ?_, isDigit_of_mem_decimal c (same ▸ List.mem_cons_self)⟩
  rw [ofNat, same]
  rfl

end VariantIter.Text
