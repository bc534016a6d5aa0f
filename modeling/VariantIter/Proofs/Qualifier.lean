import VariantIter.Proofs.Words
import VariantIter.Visibility

/-!
The grammar of visibility qualifiers.

`Qualifier` lists the qualifiers: nothing, `pub`, three fixed restrictions, and the restriction to a path
of identifiers. The recogniser accepts exactly these, and a qualifier keeps its form when its blanks are
unified.
-/

namespace VariantIter.Visibility

inductive Qualifier : Text → Prop
  | hidden : Qualifier ""
  | everywhere : Qualifier "pub"
  | crate : Qualifier "pub(crate)"
  | parent : Qualifier "pub(super)"
  | itself : Qualifier "pub(self)"
  | within {names : List Text} (filled : names ≠ [])
      (plain : ∀ name ∈ names, Identifier.isPlain name = true) :
      Qualifier ("pub(in " ++ Text.joined "::" names ++ ")")

/-! ## Paths -/

/-- What follows the first name of a path. -/
def pathTail : List Text → Text
  | [] => ")"
  | name :: names => "::" ++ name ++ pathTail names

/-- What is accepted in each state: a path from its start, from inside of a name, or from between two
colons. -/
def Accepts : PathState → Text → Prop
  | .start, cs => ∃ name names, Identifier.isPlain name = true ∧
      (∀ name ∈ names, Identifier.isPlain name = true) ∧ cs = name ++ pathTail names
  | .inside, cs => ∃ part names, (∀ c ∈ part, Identifier.isPart c = true) ∧
      (∀ name ∈ names, Identifier.isPlain name = true) ∧ cs = part ++ pathTail names
  | .colon, cs => ∃ name names, Identifier.isPlain name = true ∧
      (∀ name ∈ names, Identifier.isPlain name = true) ∧ cs = .char ':' :: (name ++ pathTail names)

theorem isPathEnd_inside {c : CodePoint} {cs : Text} :
    isPathEnd .inside (c :: cs) = true ↔
      (c = .char ')' ∧ cs = []) ∨ (Identifier.isPart c = true ∧ isPathEnd .inside cs = true) ∨
        (c = .char ':' ∧ isPathEnd .colon cs = true) := by
  have parenthesis : Identifier.isPart (.char ')') = false := by decide
  have colon : Identifier.isPart (.char ':') = false := by decide
  by_cases closed : c = .char ')' ∧ cs = []
  · obtain ⟨rfl, rfl⟩ := closed
    simp [isPathEnd]
  · have step : isPathEnd .inside (c :: cs) =
        if Identifier.isPart c then isPathEnd .inside cs
        else c == .char ':' && isPathEnd .colon cs := by
      rw [isPathEnd]
      exact fun last empty => closed ⟨last, empty⟩
    rw [step]
    split
    · next part =>
      have distinct : c ≠ .char ':' := fun same => by simp [same, colon] at part
      simp [closed, part, distinct]
    · next other => simp [closed, other]

/-- A path that is read to its end is one. -/
theorem accepts_of_isPathEnd {state : PathState} {cs : Text}
    (ended : isPathEnd state cs = true) : Accepts state cs := by
  induction cs generalizing state with
  | nil => cases state <;> cases ended
  | cons c cs ih =>
    cases state with
    | start =>
      obtain ⟨start, rest⟩ := Bool.and_eq_true _ _ ▸ ended
      obtain ⟨part, names, parts, plain, rfl⟩ := ih rest
      refine ⟨c :: part, names, ?_, plain, rfl⟩
      rw [Identifier.isPlain, start, List.all_eq_true.mpr parts]
      rfl
    | inside =>
      rcases isPathEnd_inside.mp ended with ⟨rfl, rfl⟩ | ⟨part, rest⟩ | ⟨rfl, rest⟩
      · exact ⟨[], [], nofun, nofun, rfl⟩
      · obtain ⟨parts, names, all, plain, rfl⟩ := ih rest
        exact ⟨c :: parts, names, List.forall_mem_cons.mpr ⟨part, all⟩, plain, rfl⟩
      · obtain ⟨name, names, first, plain, rfl⟩ := ih rest
        exact ⟨[], name :: names, nofun, List.forall_mem_cons.mpr ⟨first, plain⟩, rfl⟩
    | colon =>
      obtain ⟨colon, rest⟩ := Bool.and_eq_true _ _ ▸ ended
      obtain ⟨name, names, first, plain, rfl⟩ := ih rest
      rw [eq_of_beq colon]
      exact ⟨name, names, first, plain, rfl⟩

theorem isPathEnd_parts {part : Text} (parts : ∀ c ∈ part, Identifier.isPart c = true)
    {rest : Text} (ended : isPathEnd .inside rest = true) :
    isPathEnd .inside (part ++ rest) = true := by
  induction part with
  | nil => exact ended
  | cons c cs ih =>
    obtain ⟨first, others⟩ := List.forall_mem_cons.mp parts
    exact isPathEnd_inside.mpr (.inr (.inl ⟨first, ih others⟩))

theorem isPathEnd_name {name : Text} (plain : Identifier.isPlain name = true)
    {rest : Text} (ended : isPathEnd .inside rest = true) :
    isPathEnd .start (name ++ rest) = true := by
  cases name with
  | nil => cases plain
  | cons c cs =>
    obtain ⟨start, parts⟩ := Bool.and_eq_true _ _ ▸ plain
    show (Identifier.isStart c && isPathEnd .inside (cs ++ rest)) = true
    rw [start, isPathEnd_parts (List.all_eq_true.mp parts) ended]
    rfl

theorem isPathEnd_pathTail {names : List Text}
    (plain : ∀ name ∈ names, Identifier.isPlain name = true) :
    isPathEnd .inside (pathTail names) = true := by
  induction names with
  | nil => rfl
  | cons name names ih =>
    obtain ⟨first, others⟩ := List.forall_mem_cons.mp plain
    have named := isPathEnd_name first (ih others)
    exact isPathEnd_inside.mpr (.inr (.inr ⟨rfl, named⟩))

theorem joined_pathTail (name : Text) (names : List Text) :
    Text.joined "::" (name :: names) ++ ")" = name ++ pathTail names := by
  unfold Text.joined
  induction names generalizing name with
  | nil => simp [pathTail]
  | cons other names ih =>
    rw [List.intercalate_cons_cons, List.append_assoc, ih other, pathTail, List.append_assoc,
      List.append_assoc]

/-- The paths are the plain identifiers joined by double colons. -/
theorem isPathEnd_start_iff {cs : Text} :
    isPathEnd .start cs = true ↔
      ∃ names, names ≠ [] ∧ (∀ name ∈ names, Identifier.isPlain name = true) ∧
        cs = Text.joined "::" names ++ ")" := by
  constructor
  · intro ended
    obtain ⟨name, names, first, plain, rfl⟩ := accepts_of_isPathEnd ended
    exact ⟨name :: names, List.cons_ne_nil _ _, List.forall_mem_cons.mpr ⟨first, plain⟩,
      (joined_pathTail name names).symm⟩
  · rintro ⟨names, filled, plain, rfl⟩
    obtain ⟨name, names, rfl⟩ := List.exists_cons_of_ne_nil filled
    obtain ⟨first, others⟩ := List.forall_mem_cons.mp plain
    rw [joined_pathTail]
    exact isPathEnd_name first (isPathEnd_pathTail others)

/-! ## Qualifiers -/

/-- The recogniser accepts exactly the qualifiers. -/
theorem isQualifier_iff {cs : Text} : isQualifier cs = true ↔ Qualifier cs := by
  constructor
  · intro accepted
    rcases Bool.or_eq_true _ _ ▸ accepted with listed | path
    · simp only [simple, List.contains_iff_mem, List.mem_cons, List.not_mem_nil, or_false] at listed
      rcases listed with rfl | rfl | rfl | rfl | rfl
      · exact .hidden
      · exact .everywhere
      · exact .crate
      · exact .parent
      · exact .itself
    · obtain ⟨started, ended⟩ := Bool.and_eq_true _ _ ▸ path
      obtain ⟨rest, rfl⟩ := List.isPrefixOf_iff_prefix.mp started
      rw [List.drop_left] at ended
      obtain ⟨names, filled, plain, rfl⟩ := isPathEnd_start_iff.mp ended
      rw [← List.append_assoc]
      exact .within filled plain
  · intro qualifier
    cases qualifier with
    | hidden => decide
    | everywhere => decide
    | crate => decide
    | parent => decide
    | itself => decide
    | @within names filled plain =>
      have ended := isPathEnd_start_iff.mpr ⟨names, filled, plain, rfl⟩
      unfold isQualifier
      rw [List.append_assoc]
      show (_ || (beforePath.isPrefixOf (beforePath ++ _) &&
        isPathEnd .start ((beforePath ++ _).drop _))) = true
      rw [List.drop_left, ended, List.isPrefixOf_iff_prefix.mpr (List.prefix_append _ _)]
      simp

instance (cs : Text) : Decidable (Qualifier cs) :=
  decidable_of_iff _ isQualifier_iff

theorem solid_pathTail {names : List Text}
    (plain : ∀ name ∈ names, Identifier.isPlain name = true) :
    ∀ c ∈ pathTail names, Text.isBlank c = false := by
  induction names with
  | nil => decide
  | cons name names ih =>
    obtain ⟨first, others⟩ := List.forall_mem_cons.mp plain
    have colons : ∀ c ∈ Text.ofString "::", Text.isBlank c = false := by decide
    intro c member
    rcases List.mem_append.mp member with front | back
    · rcases List.mem_append.mp front with colon | inside
      · exact colons c colon
      · exact Identifier.isBlank_of_isPart (Identifier.isPart_of_isPlain first c inside)
    · exact ih others c back

/-- The blanks of a qualifier are unified already. -/
theorem Qualifier.unifyBlanks_eq {cs : Text} (qualifier : Qualifier cs) :
    Text.unifyBlanks cs = cs := by
  cases qualifier with
  | hidden => rfl
  | everywhere => rfl
  | crate => rfl
  | parent => rfl
  | itself => rfl
  | @within names filled plain =>
    obtain ⟨name, names, rfl⟩ := List.exists_cons_of_ne_nil filled
    obtain ⟨first, others⟩ := List.forall_mem_cons.mp plain
    have solid : ∀ c ∈ name ++ pathTail names, Text.isBlank c = false := by
      intro c member
      rcases List.mem_append.mp member with inside | tail
      · exact Identifier.isBlank_of_isPart (Identifier.isPart_of_isPlain first c inside)
      · exact solid_pathTail others c tail
    have tailed : name ++ pathTail names ≠ [] := by
      cases name with
      | nil => cases first
      | cons c cs => exact List.cons_ne_nil _ _
    have read : Text.words ("pub(in" ++ .char ' ' :: (name ++ pathTail names)) =
        [Text.ofString "pub(in", name ++ pathTail names] := by
      rw [Text.words_append_blank (by decide) (by decide) (by decide),
        Text.words_of_solid tailed solid]
    rw [List.append_assoc, joined_pathTail]
    show Text.joined " " (Text.words ("pub(in" ++ .char ' ' :: (name ++ pathTail names))) = _
    rw [read, Text.joined_cons, List.flatMap_singleton]
    rfl

/-- A restriction stands between parentheses and holds none that closes. -/
theorem Qualifier.restriction {cs : Text} (qualifier : Qualifier cs) :
    cs = [] ∨ cs = "pub" ∨ ∃ body, .char ')' ∉ body ∧ cs = "pub(" ++ body ++ ")" := by
  cases qualifier with
  | hidden => exact .inl rfl
  | everywhere => exact .inr (.inl rfl)
  | crate => exact .inr (.inr ⟨"crate", by decide, rfl⟩)
  | parent => exact .inr (.inr ⟨"super", by decide, rfl⟩)
  | itself => exact .inr (.inr ⟨"self", by decide, rfl⟩)
  | @within names filled plain =>
    refine .inr (.inr ⟨"in " ++ Text.joined "::" names, ?_, rfl⟩)
    have inside {name : Text} (member : name ∈ names) : .char ')' ∉ name := fun found =>
      absurd (Identifier.isPart_of_isPlain (plain name member) _ found) (by decide)
    obtain ⟨name, names, rfl⟩ := List.exists_cons_of_ne_nil filled
    rw [Text.joined_cons]
    simp only [List.mem_append, List.mem_flatMap, not_or, not_exists, not_and]
    exact ⟨by decide, inside List.mem_cons_self, fun other member =>
      ⟨by decide, inside (List.mem_cons_of_mem name member)⟩⟩

/-- Exactly the texts are accepted that are qualifiers once their blanks are unified. -/
theorem require_eq_ok {value : Value} {type : Option Value} {cs : Text} :
    require value type = .ok cs ↔
      ∃ s, value = .text s ∧ Text.unifyBlanks s = cs ∧ Qualifier cs := by
  unfold require
  cases value with
  | text s =>
    simp only [isQualifier_iff]
    split
    · next qualifier =>
      constructor
      · intro same
        cases same
        exact ⟨s, rfl, rfl, qualifier⟩
      · rintro ⟨s', same, rfl, _⟩
        cases same
        rfl
    · next other =>
      constructor
      · nofun
      · rintro ⟨s', same, rfl, qualifier⟩
        cases same
        exact absurd qualifier other
  | _ => simp

end VariantIter.Visibility
