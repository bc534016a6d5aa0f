import Mathlib.Data.List.Perm.Subperm
import VariantIter.Options
import VariantIter.Proofs.SavedOptions

/-!
Order of keys that were read.

Texts are compared with texts and numbers with numbers, and nothing else is compared. Main statement:
keys can be put in order if all of them are texts, or all are numbers, and otherwise there are two that
cannot be compared.
-/

namespace VariantIter

open Json (Readable)

namespace Value

/-- Two keys that can be put in order: texts, or numbers. -/
inductive Alike : Value → Value → Prop
  | texts (s t : Text) : Alike (.text s) (.text t)
  | numbers {a b : Value} (first : a.isNumber = true) (second : b.isNumber = true) : Alike a b

theorem Alike.symm {a b : Value} (alike : Alike a b) : Alike b a := by
  cases alike with
  | texts s t => exact .texts t s
  | numbers first second => exact .numbers second first

theorem Alike.trans {a b c : Value} (first : Alike a b) (second : Alike b c) : Alike a c := by
  cases first with
  | texts s t =>
    cases second with
    | texts _ u => exact .texts s u
    | numbers number _ => cases number
  | numbers left middle =>
    cases second with
    | texts s t => cases middle
    | numbers _ right => exact .numbers left right

theorem isSome_ratio? {a : Value} (noNan : a ≠ .double .nan)
    (bounded : ∀ negative, a ≠ .double (.infinite negative)) : a.ratio?.isSome = a.isNumber := by
  cases a with
  | double x =>
    cases x with
    | finite negative mantissa exponent => rfl
    | infinite negative => exact absurd rfl (bounded negative)
    | nan => exact absurd rfl noNan
  | _ => rfl

theorem isSome_numberBefore? (a b : Value) :
    (a.numberBefore? b).isSome = (a.isNumber && b.isNumber) := by
  unfold numberBefore?
  split
  · cases number : b.isNumber <;> simp [isNumber]
  · cases number : a.isNumber <;> simp [isNumber]
  · rfl
  · cases number : b.isNumber <;> simp [isNumber]
  · cases number : a.isNumber <;> simp [isNumber]
  · next noNan bounded noNan' bounded' _ =>
    rw [← isSome_ratio? noNan bounded, ← isSome_ratio? noNan' bounded']
    cases a.ratio? <;> cases b.ratio? <;> rfl

/-- What is not two texts is compared as numbers. -/
theorem precedes_of_numberBefore? {a b : Value} (left : Readable a) (right : Readable b)
    (noTexts : ∀ s t, ¬ (a = .text s ∧ b = .text t)) :
    a.precedes b = (a.numberBefore? b).elim
      (.error (.kind (.notComparable a.qualifiedKind b.qualifiedKind))) .ok := by
  unfold precedes
  rw [left.content_eq, right.content_eq]
  split
  case h_1 s t => exact absurd ⟨rfl, rfl⟩ (noTexts s t)
  case h_7 => cases a.numberBefore? b <;> rfl
  all_goals cases left

/-- Keys that were read can be compared if they are alike. -/
theorem precedes_ends {a b : Value} (left : Readable a) (right : Readable b) :
    Outcome.Ends (fun _ => Alike a b)
      (fun fault : Fault =>
        ¬ Alike a b ∧ fault = .kind (.notComparable a.qualifiedKind b.qualifiedKind))
      (a.precedes b) := by
  by_cases texts : ∃ s t, a = .text s ∧ b = .text t
  · obtain ⟨s, t, rfl, rfl⟩ := texts
    exact .texts s t
  · have both := isSome_numberBefore? a b
    rw [precedes_of_numberBefore? left right fun s t same => texts ⟨s, t, same⟩]
    cases compared : a.numberBefore? b with
    | some before =>
      rw [compared, Option.isSome_some, eq_comm, Bool.and_eq_true] at both
      exact .numbers both.1 both.2
    | none =>
      rw [compared, Option.isSome_none] at both
      refine ⟨fun alike => ?_, rfl⟩
      cases alike with
      | texts s t => exact texts ⟨s, t, rfl, rfl⟩
      | numbers first second =>
        rw [first, second] at both
        cases both

end Value

open Value (Alike)

/-- Two of the keys cannot be put in order. -/
def Clash (keys : List Value) (fault : Fault) : Prop :=
  ∃ a b, [a, b].Subperm keys ∧ ¬ Alike a b ∧
    fault = .kind (.notComparable a.qualifiedKind b.qualifiedKind)

theorem Clash.mono {keys more : List Value} {fault : Fault} (clash : Clash keys fault)
    (inside : keys.Subperm more) : Clash more fault := by
  obtain ⟨a, b, both, unlike⟩ := clash
  exact ⟨a, b, both.trans inside, unlike⟩

theorem not_clash_of_pairwise {keys : List Value} (alike : keys.Pairwise Alike) (fault : Fault) :
    ¬ Clash keys fault := by
  rintro ⟨a, b, ⟨pair, same, inside⟩, unlike, _⟩
  have both := (alike.sublist inside).perm same Alike.symm
  exact unlike (List.pairwise_pair.mp both)

/-- A key is put among keys in order if it is like the first of them, and hence like all. -/
theorem insertKey_ends {key : Value} {keys : List Value} (ofKey : Readable key)
    (ofKeys : ∀ other ∈ keys, Readable other) (alike : keys.Pairwise Alike) :
    Outcome.Ends (fun sorted => sorted.Perm (key :: keys) ∧ ∀ other ∈ keys, Alike key other)
      (Clash (key :: keys)) (insertKey key keys) := by
  induction keys with
  | nil => exact ⟨.refl _, List.forall_mem_nil _⟩
  | cons other keys ih =>
    obtain ⟨first, others⟩ := List.forall_mem_cons.mp ofKeys
    obtain ⟨head, rest⟩ := List.pairwise_cons.mp alike
    unfold insertKey
    cases compared : key.precedes other with
    | error fault =>
      obtain ⟨unlike, rfl⟩ := (Value.precedes_ends ofKey first).error compared
      refine ⟨key, other, ?_, unlike, rfl⟩
      exact ((List.nil_sublist keys).cons_cons other |>.cons_cons key).subperm
    | ok before =>
      have same : Alike key other := (Value.precedes_ends ofKey first).ok compared
      -- The keys are alike already, so the first comparison settles all of them.
      have all : ∀ later ∈ other :: keys, Alike key later :=
        List.forall_mem_cons.mpr ⟨same, fun later member => same.trans (head later member)⟩
      rw [Outcome.ok_bind]
      cases before with
      | true => exact ⟨.refl _, all⟩
      | false =>
        have inside : (key :: keys).Subperm (key :: other :: keys) :=
          ((List.sublist_cons_self other keys).cons_cons key).subperm
        refine Outcome.Ends.bind
          ((ih others rest).imp (fun _ holds => holds) fun _ clash => clash.mono inside) ?_
        rintro sorted ⟨same, _⟩
        exact ⟨(same.cons other).trans (.swap key other keys), all⟩

/-- Keys that were read can be put in order if all of them are texts, or all are numbers. -/
theorem sortKeys_ends {keys : List Value} (readable : ∀ key ∈ keys, Readable key) :
    Outcome.Ends (fun sorted => sorted.Perm keys ∧ keys.Pairwise Alike) (Clash keys)
      (sortKeys keys) := by
  induction keys with
  | nil => exact ⟨.refl _, .nil⟩
  | cons key keys ih =>
    obtain ⟨ofKey, ofKeys⟩ := List.forall_mem_cons.mp readable
    have inside : keys.Subperm (key :: keys) := (List.sublist_cons_self key keys).subperm
    refine Outcome.Ends.bind
      ((ih ofKeys).imp (fun _ holds => holds) fun _ clash => clash.mono inside) ?_
    rintro sorted ⟨same, alike⟩
    -- Being alike does not depend on the order, so it carries over to the sorted keys.
    have sortedReadable : ∀ other ∈ sorted, Readable other :=
      fun other member => ofKeys other (same.mem_iff.mp member)
    refine (insertKey_ends ofKey sortedReadable (alike.perm same.symm Alike.symm)).imp ?_
      fun _ clash => clash.mono (same.cons key).subperm
    rintro whole ⟨inserted, likeKey⟩
    refine ⟨inserted.trans (same.cons key), List.pairwise_cons.mpr ⟨?_, alike⟩⟩
    exact fun other member => likeKey other (same.mem_iff.mpr member)

end VariantIter
