import Mathlib.Data.List.Perm.Basic
import VariantIter.Proofs.WellFormed

/-!
Mappings without repeated keys.

Where no text is a key twice, looking a text up finds the only entry that has it as its key. So the order
of the entries plays no part, and neither do entries with other keys.
-/

namespace VariantIter

theorem Value.isText_iff {key : Value} {name : Text} : key.isText name = true ↔ key = .text name := by
  cases key with
  | text s => simp [isText]
  | _ => simp [isText]

namespace Entries

variable {entries others : Entries} {name : Text} {value : Value}

/-- No text is a key twice. -/
def Distinct (entries : Entries) : Prop :=
  entries.Pairwise fun first second => ∀ name, first.1 = .text name → second.1 ≠ .text name

theorem get?_cons_text (name : Text) (value : Value) (rest : Entries) :
    get? ((.text name, value) :: rest) name = some value := by
  rw [get?, if_pos (Value.isText_iff.mpr rfl)]

/-- An entry with another key is passed over. -/
theorem get?_cons_of_ne {key : Value} (other : key ≠ .text name) (value : Value) (rest : Entries) :
    get? ((key, value) :: rest) name = get? rest name := by
  rw [get?, if_neg]
  intro same
  exact other (Value.isText_iff.mp same)

theorem mem_of_get? (found : entries.get? name = some value) : (.text name, value) ∈ entries := by
  induction entries with
  | nil => cases found
  | cons entry rest ih =>
    obtain ⟨key, held⟩ := entry
    by_cases same : key = .text name
    · subst same
      rw [get?_cons_text] at found
      cases found
      exact List.mem_cons_self
    · rw [get?_cons_of_ne same] at found
      exact List.mem_cons_of_mem _ (ih found)

theorem get?_eq_none_iff : entries.get? name = none ↔ ∀ value, (.text name, value) ∉ entries := by
  induction entries with
  | nil => simp [get?]
  | cons entry rest ih =>
    obtain ⟨key, held⟩ := entry
    by_cases same : key = .text name
    · subst same
      rw [get?_cons_text]
      refine ⟨by simp, ?_⟩
      intro absent
      exact absurd List.mem_cons_self (absent held)
    · rw [get?_cons_of_ne same, ih]
      simp [Ne.symm same]

/-- Among distinct keys, what is held under a text is what is found there. -/
theorem Distinct.get?_eq_some_iff (distinct : entries.Distinct) :
    entries.get? name = some value ↔ (.text name, value) ∈ entries := by
  refine ⟨mem_of_get?, ?_⟩
  intro member
  induction entries with
  | nil => cases member
  | cons entry rest ih =>
    obtain ⟨key, held⟩ := entry
    obtain ⟨alone, distinct⟩ := List.pairwise_cons.mp distinct
    rcases List.mem_cons.mp member with same | later
    · cases same
      exact get?_cons_text name value rest
    · have other : key ≠ .text name := by
        intro same
        exact alone _ later name same rfl
      rw [get?_cons_of_ne other]
      exact ih distinct later

theorem Distinct.perm (distinct : entries.Distinct) (same : entries.Perm others) : others.Distinct := by
  refine List.Pairwise.perm distinct same ?_
  intro first second apart name named named'
  exact apart name named' named

/-- The order of entries with distinct keys plays no part in looking up. -/
theorem Distinct.get?_perm (distinct : entries.Distinct) (same : entries.Perm others) (name : Text) :
    others.get? name = entries.get? name := by
  cases found : entries.get? name with
  | some value =>
    rw [distinct.get?_eq_some_iff, same.mem_iff] at found
    exact (distinct.perm same).get?_eq_some_iff.mpr found
  | none =>
    rw [get?_eq_none_iff] at found ⊢
    intro value member
    exact found value (same.mem_iff.mpr member)

variable {fields : List (Text × Value)}

theorem mem_ofFields : (.text name, value) ∈ ofFields fields ↔ (name, value) ∈ fields := by
  unfold ofFields
  rw [List.mem_map]
  constructor
  · rintro ⟨field, member, same⟩
    cases same
    exact member
  · intro member
    exact ⟨(name, value), member, rfl⟩

theorem distinct_ofFields : (ofFields fields).Distinct ↔ (fields.map Prod.fst).Nodup := by
  unfold Distinct ofFields List.Nodup
  rw [List.pairwise_map, List.pairwise_map]
  refine List.Pairwise.iff ?_
  intro first second
  constructor
  · intro apart same
    exact apart first.1 rfl (congrArg Value.text same.symm)
  · intro differ name named named'
    exact differ (Value.text.inj (named.trans named'.symm))

end Entries

end VariantIter
