import Mathlib.Data.List.TakeDrop
import Mathlib.Data.List.TakeWhile
import Mathlib.Tactic.Ring
import VariantIter.Json.Reader
import VariantIter.Proofs.JsonText
import VariantIter.Value.Display

/-!
Values that can be shown.

A value can be shown if no integer in it has too many digits. Parts of such a value can be shown as well,
also behind labels. Main statement: reading JSON returns only values that can be shown, since it refuses
longer integers.
-/

namespace VariantIter

theorem Fault.reported_of_isShowable {fault : Fault} (showable : fault.isShowable = true) :
    fault.reported = fault := by
  rw [reported, if_pos showable]

/-! ## Parts of a value -/

namespace Value

/-- The least integer that cannot be shown. -/
theorem isShowable_showLimit : (Value.int showLimit).isShowable = false := by
  rw [isShowable, Int.natAbs_natCast]
  exact decide_eq_false (Nat.lt_irrefl _)

theorem allShowable_iff {items : List Value} :
    allShowable items = true ↔ ∀ item ∈ items, item.isShowable = true := by
  induction items with
  | nil => simp [allShowable]
  | cons item items ih => simp [allShowable, ih]

theorem entriesShowable_iff {entries : List (Value × Value)} :
    entriesShowable entries = true ↔
      ∀ entry ∈ entries, entry.1.isShowable = true ∧ entry.2.isShowable = true := by
  induction entries with
  | nil => simp [entriesShowable]
  | cons entry entries ih => simp [entriesShowable, ih]

/-- Tying a knot puts nothing in place but the knot itself. -/
theorem isShowable_tie {label : Nat} {whole : Value} (showable : whole.isShowable = true)
    (value : Value) (inner : value.isShowable = true) :
    (tie label whole value).isShowable = true := by
  -- The induction follows the places that tying goes through: values, entries and items.
  refine tie.induct label
    (fun value => value.isShowable = true → (tie label whole value).isShowable = true)
    (fun entries => entriesShowable entries = true →
      entriesShowable (tieEntries label whole entries) = true)
    (fun items => allShowable items = true → allShowable (tieItems label whole items) = true)
    ?again ?other ?knot ?list ?tuple ?map ?leaf ?noItems ?items ?noEntries ?entries value inner
  case again =>
    intro other same _
    rwa [tie, if_pos same]
  case other =>
    intro other differs _
    rw [tie, if_neg differs]
    rfl
  case knot =>
    intro other value ih inner
    rw [tie, isShowable]
    split
    · exact inner
    · exact ih inner
  case list => exact fun items ih => ih
  case tuple => exact fun items ih => ih
  case map => exact fun entries ih => ih
  case leaf =>
    intro value noAgain noKnot noList noTuple noMap inner
    rwa [tie.eq_6 label whole value noAgain noKnot noList noTuple noMap]
  case noItems => exact fun _ => rfl
  case items =>
    intro item items first rest inner
    rw [allShowable, Bool.and_eq_true] at inner
    rw [tieItems, allShowable, first inner.1, rest inner.2]
    rfl
  case noEntries => exact fun _ => rfl
  case entries =>
    intro key value entries first rest inner
    rw [entriesShowable, Bool.and_eq_true, Bool.and_eq_true] at inner
    rw [tieEntries, entriesShowable, inner.1.1, first inner.1.2, rest inner.2]
    rfl

/-- Labels hide nothing that cannot be shown. -/
theorem isShowable_content {value : Value} (showable : value.isShowable = true) :
    value.content.isShowable = true := by
  cases value with
  | shared label value => exact showable
  | knot label value => exact isShowable_tie showable value showable
  | _ => exact showable

end Value

theorem Entries.isShowable_of_get? {entries : Entries} {name : Text} {value : Value}
    (showable : Value.entriesShowable entries = true) (found : entries.get? name = some value) :
    value.isShowable = true := by
  induction entries with
  | nil => cases found
  | cons entry entries ih =>
    obtain ⟨key, other⟩ := entry
    simp only [Value.entriesShowable, Bool.and_eq_true] at showable
    rw [get?] at found
    split at found
    · cases found
      exact showable.1.2
    · exact ih showable.2 found

/-- Writing pairs into a mapping adds nothing but what is in them. -/
theorem Entries.forall_put {holds : Value → Prop} {entries : Entries} {key value : Value}
    (each : ∀ entry ∈ entries, holds entry.1 ∧ holds entry.2) (ofKey : holds key)
    (ofValue : holds value) : ∀ entry ∈ entries.put key value, holds entry.1 ∧ holds entry.2 := by
  induction entries with
  | nil => exact List.forall_mem_singleton.mpr ⟨ofKey, ofValue⟩
  | cons entry entries ih =>
    obtain ⟨key', value'⟩ := entry
    obtain ⟨first, others⟩ := List.forall_mem_cons.mp each
    rw [put]
    split
    · exact List.forall_mem_cons.mpr ⟨⟨first.1, ofValue⟩, others⟩
    · exact List.forall_mem_cons.mpr ⟨first, ih others⟩

theorem Entries.forall_ofPairs {holds : Value → Prop} {pairs : List (Value × Value)}
    (each : ∀ pair ∈ pairs, holds pair.1 ∧ holds pair.2) :
    ∀ entry ∈ ofPairs pairs, holds entry.1 ∧ holds entry.2 := by
  unfold ofPairs
  apply List.foldlRecOn (motive := fun entries : Entries =>
    ∀ entry ∈ entries, holds entry.1 ∧ holds entry.2)
  · exact nofun
  · intro entries kept pair member
    exact forall_put kept (each pair member).1 (each pair member).2

/-! ## Digits -/

/-- So many decimal digits stand for a number below the power of ten. -/
theorem Text.readDigits_lt {cs : List Char} (digits : ∀ c ∈ cs, isDigit c = true) :
    readDigits 10 cs < 10 ^ cs.length := by
  have bounded (n : Nat) : cs.foldl (fun n c => n * 10 + (digitValue? c).getD 0) n <
      (n + 1) * 10 ^ cs.length := by
    induction cs generalizing n with
    | nil => simp
    | cons c cs ih =>
      obtain ⟨digit, digits⟩ := List.forall_mem_cons.mp digits
      have small : (digitValue? c).getD 0 ≤ 9 := by
        simp only [isDigit, Bool.and_eq_true, decide_eq_true_eq] at digit
        rw [digitValue?, if_pos digit, Option.getD_some]
        omega
      calc _ < (n * 10 + (digitValue? c).getD 0 + 1) * 10 ^ cs.length := ih digits _
        _ ≤ ((n + 1) * 10) * 10 ^ cs.length := Nat.mul_le_mul_right _ (by omega)
        _ = (n + 1) * 10 ^ (c :: cs).length := by rw [List.length_cons, pow_succ]; ring
  simpa [readDigits] using bounded 0

/-- An integer of digits that are not too many can be shown. -/
theorem Value.isShowable_int {digits : List Char} (each : ∀ c ∈ digits, Text.isDigit c = true)
    (short : digits.length ≤ Number.maxDigits) {n : Int}
    (read : n.natAbs = Text.readDigits 10 digits) : (Value.int n).isShowable = true := by
  unfold isShowable showLimit
  rw [decide_eq_true_iff, read, Nat.pow_eq]
  generalize Number.maxDigits = limit at short
  exact (Text.readDigits_lt each).trans_le (Nat.pow_le_pow_right (by omega) short)

/-! ## Reading JSON -/

namespace Json

/-- Values as reading returns them: integers can be shown, and no pair in a text is split. -/
inductive Readable : Value → Prop
  | null : Readable .null
  | bool (b : Bool) : Readable (.bool b)
  | int {n : Int} (showable : (Value.int n).isShowable = true) : Readable (.int n)
  | double (x : Double) : Readable (.double x)
  | text {s : Text} (unsplit : s.Unsplit) : Readable (.text s)
  | list {items : List Value} (each : ∀ item ∈ items, Readable item) : Readable (.list items)
  | map {entries : Entries} (keys : ∀ entry ∈ entries, Readable entry.1)
      (values : ∀ entry ∈ entries, Readable entry.2) : Readable (.map entries)

theorem Readable.isShowable {value : Value} (readable : Readable value) :
    value.isShowable = true := by
  induction readable with
  | int showable => exact showable
  | list each ih => exact Value.allShowable_iff.mpr ih
  | map keys values keysShowable valuesShowable =>
    exact Value.entriesShowable_iff.mpr fun entry member =>
      ⟨keysShowable entry member, valuesShowable entry member⟩
  | _ => rfl

variable {depth fuel : Nat} {cs rest : List Char} {value : Value}

theorem readable_of_finishNumber {negative : Bool} {digits more : List Char}
    (each : ∀ c ∈ digits, Text.isDigit c = true)
    (done : finishNumber negative digits more = .ok (value, rest)) : Readable value := by
  unfold finishNumber at done
  simp only at done
  split at done
  · split at done
    · cases done
    · next short =>
      cases done
      apply Readable.int
      apply Value.isShowable_int each (Nat.not_lt.mp short)
      cases negative <;> simp
  · cases done
    exact .double _

theorem readable_of_readNumber {start : List Char} {negative : Bool}
    (done : readNumber start negative cs = .ok (value, rest)) : Readable value := by
  unfold readNumber at done
  split at done
  · exact readable_of_finishNumber (List.forall_mem_singleton.mpr rfl) done
  · rw [List.span_eq_takeWhile_dropWhile] at done
    split at done
    · cases done
    · next digits more _ spanned =>
      cases spanned
      exact readable_of_finishNumber (fun c member => List.mem_takeWhile_imp member) done

theorem readable_of_readAtom (done : readAtom cs = .ok (value, rest)) : Readable value := by
  unfold readAtom at done
  split at done
  case h_7 => exact readable_of_readNumber done
  case h_8 => exact readable_of_readNumber done
  all_goals
    cases done
    constructor

/-- The same of a value, of the items of a list, and of the members of a mapping. -/
theorem readable_of_read (fuel : Nat) :
    (∀ depth cs value rest, readValue depth fuel cs = .ok (value, rest) → Readable value) ∧
    (∀ depth cs items rest, readItems depth fuel cs = .ok (items, rest) →
      ∀ item ∈ items, Readable item) ∧
    (∀ depth cs members rest, readMembers depth fuel cs = .ok (members, rest) →
      ∀ member ∈ members, Readable member.1 ∧ Readable member.2) := by
  induction fuel with
  | zero => exact ⟨nofun, nofun, nofun⟩
  | succ fuel ih =>
    obtain ⟨values, lists, mappings⟩ := ih
    refine ⟨?_, ?_, ?_⟩
    · intro depth cs value rest done
      unfold readValue at done
      split at done
      · obtain ⟨⟨text, after⟩, read, same⟩ := Outcome.map_eq_ok.mp done
        cases same
        exact .text (unsplit_of_readString read)
      · split at done
        · cases done
        · split at done
          · cases done
            exact .list nofun
          · obtain ⟨⟨items, after⟩, listed, same⟩ := Outcome.map_eq_ok.mp done
            cases same
            exact .list (lists _ _ _ _ listed)
      · split at done
        · cases done
        · split at done
          · cases done
            exact .map nofun nofun
          · obtain ⟨⟨members, after⟩, listed, same⟩ := Outcome.map_eq_ok.mp done
            cases same
            have each := Entries.forall_ofPairs (mappings _ _ _ _ listed)
            exact .map (fun entry member => (each entry member).1) fun entry member =>
              (each entry member).2
      · exact readable_of_readAtom done
    · intro depth cs items rest done
      unfold readItems at done
      obtain ⟨⟨item, after⟩, first, done⟩ := Outcome.bind_eq_ok.mp done
      have head := values _ _ _ _ first
      simp only at done
      split at done
      · cases done
        simpa using head
      · obtain ⟨⟨others, left⟩, listed, same⟩ := Outcome.bind_eq_ok.mp done
        cases same
        exact List.forall_mem_cons.mpr ⟨head, lists _ _ _ _ listed⟩
      · cases done
    · intro depth cs members rest done
      unfold readMembers at done
      split at done
      · obtain ⟨⟨name, after⟩, named, done⟩ := Outcome.bind_eq_ok.mp done
        have key := Readable.text (unsplit_of_readString named)
        simp only at done
        split at done
        · obtain ⟨⟨value, left⟩, first, done⟩ := Outcome.bind_eq_ok.mp done
          have head := values _ _ _ _ first
          simp only at done
          split at done
          · cases done
            exact List.forall_mem_singleton.mpr ⟨key, head⟩
          · obtain ⟨⟨others, end'⟩, listed, same⟩ := Outcome.bind_eq_ok.mp done
            cases same
            exact List.forall_mem_cons.mpr ⟨⟨key, head⟩, mappings _ _ _ _ listed⟩
          · cases done
        · cases done
      · cases done

theorem readable_of_document (done : read cs = .ok value) : Readable value := by
  unfold read at done
  split at done
  · next found =>
    cases done
    unfold readDocument at found
    split at found
    · cases found
    · obtain ⟨⟨value, after⟩, first, found⟩ := Outcome.bind_eq_ok.mp found
      simp only at found
      split at found
      · cases found
        exact (readable_of_read _).1 _ _ _ _ first
      · cases found
  all_goals cases done

/-- A document that is read can be shown. -/
theorem isShowable_of_document (done : read cs = .ok value) : value.isShowable = true :=
  (readable_of_document done).isShowable

end Json

end VariantIter
