import Mathlib.Data.List.Forall2
import VariantIter.Log.Traced

/-!
Computations that succeed, and the faults of those that do not.

A sequence of steps succeeds exactly when each of its steps does, and a step for every item of a list
succeeds exactly when the results can be put next to the items. Otherwise the first step that fails
decides. The records of a traced computation play no part in its outcome.
-/

namespace VariantIter.Outcome

variable {ε α β : Type}

@[simp] theorem ok_bind (a : α) (next : α → Except ε β) : Except.ok a >>= next = next a := rfl

theorem bind_eq_ok {x : Except ε α} {next : α → Except ε β} {b : β} :
    x >>= next = .ok b ↔ ∃ a, x = .ok a ∧ next a = .ok b := by
  cases x with
  | error fault => simp [bind, Except.bind]
  | ok a => simp [bind, Except.bind]

theorem map_eq_ok {x : Except ε α} {f : α → β} {b : β} :
    x.map f = .ok b ↔ ∃ a, x = .ok a ∧ f a = b := by
  cases x with
  | error fault => simp [Except.map]
  | ok a => simp [Except.map]

/-- The results stand in the order of the items, one for each. -/
theorem mapM_eq_ok {f : α → Except ε β} {items : List α} {results : List β} :
    items.mapM f = .ok results ↔ List.Forall₂ (fun a b => f a = .ok b) items results := by
  induction items generalizing results with
  | nil =>
    rw [List.mapM_nil, List.forall₂_nil_left_iff]
    exact ⟨fun same => (Except.ok.inj same).symm, fun empty => empty ▸ rfl⟩
  | cons item items ih =>
    rw [List.mapM_cons, bind_eq_ok, List.forall₂_cons_left_iff]
    constructor
    · rintro ⟨first, done, rest⟩
      obtain ⟨others, mapped, same⟩ := bind_eq_ok.mp rest
      exact ⟨first, others, done, ih.mp mapped, (Except.ok.inj same).symm⟩
    · rintro ⟨first, others, done, mapped, rfl⟩
      exact ⟨first, done, bind_eq_ok.mpr ⟨others, ih.mpr mapped, rfl⟩⟩

/-- Every result comes from an item. -/
theorem exists_of_mem_right {related : α → β → Prop} {items : List α} {results : List β}
    (each : List.Forall₂ related items results) {result : β} (member : result ∈ results) :
    ∃ item ∈ items, related item result := by
  induction each with
  | nil => cases member
  | @cons item first items results head _ ih =>
    rcases List.mem_cons.mp member with rfl | later
    · exact ⟨item, List.mem_cons_self, head⟩
    · obtain ⟨other, present, holds⟩ := ih later
      exact ⟨other, List.mem_cons_of_mem item present, holds⟩

/-- Every item has a result. -/
theorem exists_of_mem_left {related : α → β → Prop} {items : List α} {results : List β}
    (each : List.Forall₂ related items results) {item : α} (member : item ∈ items) :
    ∃ result, related item result := by
  obtain ⟨result, _, holds⟩ := exists_of_mem_right each.flip member
  exact ⟨result, holds⟩

/-- A step that succeeds on every item succeeds on the list. -/
theorem exists_mapM_eq_ok {f : α → Except ε β} {items : List α}
    (each : ∀ item ∈ items, ∃ result, f item = .ok result) :
    ∃ results, items.mapM f = .ok results := by
  induction items with
  | nil => exact ⟨[], rfl⟩
  | cons item items ih =>
    obtain ⟨first, done⟩ := each item List.mem_cons_self
    obtain ⟨others, mapped⟩ := ih fun other member => each other (List.mem_cons_of_mem item member)
    exact ⟨first :: others, mapM_eq_ok.mpr (.cons done (mapM_eq_ok.mp mapped))⟩

theorem mapM_congr {f g : α → Except ε β} {items : List α}
    (agree : ∀ item ∈ items, f item = g item) : items.mapM f = items.mapM g := by
  induction items with
  | nil => rfl
  | cons item items ih =>
    obtain ⟨head, rest⟩ := List.forall_mem_cons.mp agree
    rw [List.mapM_cons, List.mapM_cons, head, ih rest]

/-- If all steps that fail have the same fault, it does not matter which is the first. -/
theorem mapM_ite (p : α → Bool) (f : α → β) (fault : ε) (items : List α) :
    items.mapM (fun a => if p a then Except.ok (f a) else .error fault) =
      if items.all p then .ok (items.map f) else .error fault := by
  induction items with
  | nil => rfl
  | cons item items ih =>
    rw [List.mapM_cons, ih, List.all_cons, List.map_cons]
    cases p item with
    | false => rfl
    | true => cases items.all p <;> rfl

/-! ## Faults -/

theorem bind_eq_error {x : Except ε α} {next : α → Except ε β} {fault : ε} :
    x >>= next = .error fault ↔ x = .error fault ∨ ∃ a, x = .ok a ∧ next a = .error fault := by
  cases x with
  | error other => simp [bind, Except.bind]
  | ok a => simp [bind, Except.bind]

theorem map_eq_error {x : Except ε α} {f : α → β} {fault : ε} :
    x.map f = .error fault ↔ x = .error fault := by
  cases x with
  | error other => simp [Except.map]
  | ok a => simp [Except.map]

theorem mapError_eq_error {ε' : Type} {x : Except ε α} {f : ε → ε'} {fault : ε'} :
    x.mapError f = .error fault ↔ ∃ cause, x = .error cause ∧ f cause = fault := by
  cases x with
  | error other => simp [Except.mapError]
  | ok a => simp [Except.mapError]

theorem mapError_eq_ok {ε' : Type} {x : Except ε α} {f : ε → ε'} {a : α} :
    x.mapError f = .ok a ↔ x = .ok a := by
  cases x with
  | error other => simp [Except.mapError]
  | ok b => simp [Except.mapError]

/-- The first item with a property. -/
def First (p : α → Prop) (items : List α) (item : α) : Prop :=
  ∃ before after, items = before ++ item :: after ∧ (∀ other ∈ before, ¬ p other) ∧ p item

theorem not_first_nil {p : α → Prop} {item : α} : ¬ First p [] item := by
  rintro ⟨before, after, split, _⟩
  cases before with
  | nil => cases split
  | cons other before => cases split

/-- An item that has the property is the first; one that lacks it is passed over. -/
theorem first_cons {p : α → Prop} {head item : α} {items : List α} :
    First p (head :: items) item ↔ (p head ∧ head = item) ∨ (¬ p head ∧ First p items item) := by
  constructor
  · rintro ⟨before, after, split, lacking, holds⟩
    cases before with
    | nil =>
      cases split
      exact .inl ⟨holds, rfl⟩
    | cons other before =>
      cases split
      obtain ⟨passed, lacking⟩ := List.forall_mem_cons.mp lacking
      exact .inr ⟨passed, before, after, rfl, lacking, holds⟩
  · rintro (⟨holds, rfl⟩ | ⟨passed, before, after, rfl, lacking, holds⟩)
    · exact ⟨[], items, rfl, nofun, holds⟩
    · exact ⟨head :: before, after, rfl, List.forall_mem_cons.mpr ⟨passed, lacking⟩, holds⟩

theorem First.mem {p : α → Prop} {items : List α} {item : α} (first : First p items item) :
    item ∈ items := by
  obtain ⟨before, after, rfl, _, _⟩ := first
  exact List.mem_append_right before List.mem_cons_self

theorem First.holds {p : α → Prop} {items : List α} {item : α} (first : First p items item) :
    p item := by
  obtain ⟨_, _, _, _, holds⟩ := first
  exact holds

theorem First.congr {p q : α → Prop} {items : List α} {item : α} (first : First p items item)
    (agree : ∀ item ∈ items, p item ↔ q item) : First q items item := by
  obtain ⟨before, after, rfl, lacking, holds⟩ := first
  refine ⟨before, after, rfl, fun other member => ?_, (agree item (by simp)).mp holds⟩
  rw [← agree other (List.mem_append_left _ member)]
  exact lacking other member

/-- There is a first item with a property if there is one at all. -/
theorem exists_first {p : α → Prop} {items : List α} :
    (∃ item, First p items item) ↔ ∃ item ∈ items, p item := by
  induction items with
  | nil => exact ⟨fun ⟨_, first⟩ => absurd first not_first_nil, nofun⟩
  | cons head items ih =>
    by_cases holds : p head
    · exact ⟨fun _ => ⟨head, List.mem_cons_self, holds⟩,
        fun _ => ⟨head, first_cons.mpr (.inl ⟨holds, rfl⟩)⟩⟩
    · simp only [first_cons, holds, false_and, false_or, not_false_eq_true, true_and,
        List.mem_cons, exists_eq_or_imp]
      exact ih

/-- A step for every item fails with the fault of the first item that fails. -/
theorem mapM_eq_error {f : α → Except ε β} {items : List α} {fault : ε} :
    items.mapM f = .error fault ↔
      ∃ item, First (fun item => ∃ fault, f item = .error fault) items item ∧
        f item = .error fault := by
  induction items with
  | nil => exact ⟨nofun, fun ⟨_, first, _⟩ => absurd first not_first_nil⟩
  | cons head items ih =>
    simp only [List.mapM_cons, bind_eq_error, first_cons]
    constructor
    · rintro (failed | ⟨result, done, rest⟩)
      · exact ⟨head, .inl ⟨⟨fault, failed⟩, rfl⟩, failed⟩
      · rcases rest with failed | ⟨_, _, impossible⟩
        · obtain ⟨item, first, failed⟩ := ih.mp failed
          exact ⟨item, .inr ⟨by simp [done], first⟩, failed⟩
        · cases impossible
    · rintro ⟨item, ⟨_, rfl⟩ | ⟨passed, first⟩, failed⟩
      · exact .inl failed
      · cases done : f head with
        | error other => exact absurd ⟨other, done⟩ passed
        | ok result => exact .inr ⟨result, rfl, .inl (ih.mpr ⟨item, first, failed⟩)⟩

/-! ## The same results -/

/-- Two computations have the same result, or both fail, perhaps with different faults. -/
def SameResult (x y : Except ε α) : Prop :=
  ∀ a, x = .ok a ↔ y = .ok a

theorem SameResult.refl (x : Except ε α) : SameResult x x :=
  fun _ => Iff.rfl

theorem SameResult.trans {x y z : Except ε α} (first : SameResult x y) (second : SameResult y z) :
    SameResult x z :=
  fun a => (first a).trans (second a)

theorem sameResult_of_errors (fault fault' : ε) :
    SameResult (.error fault : Except ε α) (.error fault') := by
  intro a
  simp

theorem SameResult.bind {x y : Except ε α} {next next' : α → Except ε β} (same : SameResult x y)
    (goesOn : ∀ a, SameResult (next a) (next' a)) : SameResult (x >>= next) (y >>= next') := by
  intro b
  rw [bind_eq_ok, bind_eq_ok]
  constructor
  · rintro ⟨a, first, rest⟩
    exact ⟨a, (same a).mp first, (goesOn a b).mp rest⟩
  · rintro ⟨a, first, rest⟩
    exact ⟨a, (same a).mpr first, (goesOn a b).mpr rest⟩

/-- A step for every item has the same results on items that have the same result one by one. -/
theorem sameResult_mapM {f : α → Except ε β} {items items' : List α}
    (each : List.Forall₂ (fun item item' => SameResult (f item) (f item')) items items') :
    SameResult (items.mapM f) (items'.mapM f) := by
  induction each with
  | nil => exact .refl _
  | cons head _ ih =>
    rw [List.mapM_cons, List.mapM_cons]
    refine head.bind fun first => ih.bind fun others => .refl _

/-! ## Properties of results and of faults -/

/-- A result has one property, and a fault the other. -/
def Ends (good : α → Prop) (bad : ε → Prop) : Except ε α → Prop
  | .ok a => good a
  | .error fault => bad fault

variable {good : α → Prop} {bad : ε → Prop} {x : Except ε α}

theorem Ends.ok {a : α} (ends : Ends good bad x) (done : x = .ok a) : good a := by
  rwa [done] at ends

theorem Ends.error {fault : ε} (ends : Ends good bad x) (failed : x = .error fault) : bad fault := by
  rwa [failed] at ends

theorem Ends.imp {better : α → Prop} {worse : ε → Prop} (ends : Ends good bad x)
    (results : ∀ a, good a → better a) (faults : ∀ fault, bad fault → worse fault) :
    Ends better worse x := by
  cases x with
  | ok a => exact results a ends
  | error fault => exact faults fault ends

theorem Ends.bind {next : α → Except ε β} {better : β → Prop} (ends : Ends good bad x)
    (goesOn : ∀ a, good a → Ends better bad (next a)) : Ends better bad (x >>= next) := by
  cases x with
  | ok a => exact goesOn a ends
  | error fault => exact ends

theorem ends_map {f : α → β} {better : β → Prop} :
    Ends better bad (x.map f) ↔ Ends (fun a => better (f a)) bad x := by
  cases x with
  | ok a => rfl
  | error fault => rfl

theorem ends_ite {p : Prop} [Decidable p] {y : Except ε α} (yes : p → Ends good bad x)
    (no : ¬ p → Ends good bad y) : Ends good bad (if p then x else y) := by
  split
  · next holds => exact yes holds
  · next fails => exact no fails

/-- A step for every item has results and faults like one step. -/
theorem ends_mapM {f : α → Except ε β} {items : List α} {better : β → Prop}
    (each : ∀ item ∈ items, Ends better bad (f item)) :
    Ends (fun results => ∀ result ∈ results, better result) bad (items.mapM f) := by
  cases done : items.mapM f with
  | ok results =>
    intro result member
    obtain ⟨item, present, stepped⟩ := exists_of_mem_right (mapM_eq_ok.mp done) member
    exact (each item present).ok stepped
  | error fault =>
    obtain ⟨item, first, failed⟩ := mapM_eq_error.mp done
    exact (each item first.mem).error failed

/-- A computation ends with a result or a usual fault if nothing is wrong otherwise, and with what is wrong
otherwise if something is. -/
def Accounted (usual : ε → Bool) (wrong : ε → Prop) : Except ε α → Prop :=
  Ends (fun _ => ∀ fault, ¬ wrong fault) fun fault =>
    (usual fault = true ∧ ∀ other, ¬ wrong other) ∨ (usual fault = false ∧ wrong fault)

section Accounted

variable {usual : ε → Bool} {wrong : ε → Prop}

theorem Accounted.congr {wrong' : ε → Prop} (accounted : Accounted usual wrong x)
    (same : ∀ fault, wrong fault ↔ wrong' fault) : Accounted usual wrong' x := by
  rwa [funext fun fault => propext (same fault)] at accounted

theorem Accounted.faults (accounted : Accounted usual wrong x) :
    (∀ fault, x = .error fault → usual fault = true ∨ wrong fault) ∧
      ((∃ fault, x = .error fault ∧ usual fault = false) ↔ ∃ fault, wrong fault) := by
  cases x with
  | ok a =>
    refine ⟨by simp, by simp, ?_⟩
    rintro ⟨fault, holds⟩
    exact absurd holds (accounted fault)
  | error fault =>
    rcases accounted with ⟨expected, none⟩ | ⟨unexpected, holds⟩
    · refine ⟨?_, ?_, ?_⟩
      · rintro _ ⟨⟩
        exact .inl expected
      · rintro ⟨_, ⟨⟩, unexpected⟩
        cases expected.symm.trans unexpected
      · rintro ⟨other, holds⟩
        exact absurd holds (none other)
    · refine ⟨?_, fun _ => ⟨fault, holds⟩, fun _ => ⟨fault, rfl, unexpected⟩⟩
      rintro _ ⟨⟩
      exact .inr holds

end Accounted

/-! ## Computations with a state -/

section Runs

variable {σ : Type}

/-- From every state that allows it, the computation ends with a result and a state as they should be,
or with a fault as it may be. -/
def Runs (before : σ → Prop) (bad : ε → Prop) (x : StateT σ (Except ε) α) (after : α → σ → Prop) :
    Prop :=
  ∀ s, before s → Ends (fun end' => after end'.1 end'.2) bad (x.run s)

/-- The computation keeps a property of the state, and has a good result. -/
def Keeps (kept : σ → Prop) (bad : ε → Prop) (x : StateT σ (Except ε) α) (good : α → Prop) : Prop :=
  Runs kept bad x fun a s => good a ∧ kept s

variable {x : StateT σ (Except ε) α} {next : α → StateT σ (Except ε) β}

section

variable {before : σ → Prop} {after middle : α → σ → Prop} {later : β → σ → Prop}

theorem Runs.bind (first : Runs before bad x middle) (goesOn : ∀ a, Runs (middle a) bad (next a) later) :
    Runs before bad (x >>= next) later := by
  intro s allowed
  rw [StateT.run_bind]
  exact (first s allowed).bind fun (a, s) holds => goesOn a s holds

theorem Runs.imp {earlier : σ → Prop} (runs : Runs before bad x middle)
    (allowed : ∀ s, earlier s → before s) (results : ∀ a s, middle a s → after a s) :
    Runs earlier bad x after :=
  fun s holds => (runs s (allowed s holds)).imp (fun _ holds => results _ _ holds) fun _ holds => holds

theorem Runs.map {f : α → β} (runs : Runs before bad x fun a => later (f a)) :
    Runs before bad (f <$> x) later := by
  rw [map_eq_pure_bind]
  exact runs.bind fun _ _ holds => holds

theorem runs_pure {a : α} (holds : ∀ s, before s → after a s) :
    Runs before bad (pure a : StateT σ (Except ε) α) after :=
  holds

theorem runs_get : Runs before bad (get : StateT σ (Except ε) σ) fun a s => a = s ∧ before s :=
  fun _ allowed => ⟨rfl, allowed⟩

theorem runs_modify {f : σ → σ} {after : PUnit → σ → Prop} (moves : ∀ s, before s → after ⟨⟩ (f s)) :
    Runs before bad (modify f : StateT σ (Except ε) PUnit) after :=
  moves

theorem runs_throw {fault : ε} (holds : ∀ s, before s → bad fault) :
    Runs before bad (throw fault : StateT σ (Except ε) α) after :=
  holds

theorem runs_ite {p : Prop} [Decidable p] {y : StateT σ (Except ε) α}
    (yes : p → Runs before bad x after) (no : ¬ p → Runs before bad y after) :
    Runs before bad (if p then x else y) after := by
  split
  · next holds => exact yes holds
  · next fails => exact no fails

end

variable {kept : σ → Prop} {better : β → Prop}

theorem Keeps.bind (first : Keeps kept bad x good)
    (goesOn : ∀ a, good a → Keeps kept bad (next a) better) : Keeps kept bad (x >>= next) better :=
  Runs.bind first fun a s holds => goesOn a holds.1 s holds.2

theorem keeps_pure {a : α} (holds : good a) :
    Keeps kept bad (pure a : StateT σ (Except ε) α) good :=
  runs_pure fun _ keeps => ⟨holds, keeps⟩

theorem keeps_throw {fault : ε} (holds : bad fault) :
    Keeps kept bad (throw fault : StateT σ (Except ε) α) good :=
  runs_throw fun _ _ => holds

theorem keeps_get : Keeps kept bad (get : StateT σ (Except ε) σ) kept :=
  fun _ keeps => ⟨keeps, keeps⟩

theorem keeps_modify {f : σ → σ} (keeps : ∀ s, kept s → kept (f s)) :
    Keeps kept bad (modify f : StateT σ (Except ε) PUnit) fun _ => True :=
  runs_modify fun s before => ⟨trivial, keeps s before⟩

theorem Keeps.imp {weaker : α → Prop} (keeps : Keeps kept bad x good)
    (results : ∀ a, good a → weaker a) : Keeps kept bad x weaker :=
  Runs.imp keeps (fun _ holds => holds) fun a _ holds => ⟨results a holds.1, holds.2⟩

theorem keeps_ite {p : Prop} [Decidable p] {y : StateT σ (Except ε) α}
    (yes : p → Keeps kept bad x good) (no : ¬ p → Keeps kept bad y good) :
    Keeps kept bad (if p then x else y) good :=
  runs_ite yes no

/-- A step for every item keeps what one step keeps. -/
theorem keeps_mapM {f : α → StateT σ (Except ε) β} {items : List α}
    (each : ∀ item ∈ items, Keeps kept bad (f item) fun _ => True) :
    Keeps kept bad (items.mapM f) fun _ => True := by
  induction items with
  | nil =>
    rw [List.mapM_nil]
    exact keeps_pure trivial
  | cons item items ih =>
    obtain ⟨head, rest⟩ := List.forall_mem_cons.mp each
    rw [List.mapM_cons]
    exact head.bind fun _ _ => (ih rest).bind fun _ _ => keeps_pure trivial

theorem keeps_forM {f : α → StateT σ (Except ε) PUnit} {items : List α}
    (each : ∀ item ∈ items, Keeps kept bad (f item) fun _ => True) :
    Keeps kept bad (items.forM f) fun _ => True := by
  induction items with
  | nil => exact keeps_pure trivial
  | cons item items ih =>
    obtain ⟨head, rest⟩ := List.forall_mem_cons.mp each
    exact head.bind fun _ _ => ih rest

theorem keeps_foldlM {f : β → α → StateT σ (Except ε) β} {items : List α}
    (each : ∀ item ∈ items, ∀ b, Keeps kept bad (f b item) fun _ => True) (b : β) :
    Keeps kept bad (items.foldlM f b) fun _ => True := by
  induction items generalizing b with
  | nil => exact keeps_pure trivial
  | cons item items ih =>
    obtain ⟨head, rest⟩ := List.forall_mem_cons.mp each
    rw [List.foldlM_cons]
    exact (head b).bind fun b _ => ih rest b

theorem keeps_findM? {p : α → StateT σ (Except ε) Bool} {items : List α}
    (each : ∀ item ∈ items, Keeps kept bad (p item) fun _ => True) :
    Keeps kept bad (items.findM? p) fun _ => True := by
  induction items with
  | nil => exact keeps_pure trivial
  | cons item items ih =>
    obtain ⟨head, rest⟩ := List.forall_mem_cons.mp each
    unfold List.findM?
    refine head.bind fun found _ => ?_
    cases found with
    | true => exact keeps_pure trivial
    | false => exact ih rest

end Runs

end VariantIter.Outcome

namespace VariantIter.Traced

variable {α β : Type}

@[simp] theorem outcome_pure (a : α) : (pure a : Traced α).outcome = .ok a := rfl

@[simp] theorem outcome_emit (record : Log.Record) : (emit record).outcome = .ok () := rfl

@[simp] theorem outcome_ofExcept (x : Except Fault α) : (ofExcept x).outcome = x := rfl

@[simp] theorem outcome_bind (x : Traced α) (next : α → Traced β) :
    (x >>= next).outcome = x.outcome >>= fun a => (next a).outcome := by
  show (Traced.bind x next).outcome = _
  unfold Traced.bind
  cases x.outcome with
  | error fault => rfl
  | ok a => rfl

end VariantIter.Traced
