import VariantIter.Proofs.Generation

/-!
Running an iterator.

A request to an iterator compares its counter with the number of variants. Below it, the mapping is
asked for the variant at the counter, and the counter moves on; otherwise the iteration is over and the
counter stays.

Main statement: the iterator of a sum type answers its variants in order, each once, and then that it
is over, however often it is asked. The last branch of the mapping is never taken.
-/

namespace VariantIter

/-- What a request is answered with: the end, a variant, or the message of the last branch. -/
inductive Answer where
  | finished
  | variant (construction : Construction)
  | fallback (message : Text)

namespace Fragment

/-- The first branch with the given index answers; without one, the last branch does. -/
def select (f : Fragment) (index : Nat) : Answer :=
  match f.mapping.branches.find? fun branch => branch.index == index with
  | some branch => .variant branch.construction
  | none => .fallback f.mapping.fallback

/-- One request: the answer, and the counter after it. -/
def request (f : Fragment) (counter : Nat) : Answer × Nat :=
  if counter ≥ f.next.length then (.finished, counter) else (f.select counter, counter + 1)

/-- Requests one after another: the answers in order, and the counter after the last request. -/
def requests (f : Fragment) : (count : Nat) → (counter : Nat) → List Answer × Nat
  | 0, counter => ([], counter)
  | count + 1, counter =>
      let (answer, after) := f.request counter
      let (answers, last) := f.requests count after
      (answer :: answers, last)

/-- The mapping has one branch per construction, numbered from zero, and the length that requests
compare with is their number. -/
structure Enumerates (f : Fragment) (constructions : List Construction) : Prop where
  branches : f.mapping.branches = Branch.numbered 0 constructions
  length : f.next.length = constructions.length
  initial : f.state.initial = 0

end Fragment

/-- Among numbered branches, an index finds the construction at its place. -/
theorem Branch.find_numbered (constructions : List Construction) (first offset : Nat) :
    (Branch.numbered first constructions).find? (fun branch => branch.index == first + offset) =
      constructions[offset]?.map (Branch.mk (first + offset)) := by
  induction constructions generalizing first offset with
  | nil => rfl
  | cons construction constructions ih =>
    cases offset with
    | zero => simp [Branch.numbered]
    | succ offset =>
      have passed : (first == first + (offset + 1)) = false := by simp
      have moved : first + (offset + 1) = first + 1 + offset := by omega
      rw [Branch.numbered, List.find?_cons, passed, List.getElem?_cons_succ, moved]
      exact ih (first + 1) offset

namespace Fragment

variable {f : Fragment} {constructions : List Construction}

/-! ## One request -/

theorem Enumerates.select_eq (enumerates : f.Enumerates constructions) {index : Nat}
    (inside : index < constructions.length) : f.select index = .variant constructions[index] := by
  have found := Branch.find_numbered constructions 0 index
  rw [Nat.zero_add, List.getElem?_eq_getElem inside] at found
  unfold select
  rw [enumerates.branches, found]
  rfl

/-- Inside of the range, a request answers the variant at the counter and moves on. -/
theorem Enumerates.request_inside (enumerates : f.Enumerates constructions) {counter : Nat}
    (inside : counter < constructions.length) :
    f.request counter = (.variant constructions[counter], counter + 1) := by
  have unfinished : ¬ counter ≥ f.next.length := by
    rw [enumerates.length]
    omega
  rw [request, if_neg unfinished, enumerates.select_eq inside]

/-- At the end of the range, a request changes nothing. -/
theorem Enumerates.request_outside (enumerates : f.Enumerates constructions) :
    f.request constructions.length = (.finished, constructions.length) := by
  rw [request, if_pos (Nat.le_of_eq enumerates.length)]

/-! ## Many requests -/

theorem Enumerates.requests_outside (enumerates : f.Enumerates constructions) (count : Nat) :
    f.requests count constructions.length =
      (List.replicate count .finished, constructions.length) := by
  induction count with
  | zero => rfl
  | succ count ih => simp only [requests, enumerates.request_outside, ih, List.replicate_succ]

/-- Requests from a counter inside of the range answer what is left, then the end. -/
theorem Enumerates.requests_eq (enumerates : f.Enumerates constructions) (count : Nat)
    {counter : Nat} (bounded : counter ≤ constructions.length) :
    f.requests count counter =
      (((constructions.drop counter).take count).map .variant ++
          List.replicate (count - (constructions.length - counter)) .finished,
        min (counter + count) constructions.length) := by
  -- The counter never passes the number of variants; once it is there, nothing moves any more.
  induction count generalizing counter with
  | zero => simp [requests, bounded]
  | succ count ih =>
    rcases Nat.lt_or_eq_of_le bounded with inside | arrived
    · have rest := ih (Nat.succ_le_of_lt inside)
      have left : count + 1 - (constructions.length - counter) =
          count - (constructions.length - (counter + 1)) := by omega
      have sum : counter + (count + 1) = counter + 1 + count := by omega
      rw [List.drop_eq_getElem_cons inside, List.take_succ_cons, List.map_cons, List.cons_append,
        left, sum]
      simp only [requests, enumerates.request_inside inside, rest]
    · subst arrived
      rw [enumerates.requests_outside]
      simp

/-- No request is answered by the last branch. -/
theorem Enumerates.fallback_not_mem (enumerates : f.Enumerates constructions) (count : Nat)
    {counter : Nat} (bounded : counter ≤ constructions.length) (message : Text) :
    .fallback message ∉ (f.requests count counter).1 := by
  rw [enumerates.requests_eq count bounded]
  intro member
  rcases List.mem_append.mp member with answered | ended
  · obtain ⟨construction, _, same⟩ := List.mem_map.mp answered
    cases same
  · cases List.eq_of_mem_replicate ended

end Fragment

/-! ## The iterator of a sum type -/

theorem Generator.assemble_enumerates (generator : Generator) {descriptor : Descriptor}
    {constructions : List Construction}
    (built : List.Forall₂ (fun variant construction =>
      Construction.build descriptor.name variant = .ok construction)
      descriptor.variants constructions) :
    (generator.assemble descriptor (Branch.numbered 0 constructions)).Enumerates constructions where
  branches := rfl
  length := built.length_eq
  initial := rfl

/-- For every sum type whose payloads are shapes, the generated iterator answers any number of requests
with the constructions of its variants in the order of their declaration and then with the end. It does
not matter how the generator was made, whether names repeat, or whether there are variants at all. -/
theorem Generator.iteration_contract (generator : Generator) (descriptor : Descriptor)
    (isSum : descriptor.kind = .sum)
    (shaped : ∀ variant ∈ descriptor.variants, ∃ shape, variant.payload.classify = .ok shape) :
    ∃ f constructions, (generator.generate descriptor).outcome = .ok f ∧
      List.Forall₂ (fun variant construction =>
        Construction.build descriptor.name variant = .ok construction)
        descriptor.variants constructions ∧
      ∀ count,
        f.requests count f.state.initial =
          ((constructions.take count).map .variant ++
              List.replicate (count - min count descriptor.variants.length) .finished,
            min count descriptor.variants.length) ∧
        ∀ message, .fallback message ∉ (f.requests count f.state.initial).1 := by
  obtain ⟨constructions, mapped⟩ := exists_constructions shaped
  have built := Outcome.mapM_eq_ok.mp mapped
  have enumerates := generator.assemble_enumerates built
  refine ⟨generator.assemble descriptor (Branch.numbered 0 constructions), constructions, ?_, built,
    fun count => ⟨?_, fun message => ?_⟩⟩
  · rw [generator.generate_outcome isSum, mapped]
    rfl
  · have counted := enumerates.requests_eq count (Nat.zero_le _)
    have ended : count - min count constructions.length = count - constructions.length := by omega
    rw [built.length_eq, enumerates.initial, counted, ended]
    simp
  · rw [enumerates.initial]
    exact enumerates.fallback_not_mem count (Nat.zero_le _) message

/-- Five requests to the iterator over three variants: three answers, and the end twice. -/
theorem Generator.iteration_contract_threeShapes :
    Descriptor.threeShapes.kind = .sum ∧
      ∃ f constructions, (standard.generate .threeShapes).outcome = .ok f ∧
        List.Forall₂ (fun variant construction =>
          Construction.build "Test" variant = .ok construction)
          Descriptor.threeShapes.variants constructions ∧
        f.requests 5 f.state.initial =
          ((constructions.take 5).map .variant ++ [.finished, .finished], 3) := by
  have shaped : ∀ variant ∈ Descriptor.threeShapes.variants,
      ∃ shape, variant.payload.classify = .ok shape := by
    simp [Descriptor.threeShapes, Payload.classify]
  obtain ⟨f, constructions, generated, built, run⟩ :=
    iteration_contract standard .threeShapes rfl shaped
  exact ⟨rfl, f, constructions, generated, built, (run 5).1⟩

end VariantIter
