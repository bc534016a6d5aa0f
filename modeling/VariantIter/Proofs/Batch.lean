import Mathlib.Data.List.Zip
import VariantIter.Pipeline
import VariantIter.Proofs.Layout

/-!
Runs over many types.

`Generator.verdict` sorts types: a good one is a sum type whose payloads are shapes, one that is no sum type is
rejected, and a sum type with another payload is broken. A type is none of these, but unshowable, where the code,
the rejection or the fault would have to show an integer of too many digits.

Main statements: a run that goes on returns an output for every sum type and a failure for every other
type, each in the order of the input and each as if the type stood alone. A run that stops at the first
failure differs only where a type is rejected; a type that is broken or unshowable ends both.
-/

namespace VariantIter

/-! ## Verdicts -/

/-- What stands in place of a payload and is none. -/
def Payload.stray? : Payload → Option Value
  | .shape _ => none
  | .foreign .null => none
  | .foreign value => some value

/-- The first payload of a type that is none. -/
def Descriptor.stray? (descriptor : Descriptor) : Option Value :=
  descriptor.variants.findSome? fun variant => variant.payload.stray?

/-- What a type is to a run; a broken type comes with its first payload that is none. -/
inductive Verdict where
  | good
  | rejected
  | broken (payload : Value)
  | unshowable

/-- The payloads of a sum type are looked at before the capability is shown. -/
def Generator.verdict (generator : Generator) (descriptor : Descriptor) : Verdict :=
  match descriptor.kind, descriptor.stray? with
  | .sum, some payload => if payload.isShowable then .broken payload else .unshowable
  | .sum, none =>
      if generator.recipe.capability.isShowable && descriptor.isShowable then .good else .unshowable
  | _, _ => if generator.recipe.capability.isShowable then .rejected else .unshowable

theorem Payload.classify_eq_error {payload : Payload} {fault : Fault} :
    payload.classify = .error fault ↔
      ∃ value, payload.stray? = some value ∧ fault = Fault.reported (.kind (.notShape value)) := by
  cases payload with
  | shape known => simp [classify, stray?]
  | foreign value => cases value <;> simp [classify, stray?, eq_comm]

theorem Payload.stray_eq_none {payload : Payload} :
    payload.stray? = none ↔ ∃ shape, payload.classify = .ok shape := by
  cases payload with
  | shape known => simp [classify, stray?]
  | foreign value => cases value <;> simp [classify, stray?]

namespace Descriptor

variable {descriptor : Descriptor}

theorem stray_eq_none :
    descriptor.stray? = none ↔
      ∀ variant ∈ descriptor.variants, ∃ shape, variant.payload.classify = .ok shape := by
  simp only [stray?, List.findSome?_eq_none_iff, Payload.stray_eq_none]

end Descriptor

namespace Generator

variable {generator : Generator} {descriptor : Descriptor}

/-- The code of a sum type, or the rejection of any other type, can be shown. -/
structure CanShow (generator : Generator) (descriptor : Descriptor) : Prop where
  capability : generator.recipe.capability.isShowable = true
  types : descriptor.kind = .sum → descriptor.isShowable = true

theorem verdict_of_other (other : descriptor.kind ≠ .sum) :
    generator.verdict descriptor =
      if generator.recipe.capability.isShowable then .rejected else .unshowable := by
  unfold verdict
  cases kind : descriptor.kind with
  | sum => exact absurd kind other
  | record => rfl
  | union => rfl

theorem verdict_of_unstray (isSum : descriptor.kind = .sum) (unstray : descriptor.stray? = none) :
    generator.verdict descriptor =
      if generator.recipe.capability.isShowable && descriptor.isShowable then .good
      else .unshowable := by
  rw [verdict, isSum, unstray]

theorem verdict_of_stray {payload : Value} (isSum : descriptor.kind = .sum)
    (stray : descriptor.stray? = some payload) :
    generator.verdict descriptor =
      if payload.isShowable then .broken payload else .unshowable := by
  rw [verdict, isSum, stray]

theorem verdict_eq_good :
    generator.verdict descriptor = .good ↔
      descriptor.kind = .sum ∧ descriptor.stray? = none ∧ generator.CanShow descriptor := by
  constructor
  · intro good
    by_cases isSum : descriptor.kind = .sum
    · cases stray : descriptor.stray? with
      | some payload =>
        rw [verdict_of_stray isSum stray] at good
        split at good <;> cases good
      | none =>
        rw [verdict_of_unstray isSum stray] at good
        split at good
        · next showable =>
          rw [Bool.and_eq_true] at showable
          exact ⟨isSum, rfl, showable.1, fun _ => showable.2⟩
        · cases good
    · rw [verdict_of_other isSum] at good
      split at good <;> cases good
  · rintro ⟨isSum, unstray, shows⟩
    rw [verdict_of_unstray isSum unstray, shows.capability, shows.types isSum]
    rfl

theorem verdict_eq_rejected :
    generator.verdict descriptor = .rejected ↔
      descriptor.kind ≠ .sum ∧ generator.recipe.capability.isShowable = true := by
  constructor
  · intro rejected
    by_cases isSum : descriptor.kind = .sum
    · cases stray : descriptor.stray? with
      | some payload =>
        rw [verdict_of_stray isSum stray] at rejected
        split at rejected <;> cases rejected
      | none =>
        rw [verdict_of_unstray isSum stray] at rejected
        split at rejected <;> cases rejected
    · rw [verdict_of_other isSum] at rejected
      split at rejected
      · next showable => exact ⟨isSum, showable⟩
      · cases rejected
  · rintro ⟨other, showable⟩
    rw [verdict_of_other other, if_pos showable]

theorem verdict_eq_broken {payload : Value} :
    generator.verdict descriptor = .broken payload ↔
      descriptor.kind = .sum ∧ descriptor.stray? = some payload ∧ payload.isShowable = true := by
  constructor
  · intro broken
    by_cases isSum : descriptor.kind = .sum
    · cases stray : descriptor.stray? with
      | some payload =>
        rw [verdict_of_stray isSum stray] at broken
        split at broken
        · next showable =>
          cases broken
          exact ⟨isSum, rfl, showable⟩
        · cases broken
      | none =>
        rw [verdict_of_unstray isSum stray] at broken
        split at broken <;> cases broken
    · rw [verdict_of_other isSum] at broken
      split at broken <;> cases broken
  · rintro ⟨isSum, stray, showable⟩
    rw [verdict_of_stray isSum stray, if_pos showable]

/-- A type whose payloads are shapes is not broken. -/
theorem verdict_of_shaped
    (shaped : ∀ variant ∈ descriptor.variants, ∃ shape, variant.payload.classify = .ok shape)
    (payload : Value) : generator.verdict descriptor ≠ .broken payload := by
  intro broken
  have stray := (verdict_eq_broken.mp broken).2.1
  rw [Descriptor.stray_eq_none.mpr shaped] at stray
  cases stray

/-- A type whose payloads are shapes and that can be shown is good if it is a sum type, and rejected otherwise. -/
theorem verdict_of_canShow
    (shaped : ∀ variant ∈ descriptor.variants, ∃ shape, variant.payload.classify = .ok shape)
    (canShow : generator.CanShow descriptor) :
    generator.verdict descriptor = if descriptor.kind = .sum then .good else .rejected := by
  split
  · next isSum => exact verdict_eq_good.mpr ⟨isSum, Descriptor.stray_eq_none.mpr shaped, canShow⟩
  · next other => rw [verdict_of_other other, if_pos canShow.capability]

theorem verdict_fine
    (shaped : ∀ variant ∈ descriptor.variants, ∃ shape, variant.payload.classify = .ok shape)
    (canShow : generator.CanShow descriptor) :
    generator.verdict descriptor = .good ∨ generator.verdict descriptor = .rejected := by
  rw [verdict_of_canShow shaped canShow]
  split
  · exact .inl rfl
  · exact .inr rfl

/-- If the payloads of a type are shapes, nothing else than what it has to show can be unshowable. -/
theorem verdict_unshowable_iff
    (shaped : ∀ variant ∈ descriptor.variants, ∃ shape, variant.payload.classify = .ok shape) :
    generator.verdict descriptor = .unshowable ↔ ¬ generator.CanShow descriptor := by
  by_cases isSum : descriptor.kind = .sum
  · rw [verdict_of_unstray isSum (Descriptor.stray_eq_none.mpr shaped)]
    split
    · next showable =>
      rw [Bool.and_eq_true] at showable
      exact ⟨Verdict.noConfusion, fun hidden => absurd ⟨showable.1, fun _ => showable.2⟩ hidden⟩
    · next hidden =>
      refine ⟨fun _ shows => hidden ?_, fun _ => rfl⟩
      rw [shows.capability, shows.types isSum]
      rfl
  · rw [verdict_of_other isSum]
    split
    · next showable =>
      exact ⟨Verdict.noConfusion,
        fun hidden => absurd ⟨showable, fun same => absurd same isSum⟩ hidden⟩
    · next hidden => exact ⟨fun _ shows => hidden shows.capability, fun _ => rfl⟩

end Generator

/-- A record. -/
def Descriptor.point : Descriptor where
  name := "Point"
  kind := .record

/-- A number of one digit can be shown. -/
theorem Value.isShowable_digit {n : Int} (small : n.natAbs < 10) : (Value.int n).isShowable = true := by
  have digits : Number.maxDigits ≠ 0 := by decide
  unfold isShowable showLimit
  rw [decide_eq_true_iff, Nat.pow_eq]
  generalize Number.maxDigits = limit at digits
  exact Nat.lt_of_lt_of_le small (Nat.le_self_pow digits 10)

/-- A sum type with a number in place of a payload. -/
def Descriptor.misfit : Descriptor where
  name := "Misfit"
  variants := [⟨"A", .foreign .null⟩, ⟨"B", .foreign (.int 3)⟩]

namespace Generator

variable (generator : Generator) {descriptor : Descriptor}

theorem generate_unstray (isSum : descriptor.kind = .sum) (unstray : descriptor.stray? = none) :
    ∃ f, (generator.generate descriptor).outcome = .ok f := by
  obtain ⟨constructions, built⟩ := exists_constructions (Descriptor.stray_eq_none.mp unstray)
  exact ⟨_, generate_eq_ok.mpr ⟨isSum, constructions, built, rfl⟩⟩

/-- The first payload that is none ends generation. -/
theorem generate_stray {payload : Value} (isSum : descriptor.kind = .sum)
    (stray : descriptor.stray? = some payload) :
    (generator.generate descriptor).outcome = .error (Fault.reported (.kind (.notShape payload))) := by
  obtain ⟨before, variant, after, split, found, shaped⟩ := List.findSome?_eq_some_iff.mp stray
  have refused {fault : Fault} {variant : Variant}
      (failed : variant.payload.classify = .error fault) :
      Construction.build descriptor.name variant = .error fault := by
    rw [Construction.build_eq, failed]
    rfl
  have failed := refused (Payload.classify_eq_error.mpr ⟨payload, found, rfl⟩)
  have passed : ∀ other ∈ before,
      ¬ ∃ fault, Construction.build descriptor.name other = .error fault := by
    rintro other member ⟨fault, failed⟩
    obtain ⟨shape, classified⟩ := Payload.stray_eq_none.mp (shaped other member)
    rw [Construction.build_eq, classified] at failed
    cases failed
  rw [generator.generate_outcome isSum,
    Outcome.mapM_eq_error.mpr ⟨variant, ⟨before, after, split, passed, _, failed⟩, failed⟩]
  rfl

end Generator

/-! ## One type -/

/-- A printer that has a text for exactly the fragments that can be shown. -/
structure Printer.Shows (printer : Printer) : Prop where
  text : ∀ f, f.isShowable = true → ∃ text, printer.layOut f = .ok text
  fault : ∀ f, f.isShowable = false → printer.layOut f = .error (.range .unshowable)

theorem Printer.shows_ofDialect (dialect : Dialect) : (Printer.ofDialect dialect).Shows where
  text f showable := ⟨f.code dialect f.capability.display, by rw [layOut_ofDialect, if_pos showable]⟩
  fault f hidden := by
    rw [layOut_ofDialect, hidden]
    rfl

/-- An output holds what generating and printing a type on its own return. -/
structure Output.IsOf (generator : Generator) (printer : Printer) (descriptor : Descriptor)
    (output : Output) : Prop where
  named : output.typeName = descriptor.name
  generated : (generator.generate descriptor).outcome = .ok output.fragment
  printed : printer.layOut output.fragment = .ok output.text

/-- The failure of a type that is rejected. -/
def Failure.ofType (generator : Generator) (descriptor : Descriptor) : Failure :=
  ⟨descriptor.name, generator.rejection descriptor⟩

namespace Pipeline

variable {generator : Generator} {printer : Printer} {failFast : Bool} {descriptor : Descriptor}

/-- What has a fragment is printed, whether or not the run would stop at a failure. -/
theorem process_generated {f : Fragment} (generated : (generator.generate descriptor).outcome = .ok f) :
    ((Pipeline.mk generator printer failFast).process descriptor).outcome =
      (printer.layOut f).map fun text => .inl ⟨descriptor.name, f, text⟩ := by
  unfold process
  simp only [generated, Traced.outcome_bind, Outcome.ok_bind, Printer.render_outcome]
  cases printer.layOut f with
  | error fault => rfl
  | ok text => rfl

/-- Any fault but a rejection ends both kinds of run. -/
theorem process_fault {fault : Fault} (failed : (generator.generate descriptor).outcome = .error fault)
    (other : ∀ rejection, fault ≠ .rejected rejection) :
    ((Pipeline.mk generator printer failFast).process descriptor).outcome = .error fault := by
  unfold process
  simp only [failed]
  split
  · next rejection same =>
    exact absurd (Except.error.inj same) (other rejection)
  · rw [Traced.outcome_bind, failed]
    rfl

/-- A good type has an output, whether or not the run would stop at a failure. -/
theorem process_good (shows : printer.Shows) (good : generator.verdict descriptor = .good) :
    ∃ output, output.IsOf generator printer descriptor ∧ ∀ failFast,
      ((Pipeline.mk generator printer failFast).process descriptor).outcome =
        .ok (.inl output) := by
  obtain ⟨isSum, unstray, canShow⟩ := Generator.verdict_eq_good.mp good
  obtain ⟨f, generated⟩ := generator.generate_unstray isSum unstray
  have showable : f.isShowable = true := by
    rw [Generator.isShowable_of_generate generated, canShow.capability, canShow.types isSum]
    rfl
  obtain ⟨text, printed⟩ := shows.text f showable
  refine ⟨⟨descriptor.name, f, text⟩, ⟨rfl, generated, printed⟩, fun failFast => ?_⟩
  rw [process_generated generated, printed]
  rfl

theorem generate_of_rejected (rejected : generator.verdict descriptor = .rejected) :
    (generator.generate descriptor).outcome = .error (.rejected (generator.rejection descriptor)) := by
  obtain ⟨other, showable⟩ := Generator.verdict_eq_rejected.mp rejected
  rw [generator.generate_other other, if_pos showable]

theorem process_rejected (rejected : generator.verdict descriptor = .rejected) :
    ((Pipeline.mk generator printer false).process descriptor).outcome =
      .ok (.inr (Failure.ofType generator descriptor)) := by
  have refused := generate_of_rejected rejected
  unfold process
  simp only [refused]
  rfl

theorem process_rejected_failFast (rejected : generator.verdict descriptor = .rejected) :
    ((Pipeline.mk generator printer true).process descriptor).outcome =
      .error (.rejected (generator.rejection descriptor)) := by
  have refused := generate_of_rejected rejected
  unfold process
  simp only [refused, Traced.outcome_bind]
  rfl

theorem process_broken {payload : Value} (broken : generator.verdict descriptor = .broken payload) :
    ((Pipeline.mk generator printer failFast).process descriptor).outcome =
      .error (.kind (.notShape payload)) := by
  obtain ⟨isSum, stray, showable⟩ := Generator.verdict_eq_broken.mp broken
  have refused := generator.generate_stray isSum stray
  rw [Fault.reported, Fault.isShowable, if_pos showable] at refused
  exact process_fault refused fun _ => Fault.noConfusion

/-- What cannot be shown ends both kinds of run, be it the payload, the rejection or the code. -/
theorem process_unshowable (shows : printer.Shows) (hidden : generator.verdict descriptor = .unshowable) :
    ((Pipeline.mk generator printer failFast).process descriptor).outcome =
      .error (.range .unshowable) := by
  by_cases isSum : descriptor.kind = .sum
  · cases stray : descriptor.stray? with
    | some payload =>
      rw [Generator.verdict_of_stray isSum stray] at hidden
      split at hidden
      · cases hidden
      · next unshowable =>
        have refused := generator.generate_stray isSum stray
        rw [Fault.reported, Fault.isShowable, if_neg unshowable] at refused
        exact process_fault refused fun _ => Fault.noConfusion
    | none =>
      rw [Generator.verdict_of_unstray isSum stray] at hidden
      split at hidden
      · cases hidden
      · next unshowable =>
        obtain ⟨f, generated⟩ := generator.generate_unstray isSum stray
        have same := Generator.isShowable_of_generate generated
        rw [Bool.not_eq_true] at unshowable
        rw [process_generated generated, shows.fault f (same.trans unshowable)]
        rfl
  · rw [Generator.verdict_of_other isSum] at hidden
    split at hidden
    · cases hidden
    · next unshowable =>
      have refused : (generator.generate descriptor).outcome = .error (.range .unshowable) := by
        rw [generator.generate_other isSum, if_neg unshowable]
      exact process_fault refused fun _ => Fault.noConfusion

end Pipeline

/-! ## All types -/

/-- The batch with the outputs and the failures among the results of types. -/
def Batch.ofResults (results : List (Output ⊕ Failure)) : Batch :=
  ⟨results.filterMap Sum.getLeft?, results.filterMap Sum.getRight?⟩

@[simp] theorem Batch.ofResults_inl (output : Output) (results : List (Output ⊕ Failure)) :
    Batch.ofResults (.inl output :: results) =
      ⟨output :: (Batch.ofResults results).outputs, (Batch.ofResults results).failures⟩ := rfl

@[simp] theorem Batch.ofResults_inr (failure : Failure) (results : List (Output ⊕ Failure)) :
    Batch.ofResults (.inr failure :: results) =
      ⟨(Batch.ofResults results).outputs, failure :: (Batch.ofResults results).failures⟩ := rfl

/-- Every result is an output or a failure. -/
theorem Batch.length_ofResults (results : List (Output ⊕ Failure)) :
    (Batch.ofResults results).outputs.length + (Batch.ofResults results).failures.length =
      results.length := by
  induction results with
  | nil => rfl
  | cons result results ih =>
    cases result with
    | inl output =>
      simp only [ofResults_inl, List.length_cons]
      omega
    | inr failure =>
      simp only [ofResults_inr, List.length_cons]
      omega

namespace Pipeline

/-- A run does the types one by one and sorts the results. -/
theorem run_outcome (pipeline : Pipeline) (descriptors : List Descriptor) :
    (pipeline.run descriptors).outcome =
      (descriptors.mapM fun descriptor => (pipeline.process descriptor).outcome).map
        Batch.ofResults := by
  have sorted : (pipeline.processAll descriptors).outcome =
      (descriptors.mapM fun descriptor => (pipeline.process descriptor).outcome).map
        Batch.ofResults := by
    induction descriptors with
    | nil => rfl
    | cons descriptor descriptors ih =>
      rw [processAll, Traced.outcome_bind, List.mapM_cons]
      cases (pipeline.process descriptor).outcome with
      | error fault => rfl
      | ok result =>
        simp only [Outcome.ok_bind, Traced.outcome_bind, ih]
        cases descriptors.mapM fun descriptor => (pipeline.process descriptor).outcome with
        | error fault => rfl
        | ok results => cases result <;> rfl
  unfold run
  rw [Traced.outcome_bind, sorted]
  cases descriptors.mapM fun descriptor => (pipeline.process descriptor).outcome with
  | error fault => rfl
  | ok results => rfl

/-- No type is lost, and none is counted twice. -/
theorem run_length {pipeline : Pipeline} {descriptors : List Descriptor} {batch : Batch}
    (returned : (pipeline.run descriptors).outcome = .ok batch) :
    batch.outputs.length + batch.failures.length = descriptors.length := by
  rw [run_outcome] at returned
  obtain ⟨results, mapped, rfl⟩ := Outcome.map_eq_ok.mp returned
  rw [Batch.length_ofResults, (Outcome.mapM_eq_ok.mp mapped).length_eq]

variable {generator : Generator} {printer : Printer} {descriptor : Descriptor}

/-- A run that goes on has a result for every type that is good or rejected. -/
theorem process_tolerant (shows : printer.Shows)
    (fine : generator.verdict descriptor = .good ∨ generator.verdict descriptor = .rejected) :
    ∃ result, ((Pipeline.mk generator printer false).process descriptor).outcome = .ok result := by
  rcases fine with good | rejected
  · obtain ⟨output, _, processed⟩ := process_good shows good
    exact ⟨_, processed false⟩
  · exact ⟨_, process_rejected rejected⟩

/-- A type is good or rejected if a run that goes on has a result for it. -/
theorem process_eq_ok (shows : printer.Shows) {result : Output ⊕ Failure}
    (processed : ((Pipeline.mk generator printer false).process descriptor).outcome = .ok result) :
    (descriptor.kind = .sum ∧ ∃ output, result = .inl output ∧
        output.IsOf generator printer descriptor) ∨
      (descriptor.kind ≠ .sum ∧ result = .inr (Failure.ofType generator descriptor)) := by
  cases verdict : generator.verdict descriptor with
  | good =>
    obtain ⟨output, isOf, same⟩ := process_good shows verdict
    cases (same false).symm.trans processed
    exact .inl ⟨(Generator.verdict_eq_good.mp verdict).1, output, rfl, isOf⟩
  | rejected =>
    cases (process_rejected verdict).symm.trans processed
    exact .inr ⟨(Generator.verdict_eq_rejected.mp verdict).1, rfl⟩
  | broken payload => cases (process_broken verdict).symm.trans processed
  | unshowable => cases (process_unshowable shows verdict).symm.trans processed

end Pipeline

/-- The outputs at the places for a name. -/
def Batch.outputsFor (batch : Batch) (name : Text) : List Output :=
  (batch.indicesFor name).filterMap fun index => batch.outputs[index]?

/-- The places for a name are those of all outputs with that name, in order. -/
theorem Batch.outputsFor_eq (batch : Batch) (name : Text) :
    batch.outputsFor name = batch.outputs.filter fun output => output.typeName == name := by
  have placed : ∀ place ∈ batch.outputs.zipIdx.filter (fun place => place.1.typeName == name),
      batch.outputs[place.2]? = some place.1 := fun place member =>
    List.mk_mem_zipIdx_iff_getElem?.mp (List.mem_of_mem_filter member)
  calc batch.outputsFor name
      = (batch.outputs.zipIdx.filter fun place => place.1.typeName == name).filterMap
          fun place => batch.outputs[place.2]? := by
        rw [outputsFor, indicesFor, List.filterMap_map]
        rfl
    _ = (batch.outputs.zipIdx.filter fun place => place.1.typeName == name).map Prod.fst := by
        rw [List.filterMap_congr placed, List.filterMap_eq_map']
    _ = batch.outputs.filter fun output => output.typeName == name := by
        conv_rhs => rw [← List.zipIdx_map_fst 0 batch.outputs, List.filter_map]
        rfl

/-- A batch divides types: sum types into outputs, all others into failures, in order. -/
structure Batch.Divides (generator : Generator) (printer : Printer)
    (descriptors : List Descriptor) (batch : Batch) : Prop where
  outputs : List.Forall₂ (Output.IsOf generator printer)
    (descriptors.filter fun descriptor => descriptor.kind = .sum) batch.outputs
  failures : batch.failures =
    (descriptors.filter fun descriptor => descriptor.kind ≠ .sum).map (Failure.ofType generator)

namespace Batch.Divides

variable {generator : Generator} {printer : Printer} {descriptors : List Descriptor} {batch : Batch}

theorem ofResults {results : List (Output ⊕ Failure)} (shows : printer.Shows)
    (each : List.Forall₂ (fun descriptor result =>
      ((Pipeline.mk generator printer false).process descriptor).outcome = .ok result)
      descriptors results) :
    (Batch.ofResults results).Divides generator printer descriptors := by
  induction each with
  | nil => exact ⟨.nil, rfl⟩
  | cons processed _ ih =>
    rcases Pipeline.process_eq_ok shows processed with ⟨isSum, output, rfl, isOf⟩ | ⟨other, rfl⟩
    · refine ⟨?_, ?_⟩
      · simpa [isSum] using ⟨isOf, ih.outputs⟩
      · simpa [isSum] using ih.failures
    · refine ⟨?_, ?_⟩
      · simpa [other] using ih.outputs
      · simpa [other] using ih.failures

theorem succeeded_iff (divides : batch.Divides generator printer descriptors) :
    batch.succeeded = true ↔ ∀ descriptor ∈ descriptors, descriptor.kind = .sum := by
  simp [Batch.succeeded, divides.failures, List.isEmpty_iff]

/-- The outputs for a name belong to the sum types of that name. -/
theorem outputsFor (divides : batch.Divides generator printer descriptors) (name : Text) :
    List.Forall₂ (Output.IsOf generator printer)
      (descriptors.filter fun descriptor => descriptor.kind = .sum ∧ descriptor.name = name)
      (batch.outputsFor name) := by
  have agree : ∀ descriptor output, Output.IsOf generator printer descriptor output →
      (decide (descriptor.name = name) ↔ output.typeName == name) := fun descriptor output isOf => by
    simp [isOf.named]
  rw [batch.outputsFor_eq]
  simpa [List.filter_filter, Bool.and_comm] using
    List.rel_filter (fun {descriptor output} => agree descriptor output) divides.outputs

end Batch.Divides

/-! ## Runs -/

namespace Pipeline

variable {generator : Generator} {printer : Printer} {descriptors : List Descriptor}
  {descriptor : Descriptor} {fault : Fault}

/-- How a type ends a run that goes on. -/
def StopsAt (generator : Generator) (descriptor : Descriptor) (fault : Fault) : Prop :=
  (∃ payload, generator.verdict descriptor = .broken payload ∧ fault = .kind (.notShape payload)) ∨
    generator.verdict descriptor = .unshowable ∧ fault = .range .unshowable

theorem process_eq_error (shows : printer.Shows) :
    ((Pipeline.mk generator printer false).process descriptor).outcome = .error fault ↔
      StopsAt generator descriptor fault := by
  unfold StopsAt
  cases verdict : generator.verdict descriptor with
  | good =>
    obtain ⟨output, _, processed⟩ := process_good shows verdict
    simp [processed]
  | rejected => simp [process_rejected verdict]
  | broken payload => simp [process_broken verdict, eq_comm]
  | unshowable => simp [process_unshowable shows verdict, eq_comm]

theorem process_failFast_eq_error (shows : printer.Shows) :
    ((Pipeline.mk generator printer true).process descriptor).outcome = .error fault ↔
      generator.verdict descriptor = .rejected ∧ fault = .rejected (generator.rejection descriptor) ∨
        StopsAt generator descriptor fault := by
  unfold StopsAt
  cases verdict : generator.verdict descriptor with
  | good =>
    obtain ⟨output, _, processed⟩ := process_good shows verdict
    simp [processed]
  | rejected => simp [process_rejected_failFast verdict, eq_comm]
  | broken payload => simp [process_broken verdict, eq_comm]
  | unshowable => simp [process_unshowable shows verdict, eq_comm]

theorem exists_stopsAt :
    (∃ fault, StopsAt generator descriptor fault) ↔
      (∃ payload, generator.verdict descriptor = .broken payload) ∨
        generator.verdict descriptor = .unshowable := by
  unfold StopsAt
  cases generator.verdict descriptor <;> simp

theorem run_eq_error (shows : printer.Shows) :
    ((Pipeline.mk generator printer false).run descriptors).outcome = .error fault ↔
      ∃ descriptor, Outcome.First (fun descriptor => ∃ fault, StopsAt generator descriptor fault)
          descriptors descriptor ∧ StopsAt generator descriptor fault := by
  simp only [run_outcome, Outcome.map_eq_error, Outcome.mapM_eq_error, process_eq_error shows]

/-- A run over types whose payloads are shapes ends early only because something cannot be shown. -/
theorem run_of_hidden (shows : printer.Shows)
    (shaped : ∀ descriptor ∈ descriptors, ∀ variant ∈ descriptor.variants,
      ∃ shape, variant.payload.classify = .ok shape)
    (hidden : ∃ descriptor ∈ descriptors, ¬ generator.CanShow descriptor) :
    ((Pipeline.mk generator printer false).run descriptors).outcome = .error (.range .unshowable) := by
  obtain ⟨descriptor, member, canNot⟩ := hidden
  have stops := (Generator.verdict_unshowable_iff (shaped descriptor member)).mpr canNot
  have stopped : ∃ fault, StopsAt generator descriptor fault := exists_stopsAt.mpr (.inr stops)
  obtain ⟨first, firstStop⟩ := Outcome.exists_first
    (p := fun descriptor => ∃ fault, StopsAt generator descriptor fault) |>.mpr
    ⟨descriptor, member, stopped⟩
  rw [run_eq_error shows]
  refine ⟨first, firstStop, ?_⟩
  rcases exists_stopsAt.mp firstStop.holds with ⟨payload, broken⟩ | unshowable
  · exact absurd broken (Generator.verdict_of_shaped (shaped first firstStop.mem) payload)
  · exact .inr ⟨unshowable, rfl⟩

/-- A run that goes on divides the types, if each of them is good or rejected. -/
theorem run_divides (shows : printer.Shows)
    (fine : ∀ descriptor ∈ descriptors,
      generator.verdict descriptor = .good ∨ generator.verdict descriptor = .rejected) :
    ∃ batch, ((Pipeline.mk generator printer false).run descriptors).outcome = .ok batch ∧
      batch.Divides generator printer descriptors := by
  obtain ⟨results, mapped⟩ := Outcome.exists_mapM_eq_ok fun descriptor member =>
    process_tolerant shows (fine descriptor member)
  refine ⟨Batch.ofResults results, ?_, .ofResults shows (Outcome.mapM_eq_ok.mp mapped)⟩
  rw [run_outcome, mapped]
  rfl

/-- Whatever a run returns that goes on divides the types. -/
theorem divides_of_run (shows : printer.Shows) {batch : Batch}
    (returned : ((Pipeline.mk generator printer false).run descriptors).outcome = .ok batch) :
    batch.Divides generator printer descriptors := by
  rw [run_outcome] at returned
  obtain ⟨results, mapped, rfl⟩ := Outcome.map_eq_ok.mp returned
  exact .ofResults shows (Outcome.mapM_eq_ok.mp mapped)

/-- Stopping at failures makes no difference to good types. -/
theorem run_failFast_eq (shows : printer.Shows)
    (good : ∀ descriptor ∈ descriptors, generator.verdict descriptor = .good) :
    ((Pipeline.mk generator printer true).run descriptors).outcome =
      ((Pipeline.mk generator printer false).run descriptors).outcome := by
  rw [run_outcome, run_outcome, Outcome.mapM_congr fun descriptor member => ?_]
  obtain ⟨output, _, processed⟩ := process_good shows (good descriptor member)
  rw [processed true, processed false]

/-- A run that stops at failures ends at the first type that is not good. -/
theorem run_failFast_eq_error (shows : printer.Shows) :
    ((Pipeline.mk generator printer true).run descriptors).outcome = .error fault ↔
      ∃ descriptor, Outcome.First (fun descriptor => generator.verdict descriptor ≠ .good)
          descriptors descriptor ∧
        (generator.verdict descriptor = .rejected ∧
            fault = .rejected (generator.rejection descriptor) ∨
          StopsAt generator descriptor fault) := by
  have stops : (fun descriptor => ∃ fault,
      ((Pipeline.mk generator printer true).process descriptor).outcome = .error fault) =
      fun descriptor => generator.verdict descriptor ≠ .good := by
    funext descriptor
    simp only [process_failFast_eq_error shows, StopsAt]
    cases generator.verdict descriptor <;> simp
  rw [run_outcome, Outcome.map_eq_error, Outcome.mapM_eq_error, stops]
  simp only [process_failFast_eq_error shows]

end Pipeline

end VariantIter
