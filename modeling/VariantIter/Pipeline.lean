import VariantIter.Fragment.Generate
import VariantIter.Printer
import VariantIter.Text.Blank

/-!
Many types in one run.

Each type is generated on its own. A type that is not a sum type is recorded as a failure, and the others
are still generated, unless the run is to stop at the first failure.
-/

namespace VariantIter

/-- The fragment of a type and its text. -/
structure Output where
  typeName : Text
  fragment : Fragment
  text : Text

/-- A type that was rejected. -/
structure Failure where
  typeName : Text
  rejection : Rejection

/-- Outputs and failures of a run, each in the order of the input. -/
structure Batch where
  outputs : List Output := []
  failures : List Failure := []

namespace Batch

def succeeded (batch : Batch) : Bool :=
  batch.failures.isEmpty

/-- The places of the outputs of types with a given name. -/
def indicesFor (batch : Batch) (name : Text) : List Nat :=
  (batch.outputs.zipIdx.filter fun (output, _) => output.typeName == name).map Prod.snd

/-- A text without the line feeds at its end. -/
def withoutLineEnd (text : Text) : Text :=
  Text.dropRight (· == .char '\n') text

/-- What stands between two outputs. -/
def separator : Text := "\n\n"

/-- All outputs, joined and followed by one line feed. -/
def render (batch : Batch) (separator : Text) : Text :=
  if batch.outputs.isEmpty then []
  else Text.joined separator (batch.outputs.map fun output => withoutLineEnd output.text) ++ "\n"

end Batch

structure Pipeline where
  generator : Generator
  printer : Printer
  failFast : Bool := false

namespace Pipeline

/-- A pipeline of the given parts. The default generator and the printer of the generator's target stand
in for parts that are not given. -/
def make (generator : Option Generator) (printer : Option Printer) (failFast : Bool) :
    Except Fault Pipeline := do
  let generator ← match generator with
    | some generator => pure generator
    | none => Generator.make {} none
  return ⟨generator, printer.getD (.ofDialect generator.recipe.target), failFast⟩

/-- What is recorded about a type that is left out. -/
def skipped (failure : Failure) : Log.Record :=
  ⟨Log.pipelineLogger, Log.warning,
    "Skipping " ++ failure.typeName ++ ": " ++ failure.rejection.message⟩

/-- What is recorded at the end of a run. -/
def finished (batch : Batch) : Log.Record :=
  ⟨Log.pipelineLogger, Log.info,
    "Pipeline finished: " ++ Text.ofNat batch.outputs.length ++ " generated, " ++
      Text.ofNat batch.failures.length ++ " failed"⟩

/-- One type: an output, or a failure if it is rejected and the run goes on. -/
def process (pipeline : Pipeline) (descriptor : Descriptor) : Traced (Output ⊕ Failure) :=
  let generated := pipeline.generator.generate descriptor
  match generated.outcome, pipeline.failFast with
  | .error (.rejected rejection), false =>
      let failure : Failure := ⟨descriptor.name, rejection⟩
      ⟨generated.records ++ [skipped failure], .ok (.inr failure)⟩
  | _, _ => do
      let fragment ← generated
      let text ← pipeline.printer.render fragment
      return .inl ⟨descriptor.name, fragment, text⟩

/-- The types one after another. -/
def processAll (pipeline : Pipeline) : List Descriptor → Traced Batch
  | [] => pure {}
  | descriptor :: descriptors => do
      let result ← pipeline.process descriptor
      let batch ← processAll pipeline descriptors
      return match result with
        | .inl output => { batch with outputs := output :: batch.outputs }
        | .inr failure => { batch with failures := failure :: batch.failures }

/-- Generates and prints every type. -/
def run (pipeline : Pipeline) (descriptors : List Descriptor) : Traced Batch := do
  let batch ← pipeline.processAll descriptors
  Traced.emit (finished batch)
  return batch

/-- Runs the default generator with the printer of the dialect that a value names. -/
def runDefault (dialect : Value) (failFast : Bool) (descriptors : List Descriptor) :
    Traced Batch := do
  let printer ← Traced.ofExcept (Printer.ofValue dialect)
  let pipeline ← Traced.ofExcept (make none (some printer) failFast)
  pipeline.run descriptors

end Pipeline

end VariantIter
