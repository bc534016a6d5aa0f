import VariantIter.Arguments
import VariantIter.Descriptor.Load
import VariantIter.Pipeline
import VariantIter.Settings.Load

/-!
The command: it reads settings and descriptors and writes the iterators of all sum types.

It ends with 0 if every type was generated, with 1 if one was rejected, and with 2 if settings,
descriptors or arguments are at fault.
-/

namespace VariantIter.Command

def usage : Text :=
  "usage: enumerant-gen [-h] [--target \x7brust,python\x7d] [--out OUT]\n" ++
    "                     [--config CONFIG] [--fail-fast] [--log-level LOG_LEVEL]\n" ++
    "                     descriptors\n"

def help : Text :=
  usage ++
    "\n" ++
    "Generate variant iterators for sum types\n" ++
    "\n" ++
    "positional arguments:\n" ++
    "  descriptors           JSON or YAML file with type descriptors\n" ++
    "\n" ++
    "options:\n" ++
    "  -h, --help            show this help message and exit\n" ++
    "  --target \x7brust,python\x7d\n" ++
    "                        Target dialect (default from config)\n" ++
    "  --out OUT             Write generated code to this file instead of stdout\n" ++
    "  --config CONFIG       Configuration file (JSON or YAML)\n" ++
    "  --fail-fast           Stop at the first type that is not a sum type\n" ++
    "  --log-level LOG_LEVEL\n" ++
    "                        Logging level (DEBUG, INFO, WARNING, ERROR)\n"

/-- The level of the log: from the arguments, if it is not empty, or from the settings. -/
def logLevel (arguments : Arguments) (settings : Settings) : Value :=
  match arguments.logLevel.getD [] with
  | [] => settings.logging.level
  | level => .text level

/-- The file of the log, if it is enabled. -/
def logFile (settings : Settings) : Value :=
  if settings.logging.enableFile.truthy then settings.logging.file else .null

/-- The target: from the arguments or from the settings. -/
def target (arguments : Arguments) (settings : Settings) : Value :=
  match arguments.target with
  | some dialect => .text dialect.name
  | none => settings.generation.target

/-- Everything up to the output: settings, logging, descriptors and the run. -/
def generate (arguments : Arguments) : Action Batch := do
  let settings ← Settings.load arguments.config
  Action.setUpLogging (logLevel arguments settings) (logFile settings)
  let generator ← Action.ofExcept (Generator.make settings.generation none)
  let printer ← Action.ofExcept (Printer.ofValue (target arguments settings))
  let pipeline : Pipeline := ⟨generator, printer, arguments.failFast⟩
  let descriptors ← Descriptor.load arguments.descriptors
  Action.ofTraced (pipeline.run descriptors)

/-- The exit code for a fault that is reported; others end the command as they are. -/
def exitCode? : Fault → Option Nat
  | .rejected _ => some 1
  | .descriptor _ _ | .rendering _ _ _ | .settings _ _ | .file _ _ | .byteFile _ _ => some 2
  | _ => none

/-- The text goes to a file, if one is given, or to the console. -/
def emit (arguments : Arguments) (text : Text) : Action Unit :=
  match arguments.out.getD [] with
  | [] => Action.print text
  | file => Action.writeSpelled file text

def reportError (message : Text) : Action Unit :=
  Action.update fun world => world.printError ("error: " ++ message ++ "\n")

def report (failures : List Failure) : Action Unit :=
  failures.forM fun failure =>
    reportError (failure.typeName ++ ": " ++ failure.rejection.message)

/-- Writes what was generated, then reports the failures. -/
def finish (arguments : Arguments) (batch : Batch) : Action Nat := do
  emit arguments (batch.render Batch.separator)
  report batch.failures
  return if batch.succeeded then 0 else 1

/-- Runs the command on parsed arguments. -/
def execute (arguments : Arguments) : Action Nat := do
  match ← Action.attempt (generate arguments) with
  | .ok batch => finish arguments batch
  | .error fault => match exitCode? fault with
    | some code => do
        reportError fault.text
        return code
    | none => Action.fail fault

/-- Runs the command on the words of a command line. -/
def run (words : List Text) : Action Nat :=
  match Arguments.parse words with
  | .ok arguments => execute arguments
  | .error .help => do
      Action.print help
      return 0
  | .error (.misuse cause) => do
      Action.update fun world =>
        world.printError (usage ++ "enumerant-gen: error: " ++ cause.message ++ "\n")
      return 2

end VariantIter.Command
