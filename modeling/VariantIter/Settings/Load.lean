import VariantIter.Document
import VariantIter.Settings.Basic

/-!
Loading of settings.

Two variables of the environment go before the file: one for the target, if it is not empty, and one for
the level of the log.
-/

namespace VariantIter.Settings

/-! ## Sections -/

/-- The key and value that an item at an index stands for. -/
def pairOf (index : Nat) (item : Value) : Except Fault (Value × Value) :=
  match item.items? with
  | none => .error (.kind (.notSequence index))
  | some [key, value] => match key.unhashable? with
    | some kind => .error (.kind (.notHashable kind))
    | none => .ok (key, value)
  | some parts => .error (.range (.pairLength index parts.length))

def pairsFrom : (index : Nat) → List Value → Except Fault (List (Value × Value))
  | _, [] => .ok []
  | index, item :: items => do
      let pair ← pairOf index item
      let pairs ← pairsFrom (index + 1) items
      return pair :: pairs

/-- A section as a mapping. A sequence of pairs will do; what does not count as given is empty. -/
def entriesOf (part : Value) : Except Fault Entries :=
  if !part.truthy then .ok []
  else match part.content, part.items? with
    | .map entries, _ => .ok entries
    | _, some items => do return Entries.ofPairs (← pairsFrom 0 items)
    | other, none => .error (.kind (.notIterable other.qualifiedKind))

/-- The options of generation with the target of the environment, if it is not empty. -/
def generationOptions (data : Entries) (target : Option Text) : Except Fault Options := do
  let entries ← entriesOf ((data.get? "generation").getD .null)
  let target := target.getD []
  let entries :=
    if target.isEmpty then entries else entries.put (.text "target_dialect") (.text target)
  let options ← Options.ofEntries entries
  let _ ← options.check
  return options

/-- The options of logging with the level of the environment, if it is set. -/
def loggingOptions (data : Entries) (level : Option Text) : Except Fault LoggingOptions := do
  let part := (data.get? "logging").getD .null
  let entries ←
    if !part.truthy then pure []
    else match part.content with
      | .map entries => pure entries
      | other => throw (.noAttribute other.qualifiedKind "get")
  let defaults : LoggingOptions := {}
  return {
    level := match level with
      | some level => .text level
      | none => (Entries.get? entries "level").getD defaults.level
    enableFile := (Entries.get? entries "enable_file_logging").getD defaults.enableFile
    file := (Entries.get? entries "log_file").getD defaults.file }

/-! ## Loading -/

/-- The value of a settings file. -/
def readDocument (path : Path) (content : Content) : Except Fault Entries :=
  match Document.read (Document.isYaml path) content with
  | .ok value => match value.content with
    | .null => .ok []
    | .map entries => .ok entries
    | _ => .error (.settings (.notMapping path.text) none)
  | .error (.unreadable detail) => .error (.settings (.unreadable path.text detail) none)
  | .error (.fault fault) => .error fault

/-- The data at a path. A missing file is a fault only if it was asked for. -/
def readData (explicit : Bool) (path : Path) : Action Entries := do
  if ← Action.hasEntry path then
    let content ← Action.read path
    let data ← Action.ofExcept (readDocument path content)
    Action.record (logged Log.info ("Loaded configuration from " ++ path.text))
    return data
  else if explicit then Action.fail (.settings (.fileNotFound path.text) none)
  else
    Action.record (logged Log.debug
      ("Configuration file " ++ path.text ++ " not found, using defaults"))
    return []

/-- Loads the settings from a path, or from the file that is found without one. -/
def load (path : Option Text) : Action Settings := do
  let file ← filePath path
  let data ← readData path.isSome file
  let target ← Action.view fun world => world.lookUp? "ENUMERANT_TARGET"
  let level ← Action.view fun world => world.lookUp? "ENUMERANT_LOG_LEVEL"
  let generation ← Action.ofExcept (generationOptions data target)
  let logging ← Action.ofExcept (loggingOptions data level)
  return ⟨file, generation, logging⟩

end VariantIter.Settings
