import VariantIter.Document
import VariantIter.Json.Writer
import VariantIter.Settings.Basic
import VariantIter.Yaml.Writer

/-!
Saving of settings.
-/

namespace VariantIter.Settings

def toEntries (settings : Settings) : Entries :=
  [(.text "version", .text "1.0"), (.text "description", .text "Enumerant Configuration"),
    (.text "generation", .map settings.generation.toEntries),
    (.text "logging", .map settings.logging.toEntries)]

/-- The text of the settings in the format of their file, and the fault that cut it short. -/
def document (settings : Settings) : String × Option Fault :=
  if Document.isYaml settings.file then
    match Yaml.write settings.toEntries with
    | some text => (text, none)
    | none => ("", some (.range .unshowable))
  else
    let (text, stopped) := Json.write (.map settings.toEntries)
    (text, stopped.map fun
      | .value kind => .kind (.notWritable kind)
      | .key kind => .kind (.notWritableKey kind)
      | .tooManyDigits => .range .unshowable
      | .circular => .range .circular)

/-- Writes the settings to their file. -/
def save (settings : Settings) : Action Unit := do
  let (text, fault) := settings.document
  Action.write settings.file (.text text)
  match fault with
  | some fault => Action.fail fault
  | none => Action.record (logged Log.info ("Configuration saved to " ++ settings.file.text))

end VariantIter.Settings
