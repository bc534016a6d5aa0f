import VariantIter.Options
import VariantIter.World

/-!
Settings: the options of generation and logging that a file holds.

Without a path the first of three file names in the working directory is used, and defaults apply if
there is none.
-/

namespace VariantIter

structure LoggingOptions where
  level : Value := .text "INFO"
  enableFile : Value := .bool false
  file : Value := .text "enumerant.log"

namespace LoggingOptions

def toEntries (logging : LoggingOptions) : Entries :=
  [(.text "level", logging.level), (.text "enable_file_logging", logging.enableFile),
    (.text "log_file", logging.file)]

/-- The options with one of them replaced, unchecked. -/
def set (logging : LoggingOptions) (name : Text) (value : Value) : LoggingOptions :=
  if name == "level" then { logging with level := value }
  else if name == "enable_file_logging" then { logging with enableFile := value }
  else if name == "log_file" then { logging with file := value }
  else logging

end LoggingOptions

structure Settings where
  file : Path
  generation : Options := {}
  logging : LoggingOptions := {}

namespace Settings

/-- The names of files that are looked for. -/
def fileNames : List Text :=
  ["enumerant_config.yaml", "enumerant_config.yml", "enumerant_config.json"]

/-- The file that is used if there is none. -/
def lastFileName : Text := "enumerant_config.json"

def candidate (world : World) (name : Text) : Path :=
  ⟨[Path.slash], world.directory ++ [name]⟩

/-- The first of the given files that is there. -/
def firstPresent : List Path → Action (Option Path)
  | [] => return none
  | path :: paths => do
      if ← Action.hasEntry path then return some path else firstPresent paths

/-- The path of the settings. -/
def filePath (path : Option Text) : Action Path := do
  match path.getD [] with
  | [] => do
      let found ← firstPresent (← Action.view fun world => fileNames.map (candidate world))
      let last ← Action.view fun world => candidate world lastFileName
      return found.getD last
  | text => return Path.ofText text

/-- What is recorded about settings. -/
def logged (level : Int) (message : Text) : Log.Record :=
  ⟨Log.settingsLogger, level, message⟩

end Settings

end VariantIter
