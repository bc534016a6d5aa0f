import VariantIter.Value.Display

/-!
Records of what happens.

A component reports events under its own logger, each with a level and a message.
-/

namespace VariantIter.Log

def debug : Int := 10
def info : Int := 20
def warning : Int := 30
def error : Int := 40
def critical : Int := 50

/-- The name of a level in a line of the log. -/
def levelName (level : Int) : Text :=
  if level = 0 then "NOTSET"
  else if level = debug then "DEBUG"
  else if level = info then "INFO"
  else if level = warning then "WARNING"
  else if level = error then "ERROR"
  else if level = critical then "CRITICAL"
  else "Level " ++ Text.ofInt level

structure Record where
  logger : Text
  level : Int
  message : Text
deriving DecidableEq, Repr

/-- What the names of the components start with. -/
def packageStart : Text := "enumerant."

/-- The name under which a component logs: names outside of the package are put into it. -/
def loggerName (name : Text) : Text :=
  if name == "enumerant" || packageStart.isPrefixOf name then name else packageStart ++ name

def generatorLogger : Text := "enumerant.codegen.generator"
def rendererLogger : Text := "enumerant.codegen.templates.renderer"
def descriptorsLogger : Text := "enumerant.codegen.descriptors"
def pipelineLogger : Text := "enumerant.pipeline.generation"
def settingsLogger : Text := "enumerant.config.settings"

/-- What is worth tracing while a type is turned into code. -/
inductive Event where
  | generationStart (type count : Value)
  | branch (index variant shape : Value)
  | generationFailure (type reason : Value)
  | rendered (type dialect length : Value)

namespace Event

def level : Event → Int
  | .generationFailure _ _ => error
  | _ => debug

def message : Event → Text
  | .generationStart type count =>
      "Generating variant iterator for " ++ type.display ++ " (" ++ count.display ++ " variants)"
  | .branch index variant shape =>
      "Branch " ++ index.display ++ ": " ++ variant.display ++ " (" ++ shape.display ++ ")"
  | .generationFailure type reason =>
      "Generation failed for " ++ type.display ++ ": " ++ reason.display
  | .rendered type dialect length =>
      "Rendered " ++ type.display ++ " as " ++ dialect.display ++ " (" ++ length.display ++
        " chars)"

/-- The record of an event under a logger. -/
def record (event : Event) (logger : Text) : Record :=
  ⟨logger, event.level, event.message⟩

end Event

end VariantIter.Log
