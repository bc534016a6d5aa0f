import VariantIter.Log.Traced
import VariantIter.Options
import VariantIter.Template.Bundled
import VariantIter.Template.Render

/-!
Printers: fragments as source text of a dialect.
-/

namespace VariantIter

/-- A dialect with what lays out its declarations: the text of a fragment, before anything is recorded. -/
structure Printer where
  dialect : Dialect
  layOut : Fragment → Except Fault Text

namespace Printer

/-- The dialect that a value names. Collections name nothing that could be looked up. -/
def dialectOf (value : Value) : Except Fault Dialect :=
  match value.unhashable? with
  | some kind => .error (.kind (.notHashable kind))
  | none => Options.checkTarget value

/-- The text of a fragment in the layout of a template, or of none for the given reason. -/
def fill (dialect : Dialect) (template : Except TemplateFault (List Char)) (f : Fragment) :
    Except Fault Text :=
  match template with
  | .error fault => .error (.rendering f.typeName fault dialect.name)
  | .ok source => match Template.render source dialect f with
    | .ok text => .ok text
    | .error (.template fault) => .error (.rendering f.typeName fault dialect.name)
    | .error (.other fault) => .error fault

/-- The printer of a dialect with its own template. -/
def ofDialect (dialect : Dialect) : Printer :=
  ⟨dialect, fill dialect (.ok (Template.bundled dialect))⟩

/-- The printer of the dialect that a value names. -/
def ofValue (value : Value) : Except Fault Printer := do
  return ofDialect (← dialectOf value)

/-- The name of the file that holds a template. -/
def templateFile : Text := "fragment.j2"

/-- The printer of the dialect that a value names, with the template found in a directory. -/
def ofTemplate (value : Value) (directory : Text) (template : Option (List Char)) :
    Except Fault Printer := do
  let dialect ← dialectOf value
  return ⟨dialect, fill dialect (match template with
    | some source => .ok source
    | none => .error (.notFound templateFile directory))⟩

/-- The text of a fragment. -/
def render (printer : Printer) (f : Fragment) : Traced Text := do
  let text ← Traced.ofExcept (printer.layOut f)
  Traced.emit <| (Log.Event.rendered (.text f.typeName) (.text printer.dialect.name)
    (.int text.length)).record Log.rendererLogger
  return text

end Printer

end VariantIter
