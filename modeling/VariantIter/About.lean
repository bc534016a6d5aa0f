import VariantIter.Options

/-!
What the program says about itself.
-/

namespace VariantIter.About

def version : Text := "0.1.0"

def author : Text := "Enumerant Team"

def dialects : List Text :=
  Dialect.all.map Dialect.name

/-- The facts in order. -/
def facts : Entries :=
  let defaults : Options := {}
  [(.text "version", .text version), (.text "author", .text author),
    (.text "dialects", .list (dialects.map Value.text)),
    (.text "capability", defaults.capability), (.text "default_target", defaults.target)]

/-- The facts about the system that it runs on, by name. -/
def systemFacts : List Text :=
  ["jinja2_version", "platform", "python_version", "yaml_version"]

/-- The facts as they are printed. -/
def text : Text :=
  let defaults : Options := {}
  let line : Text := List.replicate 40 (.char '=')
  "Enumerant Variant Iterator Generator\n" ++
    line ++ "\n" ++
    "\nEnumerant Version: " ++ version ++ "\n" ++
    "Author: " ++ author ++ "\n" ++
    "Capability: " ++ defaults.capability.display ++ "\n" ++
    "Dialects: " ++ Text.joined ", " dialects ++ " (default: " ++ defaults.target.display ++
    ")\n"

end VariantIter.About
