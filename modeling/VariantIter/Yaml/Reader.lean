import VariantIter.Yaml.Unfold

/-!
Reading YAML: tokens are found in a text, nodes from the tokens, and values from the nodes.
-/

namespace VariantIter.Yaml

/-- Reads the document that a text holds; without one it is null. -/
def read (cs : List Char) : Except Fault Value := do
  match ← compose cs with
  | (_, none) => return .null
  | (nodes, some document) => return valueOf (← build nodes document) document

end VariantIter.Yaml
