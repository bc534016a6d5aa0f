/-!
Tags: what kind of value a YAML node has.
-/

namespace VariantIter.Yaml

inductive Tag where
  | null
  | bool
  | int
  | double
  | binary
  | timestamp
  | text
  | sequence
  | mapping
  | set
  | orderedMap
  | pairs
  /-- The key of a pair that brings in the pairs of other mappings. -/
  | merge
  /-- The key of the pair that stands for its mapping where a scalar is asked for. -/
  | default
  | unknown
deriving DecidableEq, Repr

namespace Tag

/-- What the names of the common tags start with. -/
def commonStart : String := "tag:yaml.org,2002:"

def common : List (String × Tag) :=
  [("null", .null), ("bool", .bool), ("int", .int), ("float", .double), ("binary", .binary),
    ("timestamp", .timestamp), ("str", .text), ("seq", .sequence), ("map", .mapping), ("set", .set),
    ("omap", .orderedMap), ("pairs", .pairs), ("merge", .merge), ("value", .default)]

/-- The tag of a full name. -/
def ofName (name : String) : Tag :=
  match common.find? fun entry => commonStart ++ entry.1 == name with
  | some (_, tag) => tag
  | none => .unknown

end Tag

end VariantIter.Yaml
