import VariantIter.Dialect

/-!
The template of each dialect.

Both declare the state of an iterator, the mapping from indices to variants, the operation that produces
the next variant, and the operation of the type that starts an iteration.
-/

namespace VariantIter.Template

def rustLines : List String :=
  ["// Generated by enumerant: \x7b\x7b fragment.capability \x7d\x7d for \x7b\x7b fragment.type_name \x7d\x7d.",
    "",
    "#[allow(non_camel_case_types)]",
    "#[derive(Debug, Clone)]",
    "\x7b\x7b state.visibility | visibility \x7d\x7dstruct \x7b\x7b state.name \x7d\x7d \x7b",
    "    \x7b\x7b state.counter \x7d\x7d: usize,",
    "\x7d",
    "",
    "impl \x7b\x7b entry.owner \x7d\x7d \x7b",
    "    /// Returns an iterator over every variant of `\x7b\x7b entry.owner \x7d\x7d` in declaration order.",
    "    #[allow(dead_code)]",
    "    \x7b\x7b entry.visibility | visibility \x7d\x7dfn \x7b\x7b entry.name \x7d\x7d() -> \x7b\x7b entry.returns \x7d\x7d \x7b",
    "        \x7b\x7b state.name \x7d\x7d \x7b \x7b\x7b state.counter \x7d\x7d: \x7b\x7b state.initial \x7d\x7d \x7d",
    "    \x7d",
    "\x7d",
    "",
    "impl \x7b\x7b state.name \x7d\x7d \x7b",
    "    fn \x7b\x7b mapping.name \x7d\x7d(\x7b\x7b mapping.param \x7d\x7d: usize) -> \x7b\x7b mapping.owner \x7d\x7d \x7b",
    "        match \x7b\x7b mapping.param \x7d\x7d \x7b",
    "\x7b% for branch in mapping.branches %\x7d",
    "            \x7b\x7b branch.index \x7d\x7d => \x7b\x7b branch.construction | construct \x7d\x7d,",
    "\x7b% endfor %\x7d",
    "            _ => unreachable!(\x7b\x7b mapping.fallback.message | quote \x7d\x7d),",
    "        \x7d",
    "    \x7d",
    "\x7d",
    "",
    "impl ::core::iter::Iterator for \x7b\x7b state.name \x7d\x7d \x7b",
    "    type Item = \x7b\x7b next_op.owner \x7d\x7d;",
    "",
    "    fn next(&mut self) -> ::core::option::Option<Self::Item> \x7b",
    "        if self.\x7b\x7b next_op.counter \x7d\x7d >= \x7b\x7b next_op.length \x7d\x7d \x7b",
    "            return ::core::option::Option::None;",
    "        \x7d",
    "        let output = Self::\x7b\x7b next_op.mapping \x7d\x7d(self.\x7b\x7b next_op.counter \x7d\x7d);",
    "        self.\x7b\x7b next_op.counter \x7d\x7d += 1;",
    "        ::core::option::Option::Some(output)",
    "    \x7d",
    "\x7d"]

def pythonLines : List String :=
  ["# Generated by enumerant: \x7b\x7b fragment.capability \x7d\x7d for \x7b\x7b fragment.type_name \x7d\x7d.",
    "",
    "",
    "class \x7b\x7b state.name \x7d\x7d:",
    "    \"\"\"Yields every variant of \x7b\x7b entry.owner \x7d\x7d in declaration order.\"\"\"",
    "",
    "    def __init__(self):",
    "        self.\x7b\x7b state.counter \x7d\x7d = \x7b\x7b state.initial \x7d\x7d",
    "",
    "    def __iter__(self):",
    "        return self",
    "",
    "    @staticmethod",
    "    def \x7b\x7b mapping.name \x7d\x7d(\x7b\x7b mapping.param \x7d\x7d):",
    "\x7b% for branch in mapping.branches %\x7d",
    "        if \x7b\x7b mapping.param \x7d\x7d == \x7b\x7b branch.index \x7d\x7d:",
    "            return \x7b\x7b branch.construction | construct \x7d\x7d",
    "\x7b% endfor %\x7d",
    "        raise AssertionError(\x7b\x7b mapping.fallback.message | quote \x7d\x7d)",
    "",
    "    def __next__(self):",
    "        if self.\x7b\x7b next_op.counter \x7d\x7d >= \x7b\x7b next_op.length \x7d\x7d:",
    "            raise StopIteration",
    "        output = self.\x7b\x7b next_op.mapping \x7d\x7d(self.\x7b\x7b next_op.counter \x7d\x7d)",
    "        self.\x7b\x7b next_op.counter \x7d\x7d += 1",
    "        return output",
    "",
    "",
    "\x7b\x7b entry.owner \x7d\x7d.\x7b\x7b entry.name \x7d\x7d = classmethod(lambda cls: \x7b\x7b entry.returns \x7d\x7d())"]

def bundledLines : Dialect → List String
  | .rust => rustLines
  | .python => pythonLines

/-- The template of a dialect; every line ends in a line feed. -/
def bundled (dialect : Dialect) : List Char :=
  (bundledLines dialect).flatMap fun line => line.toList ++ ['\n']

end VariantIter.Template
