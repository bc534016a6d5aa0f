import VariantIter.Printer
import VariantIter.Proofs.Generation

/-!
What the templates of the dialects print.

`Fragment.code` writes the code of a fragment down part by part: the state, what comes between it and the
branches, one part per branch, and what comes after them. Main statement: printing a generated fragment
with the template of a dialect never fails and gives that code. Names and types are inserted as they are,
whatever characters they hold. Only integers of too many digits, as the capability or as a field type that is
no reference, keep a fragment from being printed.
-/

namespace VariantIter

/-! ## The code of a fragment -/

namespace Fragment

/-- A qualifier with a space after it; nothing at all for a private type. -/
def qualified (visibility : Text) : Text :=
  if visibility = [] then [] else visibility ++ " "

/-- The declaration of the state. -/
def stateParts (dialect : Dialect) (capability : Text) (f : Fragment) : List Text :=
  match dialect with
  | .rust =>
      ["// Generated by enumerant: ", capability, " for ", f.typeName,
        ".\n\n#[allow(non_camel_case_types)]\n#[derive(Debug, Clone)]\n",
        qualified f.state.visibility, "struct ", f.state.name, " \x7b\n    ", f.state.counter,
        ": usize,\n\x7d\n\nimpl "]
  | .python =>
      ["# Generated by enumerant: ", capability, " for ", f.typeName, ".\n\n\nclass ",
        f.state.name, ":\n    \"\"\"Yields every variant of ", f.entry.owner,
        " in declaration order.\"\"\"\n\n    def __init__(self):\n        self.", f.state.counter,
        " = ", Text.ofNat f.state.initial,
        "\n\n    def __iter__(self):\n        return self\n\n    @staticmethod\n    def "]

/-- What stands between the state and the branches. -/
def mappingParts (dialect : Dialect) (f : Fragment) : List Text :=
  match dialect with
  | .rust =>
      [f.entry.owner, " \x7b\n    /// Returns an iterator over every variant of `", f.entry.owner,
        "` in declaration order.\n    #[allow(dead_code)]\n    ", qualified f.entry.visibility,
        "fn ", f.entry.name, "() -> ", f.entry.returns, " \x7b\n        ", f.state.name, " \x7b ",
        f.state.counter, ": ", Text.ofNat f.state.initial, " \x7d\n    \x7d\n\x7d\n\nimpl ",
        f.state.name, " \x7b\n    fn ", f.mapping.name, "(", f.mapping.param, ": usize) -> ",
        f.mapping.owner, " \x7b\n        match ", f.mapping.param, " \x7b\n"]
  | .python =>
      [f.mapping.name, "(", f.mapping.param, "):\n"]

/-- What stands for a branch: one line, or two. -/
def branchParts (dialect : Dialect) (f : Fragment) (branch : Branch) : List Text :=
  match dialect with
  | .rust =>
      ["            ", Text.ofNat branch.index, " => ", Dialect.rust.construct branch.construction,
        ",\n"]
  | .python =>
      ["        if ", f.mapping.param, " == ", Text.ofNat branch.index, ":\n            return ",
        Dialect.python.construct branch.construction, "\n"]

/-- What stands after the branches. -/
def tailParts (dialect : Dialect) (f : Fragment) : List Text :=
  match dialect with
  | .rust =>
      ["            _ => unreachable!(", Text.enclose f.mapping.fallback,
        "),\n        \x7d\n    \x7d\n\x7d\n\nimpl ::core::iter::Iterator for ", f.state.name,
        " \x7b\n    type Item = ", f.next.owner,
        ";\n\n    fn next(&mut self) -> ::core::option::Option<Self::Item> \x7b\n        if self.",
        f.next.counter, " >= ", Text.ofNat f.next.length,
        " \x7b\n            return ::core::option::Option::None;\n        \x7d\n        let output = Self::",
        f.next.mapping, "(self.", f.next.counter, ");\n        self.", f.next.counter,
        " += 1;\n        ::core::option::Option::Some(output)\n    \x7d\n\x7d\n"]
  | .python =>
      ["        raise AssertionError(", Text.enclose f.mapping.fallback,
        ")\n\n    def __next__(self):\n        if self.", f.next.counter, " >= ",
        Text.ofNat f.next.length, ":\n            raise StopIteration\n        output = self.",
        f.next.mapping, "(self.", f.next.counter, ")\n        self.", f.next.counter,
        " += 1\n        return output\n\n\n", f.entry.owner, ".", f.entry.name,
        " = classmethod(lambda cls: ", f.entry.returns, "())\n"]

/-- The code of a fragment that declares the given capability. -/
def code (dialect : Dialect) (capability : Text) (f : Fragment) : Text :=
  (f.stateParts dialect capability).flatten ++ (f.mappingParts dialect).flatten ++
    f.mapping.branches.flatMap (fun branch => (f.branchParts dialect branch).flatten) ++
    (f.tailParts dialect).flatten

end Fragment

namespace Template

/-! ## The templates in pieces -/

/-- The pieces of the declaration of the state. -/
def statePieces : Dialect → List Piece
  | .rust =>
      [.text "// Generated by enumerant: ", .place ["fragment", "capability"] [], .text " for ",
        .place ["fragment", "type_name"] [],
        .text ".\n\n#[allow(non_camel_case_types)]\n#[derive(Debug, Clone)]\n",
        .place ["state", "visibility"] ["visibility"], .text "struct ",
        .place ["state", "name"] [], .text " \x7b\n    ", .place ["state", "counter"] [],
        .text ": usize,\n\x7d\n\nimpl "]
  | .python =>
      [.text "# Generated by enumerant: ", .place ["fragment", "capability"] [], .text " for ",
        .place ["fragment", "type_name"] [], .text ".\n\n\nclass ", .place ["state", "name"] [],
        .text ":\n    \"\"\"Yields every variant of ", .place ["entry", "owner"] [],
        .text " in declaration order.\"\"\"\n\n    def __init__(self):\n        self.",
        .place ["state", "counter"] [], .text " = ", .place ["state", "initial"] [],
        .text "\n\n    def __iter__(self):\n        return self\n\n    @staticmethod\n    def "]

/-- The pieces between the state and the branches. -/
def mappingPieces : Dialect → List Piece
  | .rust =>
      [.place ["entry", "owner"] [],
        .text " \x7b\n    /// Returns an iterator over every variant of `",
        .place ["entry", "owner"] [],
        .text "` in declaration order.\n    #[allow(dead_code)]\n    ",
        .place ["entry", "visibility"] ["visibility"], .text "fn ", .place ["entry", "name"] [],
        .text "() -> ", .place ["entry", "returns"] [], .text " \x7b\n        ",
        .place ["state", "name"] [], .text " \x7b ", .place ["state", "counter"] [], .text ": ",
        .place ["state", "initial"] [], .text " \x7d\n    \x7d\n\x7d\n\nimpl ",
        .place ["state", "name"] [], .text " \x7b\n    fn ", .place ["mapping", "name"] [],
        .text "(", .place ["mapping", "param"] [], .text ": usize) -> ",
        .place ["mapping", "owner"] [], .text " \x7b\n        match ",
        .place ["mapping", "param"] [], .text " \x7b\n"]
  | .python =>
      [.place ["mapping", "name"] [], .text "(", .place ["mapping", "param"] [], .text "):\n"]

/-- The pieces that are repeated for every branch. -/
def branchPieces : Dialect → List Piece
  | .rust =>
      [.text "            ", .place ["branch", "index"] [], .text " => ",
        .place ["branch", "construction"] ["construct"], .text ",\n"]
  | .python =>
      [.text "        if ", .place ["mapping", "param"] [], .text " == ",
        .place ["branch", "index"] [], .text ":\n            return ",
        .place ["branch", "construction"] ["construct"], .text "\n"]

/-- The pieces after the branches. -/
def tailPieces : Dialect → List Piece
  | .rust =>
      [.text "            _ => unreachable!(", .place ["mapping", "fallback", "message"] ["quote"],
        .text "),\n        \x7d\n    \x7d\n\x7d\n\nimpl ::core::iter::Iterator for ",
        .place ["state", "name"] [], .text " \x7b\n    type Item = ",
        .place ["next_op", "owner"] [],
        .text ";\n\n    fn next(&mut self) -> ::core::option::Option<Self::Item> \x7b\n        if self.",
        .place ["next_op", "counter"] [], .text " >= ", .place ["next_op", "length"] [],
        .text " \x7b\n            return ::core::option::Option::None;\n        \x7d\n        let output = Self::",
        .place ["next_op", "mapping"] [], .text "(self.", .place ["next_op", "counter"] [],
        .text ");\n        self.", .place ["next_op", "counter"] [],
        .text " += 1;\n        ::core::option::Option::Some(output)\n    \x7d\n\x7d\n"]
  | .python =>
      [.text "        raise AssertionError(", .place ["mapping", "fallback", "message"] ["quote"],
        .text ")\n\n    def __next__(self):\n        if self.", .place ["next_op", "counter"] [],
        .text " >= ", .place ["next_op", "length"] [],
        .text ":\n            raise StopIteration\n        output = self.",
        .place ["next_op", "mapping"] [], .text "(self.", .place ["next_op", "counter"] [],
        .text ")\n        self.", .place ["next_op", "counter"] [],
        .text " += 1\n        return output\n\n\n", .place ["entry", "owner"] [], .text ".",
        .place ["entry", "name"] [], .text " = classmethod(lambda cls: ",
        .place ["entry", "returns"] [], .text "())\n"]

def bundledPieces (dialect : Dialect) : List Piece :=
  statePieces dialect ++ (mappingPieces dialect ++
    .loop "branch" ["mapping", "branches"] (branchPieces dialect) :: tailPieces dialect)

set_option maxRecDepth 16000 in
/-- Reading the template of a dialect gives its pieces. The line ends that belong to the two tags of
the loop are gone, all others are kept. -/
theorem parse_bundled (dialect : Dialect) :
    parse (bundled dialect) = .ok (bundledPieces dialect) := by
  -- Literals are opened one by one: the characters of a long literal are slow to compute.
  cases dialect with
  | rust =>
    simp only [bundled, bundledLines, rustLines, bundledPieces, statePieces, mappingPieces,
      branchPieces, tailPieces, Text.ofString, List.flatMap_cons, List.flatMap_nil]
    repeat rw [String.toList_ofList]
    rfl
  | python =>
    simp only [bundled, bundledLines, pythonLines, bundledPieces, statePieces, mappingPieces,
      branchPieces, tailPieces, Text.ofString, List.flatMap_cons, List.flatMap_nil]
    repeat rw [String.toList_ofList]
    rfl

/-- All filters of the templates are known. -/
theorem unknownFilterIn_bundled (dialect : Dialect) :
    unknownFilterIn? (bundledPieces dialect) = none := by
  cases dialect with
  | rust => rfl
  | python => rfl

/-! ## Filling in -/

section Rendering

variable {dialect : Dialect} {scope : Scope}

/-- Pieces of which each has a text have the texts one after another. -/
theorem renderAll_eq_ok {pieces : List Piece} {texts : List Text}
    (each : List.Forall₂ (fun piece text => Piece.render dialect scope piece = .ok text)
      pieces texts) :
    renderAll dialect scope pieces = .ok texts.flatten := by
  induction each with
  | nil => rfl
  | cons first _ ih =>
    rw [renderAll, first, ih]
    rfl

theorem renderAll_append (front back : List Piece) :
    renderAll dialect scope (front ++ back) = (do
      let first ← renderAll dialect scope front
      let second ← renderAll dialect scope back
      return first ++ second) := by
  induction front with
  | nil => exact (bind_pure (renderAll dialect scope back)).symm
  | cons piece pieces ih =>
    rw [List.cons_append, renderAll, renderAll, ih]
    simp only [bind_assoc, pure_bind, List.append_assoc]

/-- A loop over a tuple has the text of its body for every item, in order, if all items can be shown. -/
theorem render_loop {α : Type} {item : Text} {path : Path} {body : List Piece} {items : List α}
    {datum : α → Datum} {showable : α → Bool} {text : α → Text}
    (found : lookUp scope path = .ok (.tuple (items.map datum)))
    (each : ∀ a, renderAll dialect ((item, datum a) :: scope) body =
      if showable a then .ok (text a) else .error .unshowable) :
    Piece.render dialect scope (.loop item path body) =
      if items.all showable then .ok (items.flatMap text) else .error .unshowable := by
  have mapped : (items.map datum).mapM
      (fun datum => renderAll dialect ((item, datum) :: scope) body) =
        if items.all showable then .ok (items.map text) else .error .unshowable := by
    rw [List.mapM_map, ← Outcome.mapM_ite]
    exact Outcome.mapM_congr fun a _ => each a
  rw [Piece.render, found, List.flatMap_def]
  show (do
    let texts ← (items.map datum).mapM
      fun datum => renderAll dialect ((item, datum) :: scope) body
    return texts.flatten) = _
  rw [mapped]
  split <;> rfl

end Rendering

/-! ## Places -/

/-- What the paths outside of the loop stand for. -/
def slots (f : Fragment) : List (Path × Datum) :=
  [(["fragment", "capability"], .value f.capability), (["fragment", "type_name"], .text f.typeName),
    (["state", "name"], .text f.state.name), (["state", "counter"], .text f.state.counter),
    (["state", "initial"], .number f.state.initial),
    (["state", "visibility"], .text f.state.visibility),
    (["entry", "owner"], .text f.entry.owner), (["entry", "name"], .text f.entry.name),
    (["entry", "returns"], .text f.entry.returns),
    (["entry", "visibility"], .text f.entry.visibility),
    (["mapping", "name"], .text f.mapping.name), (["mapping", "owner"], .text f.mapping.owner),
    (["mapping", "param"], .text f.mapping.param),
    (["mapping", "fallback", "message"], .text f.mapping.fallback),
    (["next_op", "owner"], .text f.next.owner), (["next_op", "counter"], .text f.next.counter),
    (["next_op", "mapping"], .text f.next.mapping),
    (["next_op", "length"], .number f.next.length)]

/-- What the paths inside of the loop stand for. -/
def branchSlots (f : Fragment) (branch : Branch) : List (Path × Datum) :=
  [(["branch", "index"], .number branch.index),
    (["branch", "construction"], .ofConstruction branch.construction),
    (["mapping", "param"], .text f.mapping.param)]

theorem lookUp_slots (f : Fragment) :
    ∀ slot ∈ slots f, lookUp (fragmentScope f) slot.1 = .ok slot.2 := by
  simp only [slots, Datum.text, List.forall_mem_cons]
  exact ⟨rfl, rfl, rfl, rfl, rfl, rfl, rfl, rfl, rfl, rfl, rfl, rfl, rfl, rfl, rfl, rfl, rfl, rfl,
    nofun⟩

theorem lookUp_branches (f : Fragment) :
    lookUp (fragmentScope f) ["mapping", "branches"] =
      .ok (.tuple (f.mapping.branches.map .ofBranch)) := rfl

theorem lookUp_branchSlots (f : Fragment) (branch : Branch) :
    ∀ slot ∈ branchSlots f branch,
      lookUp (("branch", .ofBranch branch) :: fragmentScope f) slot.1 = .ok slot.2 := by
  simp only [branchSlots, List.forall_mem_cons]
  exact ⟨rfl, rfl, rfl, nofun⟩

theorem shown_value (v : Value) :
    shown (.value v) = if v.isShowable then .ok v.display else .error .unshowable := rfl

theorem shown_text (s : Text) : shown (.text s) = .ok s := rfl

theorem shown_number (n : Nat) : shown (.number n) = .ok (Text.ofNat n) := rfl

theorem applyNamed_visibility (s : Text) :
    applyNamed .rust (.text s) "visibility" = .ok (.text (Fragment.qualified s)) := by
  cases s with
  | nil => rfl
  | cons c cs => rfl

theorem applyNamed_quote (dialect : Dialect) (s : Text) :
    applyNamed dialect (.text s) "quote" = .ok (.text (Text.enclose s)) := rfl

theorem applyNamed_construct (dialect : Dialect) (c : Construction) :
    applyNamed dialect (.ofConstruction c) "construct" =
      if c.isShowable then .ok (.text (dialect.construct c)) else .error .unshowable := rfl

/-! ## The parts of the code -/

theorem render_state (dialect : Dialect) {f : Fragment} (showable : f.capability.isShowable = true) :
    renderAll dialect (fragmentScope f) (statePieces dialect) =
      .ok (f.stateParts dialect f.capability.display).flatten := by
  have found := lookUp_slots f
  simp only [slots, List.forall_mem_cons] at found
  apply renderAll_eq_ok
  cases dialect with
  | rust =>
    simp [statePieces, Fragment.stateParts, Piece.render, found, applyNamed_visibility, shown_value,
      showable, shown_text, bind, Except.bind, pure, Except.pure]
  | python =>
    simp [statePieces, Fragment.stateParts, Piece.render, found, shown_value, showable, shown_text,
      shown_number, bind, Except.bind, pure, Except.pure]

/-- A capability that cannot be shown ends the filling in. -/
theorem render_state_unshowable (dialect : Dialect) {f : Fragment}
    (unshowable : f.capability.isShowable = false) :
    renderAll dialect (fragmentScope f) (statePieces dialect) = .error .unshowable := by
  have found := (List.forall_mem_cons.mp (lookUp_slots f)).1
  cases dialect with
  | rust =>
    simp [statePieces, renderAll, Piece.render, found, shown_value, unshowable, bind, Except.bind,
      pure, Except.pure]
  | python =>
    simp [statePieces, renderAll, Piece.render, found, shown_value, unshowable, bind, Except.bind,
      pure, Except.pure]

theorem render_mapping (dialect : Dialect) (f : Fragment) :
    renderAll dialect (fragmentScope f) (mappingPieces dialect) =
      .ok (f.mappingParts dialect).flatten := by
  have found := lookUp_slots f
  simp only [slots, List.forall_mem_cons] at found
  apply renderAll_eq_ok
  cases dialect with
  | rust =>
    simp [mappingPieces, Fragment.mappingParts, Piece.render, found, applyNamed_visibility,
      shown_text, shown_number, bind, Except.bind, pure, Except.pure]
  | python =>
    simp [mappingPieces, Fragment.mappingParts, Piece.render, found, shown_text,
      bind, Except.bind, pure, Except.pure]

theorem render_branch (dialect : Dialect) (f : Fragment) (branch : Branch) :
    renderAll dialect (("branch", .ofBranch branch) :: fragmentScope f) (branchPieces dialect) =
      if branch.construction.isShowable then .ok (f.branchParts dialect branch).flatten
      else .error .unshowable := by
  have found := lookUp_branchSlots f branch
  simp only [branchSlots, List.forall_mem_cons] at found
  cases showable : branch.construction.isShowable with
  | true =>
    apply renderAll_eq_ok
    cases dialect with
    | rust =>
      simp [branchPieces, Fragment.branchParts, Piece.render, found, applyNamed_construct, showable,
        shown_text, shown_number, bind, Except.bind, pure, Except.pure]
    | python =>
      simp [branchPieces, Fragment.branchParts, Piece.render, found, applyNamed_construct, showable,
        shown_text, shown_number, bind, Except.bind, pure, Except.pure]
  | false =>
    cases dialect with
    | rust =>
      simp [branchPieces, renderAll, Piece.render, found, applyNamed_construct, showable,
        shown_number, bind, Except.bind, pure, Except.pure]
    | python =>
      simp [branchPieces, renderAll, Piece.render, found, applyNamed_construct, showable,
        shown_text, shown_number, bind, Except.bind, pure, Except.pure]

theorem render_tail (dialect : Dialect) (f : Fragment) :
    renderAll dialect (fragmentScope f) (tailPieces dialect) =
      .ok (f.tailParts dialect).flatten := by
  have found := lookUp_slots f
  simp only [slots, List.forall_mem_cons] at found
  apply renderAll_eq_ok
  cases dialect with
  | rust =>
    simp [tailPieces, Fragment.tailParts, Piece.render, found, applyNamed_quote, shown_text,
      shown_number, bind, Except.bind, pure, Except.pure]
  | python =>
    simp [tailPieces, Fragment.tailParts, Piece.render, found, applyNamed_quote, shown_text,
      shown_number, bind, Except.bind, pure, Except.pure]

/-- The pieces of the template have the code of the fragment as their text, if it can be shown. -/
theorem renderAll_bundled (dialect : Dialect) (f : Fragment) :
    renderAll dialect (fragmentScope f) (bundledPieces dialect) =
      if f.isShowable then .ok (f.code dialect f.capability.display) else .error .unshowable := by
  have looped := render_loop (lookUp_branches f) (render_branch dialect f)
  rw [bundledPieces, renderAll_append, renderAll_append, renderAll, looped, render_mapping, render_tail,
    Fragment.isShowable]
  cases capability : f.capability.isShowable with
  | false =>
    rw [render_state_unshowable dialect capability]
    rfl
  | true =>
    rw [render_state dialect capability]
    cases f.mapping.branches.all fun branch => branch.construction.isShowable with
    | false => rfl
    | true =>
      show Except.ok _ = Except.ok (Fragment.code _ _ _)
      rw [Fragment.code]
      simp only [List.append_assoc]

end Template

/-! ## Printing -/

namespace Printer

/-- A fragment is printed as its code, if it can be shown. -/
theorem layOut_ofDialect (dialect : Dialect) (f : Fragment) :
    (ofDialect dialect).layOut f =
      if f.isShowable then .ok (f.code dialect f.capability.display)
      else .error (.range .unshowable) := by
  show fill dialect (.ok (Template.bundled dialect)) f = _
  unfold fill Template.render
  simp only [Template.parse_bundled, Template.unknownFilterIn_bundled, Template.renderAll_bundled]
  cases f.isShowable with
  | false => rfl
  | true => rfl

theorem render_outcome (printer : Printer) (f : Fragment) :
    (printer.render f).outcome = printer.layOut f := by
  unfold render
  rw [Traced.outcome_bind, Traced.outcome_ofExcept]
  cases printer.layOut f with
  | error fault => rfl
  | ok text => rfl

theorem render_ofDialect (dialect : Dialect) {capability : Text} {f : Fragment}
    (worded : f.capability = .text capability) (showable : f.isShowable = true) :
    ((ofDialect dialect).render f).outcome = .ok (f.code dialect capability) := by
  rw [render_outcome, layOut_ofDialect, if_pos showable, worded]
  rfl

/-- Every fragment that a generator with a text as its capability returns is printed by the template of each dialect,
and what is printed is the code of the fragment. Only field types that cannot be shown keep it from being printed;
references always can. -/
theorem render_generated {options : Options} {naming : Option NamingStrategy}
    {generator : Generator} {capability : Text} {descriptor : Descriptor} {f : Fragment}
    (made : Generator.make options naming = .ok generator)
    (worded : options.capability = .text capability)
    (generated : (generator.generate descriptor).outcome = .ok f) (dialect : Dialect) :
    ((ofDialect dialect).render f).outcome =
      if descriptor.isShowable then .ok (f.code dialect capability) else .error (.range .unshowable) := by
  have kept : generator.recipe.capability = .text capability :=
    (Generator.make_capability made).trans worded
  have shown : f.isShowable = descriptor.isShowable := by
    rw [Generator.isShowable_of_generate generated, kept]
    rfl
  rw [render_outcome, layOut_ofDialect, shown, Generator.generate_capability generated, kept]
  rfl

/-- The iterator over a variant of each shape, in both dialects. -/
theorem render_generated_threeShapes :
    ∃ f, (Generator.standard.generate .threeShapes).outcome = .ok f ∧
      ∀ dialect,
        ((ofDialect dialect).render f).outcome = .ok (f.code dialect "EnumIterator") := by
  have generated : (Generator.standard.generate .threeShapes).outcome = .ok _ := rfl
  exact ⟨_, generated, fun dialect =>
    (render_generated Generator.make_default rfl generated dialect).trans (if_pos rfl)⟩

end Printer

end VariantIter
