import VariantIter.Fragment.Basic
import VariantIter.Log.Traced
import VariantIter.Options

/-!
Generation: from the descriptor of a sum type to the fragment of its iterator.

Branch `i` constructs variant `i`; variants are neither reordered nor merged. State and entry operation
take the visibility of the type.
-/

namespace VariantIter

structure Generator where
  recipe : Recipe
  naming : NamingStrategy

namespace Generator

/-- A generator for the given options. Without a naming of its own it uses the stem of the options. -/
def make (options : Options) (naming : Option NamingStrategy) : Except Fault Generator := do
  let recipe ← options.check
  match naming with
  | some naming => return ⟨recipe, naming⟩
  | none => return ⟨recipe, ← Naming.ofValue (.text recipe.stem)⟩

/-- The message of the branch that is never reached. -/
def fallback : Text := "variant index out of range"

/-- The branches for variants of which the first has the given index. -/
def branches (owner : Text) : (index : Nat) → List Variant → Traced (List Branch)
  | _, [] => pure []
  | index, variant :: variants => do
      let construction ← Traced.ofExcept (Construction.build owner variant)
      Traced.emit <| (Log.Event.branch (.int index) (.text variant.name)
        (.text construction.kind.name)).record Log.generatorLogger
      let rest ← branches owner (index + 1) variants
      return ⟨index, construction⟩ :: rest

/-- The fragment of a sum type around its branches. -/
def assemble (generator : Generator) (descriptor : Descriptor) (branches : List Branch) :
    Fragment :=
  let recipe := generator.recipe
  let owner := descriptor.name
  let iterator := generator.naming.iteratorName owner
  let count := descriptor.variants.length
  { typeName := owner
    capability := recipe.capability
    state := ⟨iterator, recipe.counter, 0, descriptor.visibility⟩
    entry := ⟨owner, recipe.entry, iterator, descriptor.visibility⟩
    mapping := ⟨recipe.mapping, owner, recipe.counter, branches, fallback⟩
    next := ⟨iterator, owner, recipe.counter, recipe.mapping, count⟩
    metadata :=
      ⟨"EnumerationGenerator", count, branches.map fun branch => branch.construction.kind⟩ }

/-- The rejection of a type that is not a sum type. -/
def rejection (generator : Generator) (descriptor : Descriptor) : Rejection :=
  ⟨generator.recipe.capability, .text descriptor.kind.plural⟩

/-- The fragment of a type; anything but a sum type is rejected. A rejection whose message cannot be shown is
not recorded. -/
def generate (generator : Generator) (descriptor : Descriptor) : Traced Fragment :=
  match descriptor.kind with
  | .sum => do
      Traced.emit <| (Log.Event.generationStart (.text descriptor.name)
        (.int descriptor.variants.length)).record Log.generatorLogger
      let branches ← branches descriptor.name 0 descriptor.variants
      return generator.assemble descriptor branches
  | _ =>
      let rejection := generator.rejection descriptor
      if rejection.isShowable then do
        Traced.emit <| (Log.Event.generationFailure (.text descriptor.name)
          (.text rejection.message)).record Log.generatorLogger
        Traced.fail (.rejected rejection)
      else Traced.fail (.range .unshowable)

end Generator

end VariantIter
