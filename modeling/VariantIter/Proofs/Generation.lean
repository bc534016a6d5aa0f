import VariantIter.Fragment.Generate
import VariantIter.Proofs.Outcome

/-!
What generation returns.

A sum type whose payloads are shapes always has a fragment: its variants are constructed in order and
numbered from zero. The records that are left on the way play no part in it. What the fragment prints can be
shown if the capability and the field types can.
-/

namespace VariantIter

/-! ## Options -/

/-- Options are checked one by one, and a recipe holds what the checks return. -/
theorem Options.check_eq_ok {options : Options} {recipe : Recipe} :
    options.check = .ok recipe ↔
      options.capability.truthy = true ∧ recipe.capability = options.capability ∧
      checkStem options.stem = .ok recipe.stem ∧
      checkName "entry_name" options.entry = .ok recipe.entry ∧
      checkName "mapping_name" options.mapping = .ok recipe.mapping ∧
      checkName "counter_name" options.counter = .ok recipe.counter ∧
      checkTarget options.target = .ok recipe.target := by
  unfold check
  constructor
  · intro checked
    split at checked
    · cases checked
    · next given =>
      obtain ⟨stem, stemmed, rest⟩ := Outcome.bind_eq_ok.mp checked
      obtain ⟨entry, entered, rest⟩ := Outcome.bind_eq_ok.mp rest
      obtain ⟨mapping, mapped, rest⟩ := Outcome.bind_eq_ok.mp rest
      obtain ⟨counter, counted, rest⟩ := Outcome.bind_eq_ok.mp rest
      obtain ⟨target, aimed, same⟩ := Outcome.bind_eq_ok.mp rest
      cases same
      exact ⟨by simpa using given, rfl, stemmed, entered, mapped, counted, aimed⟩
  · rintro ⟨given, kept, stemmed, entered, mapped, counted, aimed⟩
    simp only [given, Bool.not_true, Bool.false_eq_true, if_false, stemmed, entered, mapped,
      counted, aimed]
    rw [← kept]
    rfl

/-! ## Constructions -/

/-- The construction of a variant with a known shape. -/
def Construction.ofShape (owner name : Text) : Shape → Construction
  | .none => ⟨owner, name, .none, [], []⟩
  | .positional types => ⟨owner, name, .positional, types.map fun type => ⟨type.wrapped⟩, []⟩
  | .named fields =>
      ⟨owner, name, .named, [], fields.map fun (name, type) => (name, ⟨type.wrapped⟩)⟩

/-- A variant is constructed exactly when its payload has a shape. -/
theorem Construction.build_eq (owner : Text) (variant : Variant) :
    Construction.build owner variant =
      variant.payload.classify.map (Construction.ofShape owner variant.name) := by
  unfold Construction.build
  cases variant.payload.classify with
  | error fault => rfl
  | ok shape =>
    cases shape with
    | none => rfl
    | positional types => rfl
    | named fields => rfl

/-- Constructions as branches, with the indices from `first` on. -/
def Branch.numbered (first : Nat) : List Construction → List Branch
  | [] => []
  | construction :: constructions =>
      ⟨first, construction⟩ :: numbered (first + 1) constructions

namespace Generator

/-- The loop over the variants numbers their constructions. -/
theorem branches_outcome (owner : Text) (first : Nat) (variants : List Variant) :
    (branches owner first variants).outcome =
      (variants.mapM (Construction.build owner)).map (Branch.numbered first) := by
  induction variants generalizing first with
  | nil => rfl
  | cons variant variants ih =>
    rw [branches, List.mapM_cons]
    cases Construction.build owner variant with
    | error fault => rfl
    | ok construction =>
      simp only [Traced.outcome_bind, Traced.outcome_ofExcept, Traced.outcome_emit,
        Traced.outcome_pure, ih]
      cases variants.mapM (Construction.build owner) with
      | error fault => rfl
      | ok constructions => rfl

/-- The fragment of a sum type is assembled around its numbered constructions. -/
theorem generate_outcome (generator : Generator) {descriptor : Descriptor}
    (isSum : descriptor.kind = .sum) :
    (generator.generate descriptor).outcome =
      (descriptor.variants.mapM (Construction.build descriptor.name)).map fun constructions =>
        generator.assemble descriptor (Branch.numbered 0 constructions) := by
  unfold generate
  rw [isSum]
  simp only [Traced.outcome_bind, Traced.outcome_emit, Traced.outcome_pure, branches_outcome]
  cases descriptor.variants.mapM (Construction.build descriptor.name) with
  | error fault => rfl
  | ok constructions => rfl

theorem rejection_isShowable (generator : Generator) (descriptor : Descriptor) :
    (generator.rejection descriptor).isShowable = generator.recipe.capability.isShowable :=
  Bool.and_true _

/-- What generation leaves behind for any other type, whatever its variants hold. -/
theorem generate_other (generator : Generator) {descriptor : Descriptor}
    (notSum : descriptor.kind ≠ .sum) :
    generator.generate descriptor =
      if generator.recipe.capability.isShowable then
        ⟨[(Log.Event.generationFailure (.text descriptor.name)
            (.text (generator.rejection descriptor).message)).record Log.generatorLogger],
          .error (.rejected (generator.rejection descriptor))⟩
      else ⟨[], .error (.range .unshowable)⟩ := by
  rw [← generator.rejection_isShowable descriptor]
  unfold generate
  cases kind : descriptor.kind with
  | sum => exact absurd kind notSum
  | record => rfl
  | union => rfl

/-- Any other type is rejected, if the rejection can be shown. -/
theorem generate_rejected (generator : Generator) {descriptor : Descriptor}
    (notSum : descriptor.kind ≠ .sum) :
    (generator.generate descriptor).outcome =
      .error (Fault.reported (.rejected (generator.rejection descriptor))) := by
  rw [generator.generate_other notSum, Fault.reported, Fault.isShowable,
    generator.rejection_isShowable descriptor]
  split <;> rfl

/-- Exactly the sum types whose payloads are shapes have a fragment. -/
theorem generate_eq_ok {generator : Generator} {descriptor : Descriptor} {f : Fragment} :
    (generator.generate descriptor).outcome = .ok f ↔
      descriptor.kind = .sum ∧ ∃ constructions,
        descriptor.variants.mapM (Construction.build descriptor.name) = .ok constructions ∧
          generator.assemble descriptor (Branch.numbered 0 constructions) = f := by
  by_cases isSum : descriptor.kind = .sum
  · rw [generator.generate_outcome isSum, Outcome.map_eq_ok]
    exact ⟨fun built => ⟨isSum, built⟩, fun built => built.2⟩
  · rw [generator.generate_rejected isSum]
    refine ⟨fun built => ?_, fun built => absurd built.1 isSum⟩
    cases built

theorem generate_capability {generator : Generator} {descriptor : Descriptor} {f : Fragment}
    (generated : (generator.generate descriptor).outcome = .ok f) :
    f.capability = generator.recipe.capability := by
  obtain ⟨_, constructions, _, rfl⟩ := generate_eq_ok.mp generated
  rfl

theorem check_of_make {options : Options} {naming : Option NamingStrategy} {generator : Generator}
    (made : make options naming = .ok generator) : options.check = .ok generator.recipe := by
  obtain ⟨recipe, checked, rest⟩ := Outcome.bind_eq_ok.mp made
  cases naming with
  | some naming =>
    cases rest
    exact checked
  | none =>
    obtain ⟨naming, _, same⟩ := Outcome.bind_eq_ok.mp rest
    cases same
    exact checked

/-- A generator keeps the capability of its options. -/
theorem make_capability {options : Options} {naming : Option NamingStrategy} {generator : Generator}
    (made : make options naming = .ok generator) :
    generator.recipe.capability = options.capability :=
  (Options.check_eq_ok.mp (check_of_make made)).2.1

theorem exists_constructions {descriptor : Descriptor}
    (shaped : ∀ variant ∈ descriptor.variants, ∃ shape, variant.payload.classify = .ok shape) :
    ∃ constructions,
      descriptor.variants.mapM (Construction.build descriptor.name) = .ok constructions := by
  apply Outcome.exists_mapM_eq_ok
  intro variant member
  obtain ⟨shape, classified⟩ := shaped variant member
  exact ⟨.ofShape descriptor.name variant.name shape, by
    rw [Construction.build_eq, classified]
    rfl⟩

/-! ## What can be shown -/

end Generator

/-- The field types of a payload; what is no shape has none. -/
def Payload.types : Payload → List TypeRef
  | .shape known => known.types
  | .foreign _ => []

/-- Whether the field types of a type can be shown. -/
def Descriptor.isShowable (descriptor : Descriptor) : Bool :=
  descriptor.variants.all fun variant => variant.payload.types.all TypeRef.isShowable

/-- References can be shown. -/
theorem Descriptor.isShowable_of_refs {descriptor : Descriptor}
    (refs : ∀ variant ∈ descriptor.variants, ∀ type ∈ variant.payload.types, ∃ text, type = .ref text) :
    descriptor.isShowable = true := by
  refine List.all_eq_true.mpr fun variant member => List.all_eq_true.mpr fun type inside => ?_
  obtain ⟨text, rfl⟩ := refs variant member type inside
  rfl

theorem Payload.types_of_classify {payload : Payload} {shape : Shape}
    (classified : payload.classify = .ok shape) : payload.types = shape.types := by
  cases payload with
  | shape known =>
    cases classified
    rfl
  | foreign value =>
    cases value with
    | null =>
      cases classified
      rfl
    | _ => cases classified

theorem TypeRef.isShowable_wrapped (type : TypeRef) : type.wrapped.isShowable = type.isShowable := by
  cases type with
  | ref text => rfl
  | bare value => cases value <;> rfl

/-- A construction can be shown if the field types of the shape can. -/
theorem Construction.isShowable_ofShape (owner name : Text) (shape : Shape) :
    (ofShape owner name shape).isShowable = shape.types.all TypeRef.isShowable := by
  cases shape with
  | none => rfl
  | positional types =>
    simp [isShowable, Construction.types, ofShape, Shape.types, Function.comp_def,
      TypeRef.isShowable_wrapped]
  | named fields =>
    simp [isShowable, Construction.types, ofShape, Shape.types, Function.comp_def,
      TypeRef.isShowable_wrapped]

theorem Construction.isShowable_of_build {owner : Text} {variant : Variant} {c : Construction}
    (built : Construction.build owner variant = .ok c) :
    c.isShowable = variant.payload.types.all TypeRef.isShowable := by
  rw [build_eq] at built
  obtain ⟨shape, classified, rfl⟩ := Outcome.map_eq_ok.mp built
  rw [isShowable_ofShape, Payload.types_of_classify classified]

theorem Branch.all_numbered (p : Construction → Bool) (first : Nat) (constructions : List Construction) :
    ((numbered first constructions).all fun branch => p branch.construction) = constructions.all p := by
  induction constructions generalizing first with
  | nil => rfl
  | cons construction constructions ih =>
    rw [numbered, List.all_cons, List.all_cons, ih]

namespace Generator

theorem all_isShowable_of_build {owner : Text} {variants : List Variant} {constructions : List Construction}
    (built : List.Forall₂ (fun variant construction =>
      Construction.build owner variant = .ok construction) variants constructions) :
    constructions.all Construction.isShowable =
      variants.all fun variant => variant.payload.types.all TypeRef.isShowable := by
  induction built with
  | nil => rfl
  | cons first _ ih =>
    rw [List.all_cons, List.all_cons, Construction.isShowable_of_build first, ih]

/-- What is printed of a fragment is its capability and the field types of the type. -/
theorem isShowable_of_generate {generator : Generator} {descriptor : Descriptor} {f : Fragment}
    (generated : (generator.generate descriptor).outcome = .ok f) :
    f.isShowable = (generator.recipe.capability.isShowable && descriptor.isShowable) := by
  obtain ⟨_, constructions, built, rfl⟩ := generate_eq_ok.mp generated
  have shown : constructions.all Construction.isShowable = descriptor.isShowable :=
    all_isShowable_of_build (Outcome.mapM_eq_ok.mp built)
  rw [Fragment.isShowable, ← shown, ← Branch.all_numbered _ 0]
  rfl

/-! ## Default options -/

/-- The generator of the default options. -/
def standard : Generator where
  recipe := ⟨.text "EnumIterator", Naming.defaultStem, "enum_iter", "get", "idx", .rust⟩
  naming := Naming.strategy ⟨Naming.defaultStem⟩

theorem make_default : make {} none = .ok standard := rfl

end Generator

/-- A type with a variant of every shape, two of them under the same name. -/
def Descriptor.threeShapes : Descriptor where
  name := "Test"
  variants :=
    [⟨"A", .shape .none⟩, ⟨"C", .shape (.positional [.ref "u32", .ref "u32"])⟩,
      ⟨"A", .shape (.named [("a", .ref "String"), ("b", .ref "bool")])⟩]
  visibility := "pub"

end VariantIter
