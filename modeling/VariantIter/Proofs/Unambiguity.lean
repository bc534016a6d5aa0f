import VariantIter.Proofs.Delimiting
import VariantIter.Proofs.Layout
import VariantIter.Proofs.WellFormed

/-!
What can be read off the printed code.

Nothing is escaped in the Rust code of an iterator, and field types are any texts. Main statement: as long
as no field type holds the text that follows a field type in the code, the code of two types is the same
only if the types are. Each part of the code says where it ends: names at the first character that no
name holds, field types at the mark behind them, and the lists at what stands in place of a separator.
-/

namespace VariantIter

open Text (Delimits Apart)

/-! ## Names -/

/-- What a name is made of. -/
def Identifier.IsInner (c : CodePoint) : Prop :=
  isPart c = true ∨ c = .char '\n'

instance (c : CodePoint) : Decidable (Identifier.IsInner c) :=
  inferInstanceAs (Decidable (_ ∨ _))

theorem Identifier.isInner_of_isName {name : Text} (accepted : isName name = true) :
    ∀ c ∈ name, IsInner c := by
  intro c member
  rcases Bool.or_eq_true _ _ ▸ accepted with plain | ended
  · exact .inl (isPart_of_isPlain plain c member)
  · obtain ⟨last, plain⟩ := Bool.and_eq_true _ _ ▸ ended
    rw [← List.dropLast_append_getLast? _ (eq_of_beq last)] at member
    rcases List.mem_append.mp member with front | back
    · exact .inl (isPart_of_isPlain plain c front)
    · exact .inr (List.mem_singleton.mp back)

theorem Identifier.exists_cons_of_isName {name : Text} (accepted : isName name = true) :
    ∃ c cs, name = c :: cs ∧ IsInner c := by
  cases name with
  | nil => cases accepted
  | cons c cs => exact ⟨c, cs, rfl, isInner_of_isName accepted c List.mem_cons_self⟩

/-- A name ends at the first character that no name holds. -/
theorem Identifier.append_inj_of_isName {name name' : Text} (accepted : isName name = true)
    (accepted' : isName name' = true) {rest rest' : Text} (outside : Text.Leaves IsInner rest)
    (outside' : Text.Leaves IsInner rest') (same : name ++ rest = name' ++ rest') :
    name = name' ∧ rest = rest' :=
  Text.append_inj_of_leaves (isInner_of_isName accepted) (isInner_of_isName accepted') outside
    outside' same

/-! ## Field types -/

namespace Dialect

/-- What follows the type in the default of a field. -/
def defaultMark : Text := " as ::core::default::Default>::default()"

theorem unbordered_defaultMark : Text.Unbordered defaultMark :=
  Text.unbordered_concat (by decide :
    .char ')' ∉ Text.ofString " as ::core::default::Default>::default(")

end Dialect

/-- A field type that the mark can be told from. -/
def TypeRef.Unmarked (type : TypeRef) : Prop :=
  ¬ Dialect.defaultMark <:+: type.text

instance (type : TypeRef) : Decidable type.Unmarked :=
  inferInstanceAs (Decidable (¬ _))

def Shape.Unmarked (shape : Shape) : Prop :=
  ∀ type ∈ shape.types, type.Unmarked

instance (shape : Shape) : Decidable shape.Unmarked :=
  inferInstanceAs (Decidable (∀ type ∈ shape.types, type.Unmarked))

/-- The fields of a variant; what is no shape has none. -/
def Variant.shape (variant : Variant) : Shape :=
  match variant.payload with
  | .shape known => known
  | .foreign _ => .none

def Descriptor.Unmarked (descriptor : Descriptor) : Prop :=
  ∀ variant ∈ descriptor.variants, variant.shape.Unmarked

instance (descriptor : Descriptor) : Decidable descriptor.Unmarked :=
  inferInstanceAs (Decidable (∀ variant ∈ descriptor.variants, variant.shape.Unmarked))

namespace TypeRef

/-- The default of a field. -/
def rust (type : TypeRef) : Text :=
  Dialect.rust.defaultValue ⟨type.wrapped⟩

theorem delimits_rust : Delimits (fun type : TypeRef => type.WellFormed ∧ type.Unmarked) rust := by
  rintro type type' ⟨wellFormed, unmarked⟩ ⟨wellFormed', unmarked'⟩ rest rest' same
  cases type with
  | bare value => cases wellFormed
  | ref text =>
    cases type' with
    | bare value => cases wellFormed'
    | ref text' =>
      have types : text ++ Dialect.defaultMark ++ rest = text' ++ Dialect.defaultMark ++ rest' :=
        (List.cons.inj same).2
      obtain ⟨rfl, after⟩ :=
        Text.delimits_mark Dialect.unbordered_defaultMark unmarked unmarked' types
      exact ⟨rfl, after⟩

end TypeRef

/-! ## Payloads -/

namespace Shape

/-- A named field. -/
def rustField (field : Text × TypeRef) : Text :=
  field.1 ++ ": " ++ field.2.rust

theorem delimits_rustField :
    Delimits (fun field : Text × TypeRef =>
      Identifier.isName field.1 = true ∧ field.2.WellFormed ∧ field.2.Unmarked) rustField := by
  rintro ⟨name, type⟩ ⟨name', type'⟩ ⟨named, valid⟩ ⟨named', valid'⟩ rest rest' same
  have colon (more : Text) : Text.Leaves Identifier.IsInner (": " ++ more) :=
    ⟨.char ':', _, rfl, by decide⟩
  simp only [rustField, List.append_assoc] at same
  obtain ⟨rfl, after⟩ := Identifier.append_inj_of_isName named named' (colon _) (colon _) same
  obtain ⟨rfl, ends⟩ := TypeRef.delimits_rust valid valid' (List.append_cancel_left after)
  exact ⟨rfl, ends⟩

/-- What follows the name of a variant where it is constructed. -/
def rust : Shape → Text
  | .none => []
  | .positional types => "(" ++ (Text.joined ", " (types.map TypeRef.rust) ++ ")")
  | .named [] => " \x7b\x7d"
  | .named fields => " \x7b " ++ (Text.joined ", " (fields.map rustField) ++ " \x7d")

theorem construct_ofShape (owner name : Text) (shape : Shape) :
    Dialect.rust.construct (.ofShape owner name shape) = owner ++ ("::" ++ (name ++ shape.rust)) := by
  cases shape with
  | none => simp [Dialect.construct, Construction.ofShape, rust]
  | positional types =>
    have listed : Dialect.rust.arguments (types.map fun type => ⟨type.wrapped⟩) =
        Text.joined ", " (types.map TypeRef.rust) := by
      rw [Dialect.arguments, List.map_map]
      rfl
    simp [Dialect.construct, Construction.ofShape, rust, listed]
  | named fields =>
    cases fields with
    | nil => simp [Dialect.construct, Construction.ofShape, rust]
    | cons first others =>
      have listed : Dialect.rust.namedArguments ": "
          (Construction.ofShape owner name (.named (first :: others))).named =
            Text.joined ", " ((first :: others).map rustField) := by
        rw [Dialect.namedArguments, Construction.ofShape, List.map_map]
        rfl
      show owner ++ "::" ++ name ++ " \x7b " ++ Dialect.rust.namedArguments ": " _ ++ " \x7d" = _
      rw [listed]
      simp [rust]

/-- The character after the name of a variant, which tells the three kinds of payload apart. -/
def opening : ShapeKind → CodePoint
  | .none => .char ','
  | .positional => .char '('
  | .named => .char ' '

theorem opening_injective : Function.Injective opening := by
  intro kind kind' same
  revert same
  cases kind <;> cases kind' <;> decide

theorem exists_rust_eq (shape : Shape) (rest : Text) :
    ∃ more, shape.rust ++ (",\n" ++ rest) = opening shape.kind :: more := by
  cases shape with
  | none => exact ⟨_, rfl⟩
  | positional types => exact ⟨_, rfl⟩
  | named fields =>
    cases fields with
    | nil => exact ⟨_, rfl⟩
    | cons first others => exact ⟨_, rfl⟩

theorem leaves_rust (shape : Shape) (rest : Text) :
    Text.Leaves Identifier.IsInner (shape.rust ++ (",\n" ++ rest)) := by
  obtain ⟨more, same⟩ := exists_rust_eq shape rest
  refine ⟨opening shape.kind, more, same, ?_⟩
  cases shape.kind <;> decide

theorem delimits_positional :
    Delimits (fun types : List TypeRef => ∀ type ∈ types, type.WellFormed ∧ type.Unmarked)
      (fun types => (Shape.positional types).rust) := by
  intro types types' valid valid' rest rest' same
  refine Text.delimits_joined TypeRef.delimits_rust (Text.apart_cons (by decide) _ _) ?_ valid valid'
    (List.cons.inj same).2
  exact fun type _ => Text.apart_cons (by decide) _ _

/-- A list of named fields ends at a space, with which no name begins. -/
theorem delimits_fields :
    Delimits (fun fields : List (Text × TypeRef) => ∀ field ∈ fields,
        Identifier.isName field.1 = true ∧ field.2.WellFormed ∧ field.2.Unmarked)
      (fun fields => Text.joined ", " (fields.map rustField) ++ " \x7d") := by
  refine Text.delimits_joined delimits_rustField (Text.apart_cons (by decide) _ _) ?_
  rintro ⟨name, type⟩ ⟨named, _⟩
  obtain ⟨c, cs, rfl, inner⟩ := Identifier.exists_cons_of_isName named
  have distinct : c ≠ .char ' ' := fun same => absurd (same ▸ inner) (by decide)
  exact Text.apart_cons distinct _ _

theorem delimits_named :
    Delimits (fun fields : List (Text × TypeRef) => ∀ field ∈ fields,
        Identifier.isName field.1 = true ∧ field.2.WellFormed ∧ field.2.Unmarked)
      (fun fields => (Shape.named fields).rust) := by
  -- What follows the brace tells the empty list from the others.
  have apart : Apart " \x7b\x7d" " \x7b " :=
    Apart.append_left " \x7b" (Text.apart_cons (by decide : .char '\x7d' ≠ .char ' ') [] [])
  intro fields fields' valid valid' rest rest' same
  cases fields with
  | nil =>
    cases fields' with
    | nil => exact ⟨rfl, List.append_cancel_left same⟩
    | cons first' others' =>
      simp only [rust, List.append_assoc] at same
      exact absurd same (apart _ _)
  | cons first others =>
    cases fields' with
    | nil =>
      simp only [rust, List.append_assoc] at same
      exact absurd same (apart.symm _ _)
    | cons first' others' =>
      simp only [rust, List.append_assoc (Text.ofString " \x7b ")] at same
      exact delimits_fields valid valid' (List.append_cancel_left same)

/-- A payload ends at the end of its line. -/
theorem delimits_rust :
    Delimits (fun shape : Shape => shape.WellFormed ∧ shape.Unmarked)
      (fun shape => shape.rust ++ ",\n") := by
  rintro shape shape' ⟨wellFormed, unmarked⟩ ⟨wellFormed', unmarked'⟩ rest rest' same
  simp only [List.append_assoc] at same
  -- The first character settles the kind, which leaves three of the nine cases.
  have kinds : shape.kind = shape'.kind := by
    obtain ⟨more, opened⟩ := exists_rust_eq shape rest
    obtain ⟨more', opened'⟩ := exists_rust_eq shape' rest'
    rw [opened, opened'] at same
    exact opening_injective (List.cons.inj same).1
  cases shape with
  | none =>
    cases shape' with
    | none => exact ⟨rfl, List.append_cancel_left same⟩
    | positional types' => cases kinds
    | named fields' => cases kinds
  | positional types =>
    cases shape' with
    | none => cases kinds
    | positional types' =>
      obtain ⟨rfl, ends⟩ := delimits_positional
        (fun type member => ⟨wellFormed type member, unmarked type member⟩)
        (fun type member => ⟨wellFormed' type member, unmarked' type member⟩) same
      exact ⟨rfl, List.append_cancel_left ends⟩
    | named fields' => cases kinds
  | named fields =>
    cases shape' with
    | none => cases kinds
    | positional types' => cases kinds
    | named fields' =>
      obtain ⟨rfl, ends⟩ := delimits_named
        (fun field member => ⟨(wellFormed.2 field member).1, (wellFormed.2 field member).2,
          unmarked field.2 (List.mem_map_of_mem member)⟩)
        (fun field member => ⟨(wellFormed'.2 field member).1, (wellFormed'.2 field member).2,
          unmarked' field.2 (List.mem_map_of_mem member)⟩) same
      exact ⟨rfl, List.append_cancel_left ends⟩

end Shape

/-! ## Branches -/

namespace Variant

theorem WellFormed.payload_eq {variant : Variant} (wellFormed : variant.WellFormed) :
    variant.payload = .shape variant.shape := by
  obtain ⟨name, payload⟩ := variant
  cases payload with
  | foreign value => cases wellFormed.payload
  | shape known => rfl

theorem WellFormed.shape {variant : Variant} (wellFormed : variant.WellFormed) :
    variant.shape.WellFormed := by
  have fields := wellFormed.payload
  rw [wellFormed.payload_eq] at fields
  exact fields

theorem WellFormed.eq_mk {variant : Variant} (wellFormed : variant.WellFormed) :
    variant = ⟨variant.name, .shape variant.shape⟩ := by
  rw [← wellFormed.payload_eq]

def construction (owner : Text) (variant : Variant) : Construction :=
  .ofShape owner variant.name variant.shape

theorem WellFormed.build_eq_ok {variant : Variant} (wellFormed : variant.WellFormed)
    (owner : Text) : Construction.build owner variant = .ok (variant.construction owner) := by
  rw [Construction.build_eq, wellFormed.payload_eq]
  rfl

/-- The construction of a variant ends at the end of its line. -/
theorem delimits_construct (owner : Text) :
    Delimits (fun variant : Variant => variant.WellFormed ∧ variant.shape.Unmarked)
      (fun variant => Dialect.rust.construct (variant.construction owner) ++ ",\n") := by
  rintro variant variant' ⟨wellFormed, unmarked⟩ ⟨wellFormed', unmarked'⟩ rest rest' same
  simp only [construction, Shape.construct_ofShape, List.append_assoc] at same
  obtain ⟨names, after⟩ := Identifier.append_inj_of_isName wellFormed.name wellFormed'.name
    (variant.shape.leaves_rust rest) (variant'.shape.leaves_rust rest')
    (List.append_cancel_left (List.append_cancel_left same))
  rw [← List.append_assoc, ← List.append_assoc] at after
  obtain ⟨shapes, ends⟩ :=
    Shape.delimits_rust ⟨wellFormed.shape, unmarked⟩ ⟨wellFormed'.shape, unmarked'⟩ after
  refine ⟨?_, ends⟩
  calc
    variant = ⟨variant.name, .shape variant.shape⟩ := wellFormed.eq_mk
    _ = ⟨variant'.name, .shape variant'.shape⟩ := by rw [names, shapes]
    _ = variant' := wellFormed'.eq_mk.symm

end Variant

/-- The branches of variants, from a number on. -/
def Branch.ofVariants (owner : Text) (first : Nat) (variants : List Variant) : List Branch :=
  numbered first (variants.map (Variant.construction owner))

theorem Branch.ofVariants_cons (owner : Text) (first : Nat) (variant : Variant)
    (variants : List Variant) :
    ofVariants owner first (variant :: variants) =
      ⟨first, variant.construction owner⟩ :: ofVariants owner (first + 1) variants := rfl

namespace Fragment

theorem branchParts_rust (f : Fragment) (branch : Branch) :
    (f.branchParts .rust branch).flatten =
      "            " ++ (Text.ofNat branch.index ++
        (" => " ++ (Dialect.rust.construct branch.construction ++ ",\n"))) := by
  simp [branchParts]

theorem delimits_branch (f : Fragment) (owner : Text) (index : Nat) :
    Delimits (fun variant : Variant => variant.WellFormed ∧ variant.shape.Unmarked)
      (fun variant => (f.branchParts .rust ⟨index, variant.construction owner⟩).flatten) := by
  intro variant variant' valid valid' rest rest' same
  simp only [branchParts_rust, List.append_assoc] at same
  have after := List.append_cancel_left (List.append_cancel_left (List.append_cancel_left same))
  rw [← List.append_assoc, ← List.append_assoc] at after
  exact Variant.delimits_construct owner valid valid' after

/-- The line after the branches begins like none of them. -/
theorem apart_branch_tail (f f' : Fragment) (branch : Branch) :
    Apart (f.branchParts .rust branch).flatten (f'.tailParts .rust).flatten := by
  obtain ⟨c, cs, number, digit⟩ := Text.exists_ofNat_eq branch.index
  -- After the indentation a branch has its index, and the last line an underscore.
  have distinct : CodePoint.char c ≠ .char '_' := by
    rintro ⟨⟩
    cases digit
  rw [branchParts_rust, number]
  exact Apart.append_left "            " (Text.apart_cons distinct _ _)

/-- The branches are read off one after another; the index of the next one is known. -/
theorem eq_of_branches {f f' : Fragment} {owner : Text} {first : Nat}
    {variants variants' : List Variant}
    (valid : ∀ variant ∈ variants, variant.WellFormed ∧ variant.shape.Unmarked)
    (valid' : ∀ variant ∈ variants', variant.WellFormed ∧ variant.shape.Unmarked)
    (same : (Branch.ofVariants owner first variants).flatMap
        (fun branch => (f.branchParts .rust branch).flatten) ++ (f.tailParts .rust).flatten =
      (Branch.ofVariants owner first variants').flatMap
        (fun branch => (f'.branchParts .rust branch).flatten) ++ (f'.tailParts .rust).flatten) :
    variants = variants' := by
  induction variants generalizing first variants' with
  | nil =>
    cases variants' with
    | nil => rfl
    | cons variant' variants' =>
      have apart := f'.apart_branch_tail f ⟨first, variant'.construction owner⟩
      rw [Branch.ofVariants_cons, List.flatMap_cons, List.append_assoc] at same
      exact absurd same.symm (List.append_nil (f.tailParts .rust).flatten ▸ apart _ [])
  | cons variant variants ih =>
    cases variants' with
    | nil =>
      have apart := f.apart_branch_tail f' ⟨first, variant.construction owner⟩
      rw [Branch.ofVariants_cons, List.flatMap_cons, List.append_assoc] at same
      exact absurd same (List.append_nil (f'.tailParts .rust).flatten ▸ apart _ [])
    | cons variant' variants' =>
      obtain ⟨now, later⟩ := List.forall_mem_cons.mp valid
      obtain ⟨now', later'⟩ := List.forall_mem_cons.mp valid'
      rw [Branch.ofVariants_cons, Branch.ofVariants_cons, List.flatMap_cons, List.flatMap_cons,
        List.append_assoc, List.append_assoc] at same
      obtain ⟨rfl, after⟩ := f.delimits_branch owner first now now' same
      rw [ih later later' after]

theorem qualified_restriction (body : Text) :
    qualified ("pub(" ++ body ++ ")") ++ "struct " = "pub" ++ ("(" ++ (body ++ ") struct ")) := by
  have filled : ("pub(" ++ body ++ ")" : Text) ≠ [] := List.cons_ne_nil _ _
  rw [qualified, if_neg filled]
  simp only [List.append_assoc]
  rfl

/-- The declaration of the state says where its qualifier ends: a restriction at the parenthesis that
closes it. -/
theorem delimits_qualified :
    Delimits Visibility.Qualifier (fun visibility => qualified visibility ++ "struct ") := by
  have hidden (more : Text) : Apart "struct " ("pub" ++ more) := Text.apart_cons (by decide) _ _
  have bare (more : Text) : Apart ("pub" ++ " struct ") ("pub" ++ ("(" ++ more)) :=
    Apart.append_left "pub" (Text.apart_cons (by decide) _ _)
  have open_of_not_mem {body : Text} (closed : .char ')' ∉ body) : ∀ c ∈ body, c ≠ .char ')' :=
    fun c member same => closed (same ▸ member)
  have leaves_open (more : Text) : Text.Leaves (· ≠ .char ')') (") struct " ++ more) :=
    ⟨.char ')', _, rfl, fun other => other rfl⟩
  intro visibility visibility' qualifier qualifier' rest rest' same
  rcases qualifier.restriction with rfl | rfl | ⟨body, closed, rfl⟩
  · rcases qualifier'.restriction with rfl | rfl | ⟨body', closed', rfl⟩
    · exact ⟨rfl, List.append_cancel_left same⟩
    · exact absurd same (hidden " struct " _ _)
    · simp only [qualified_restriction] at same
      exact absurd same (hidden _ _ _)
  · rcases qualifier'.restriction with rfl | rfl | ⟨body', closed', rfl⟩
    · exact absurd same ((hidden " struct ").symm _ _)
    · exact ⟨rfl, List.append_cancel_left same⟩
    · simp only [qualified_restriction] at same
      exact absurd same (bare _ _ _)
  · rcases qualifier'.restriction with rfl | rfl | ⟨body', closed', rfl⟩
    · simp only [qualified_restriction] at same
      exact absurd same ((hidden _).symm _ _)
    · simp only [qualified_restriction] at same
      exact absurd same ((bare _).symm _ _)
    · simp only [qualified_restriction] at same
      simp only [List.append_assoc] at same
      obtain ⟨rfl, after⟩ := Text.append_inj_of_leaves (open_of_not_mem closed)
        (open_of_not_mem closed') (leaves_open rest) (leaves_open rest')
        (List.append_cancel_left (List.append_cancel_left same))
      exact ⟨rfl, List.append_cancel_left after⟩

/-- The name and the visibility of a type are read off the declaration of the state. -/
theorem heading_inj {capability : Text} {f f' : Fragment}
    (named : Identifier.isName f.typeName = true) (named' : Identifier.isName f'.typeName = true)
    (qualifier : Visibility.Qualifier f.state.visibility)
    (qualifier' : Visibility.Qualifier f'.state.visibility)
    (same : f.code .rust capability = f'.code .rust capability) :
    f.typeName = f'.typeName ∧ f.state.visibility = f'.state.visibility := by
  have period (more : Text) : Text.Leaves Identifier.IsInner
      (".\n\n#[allow(non_camel_case_types)]\n#[derive(Debug, Clone)]\n" ++ more) :=
    ⟨.char '.', _, rfl, by decide⟩
  -- The name ends at the period, and the qualifier where the declaration begins.
  simp only [code, stateParts, List.flatten_cons, List.append_assoc] at same
  obtain ⟨names, after⟩ := Identifier.append_inj_of_isName named named' (period _) (period _)
    (List.append_cancel_left (List.append_cancel_left (List.append_cancel_left same)))
  have after := List.append_cancel_left after
  rw [← List.append_assoc (qualified _), ← List.append_assoc (qualified f'.state.visibility)] at after
  obtain ⟨visibilities, _⟩ := delimits_qualified qualifier qualifier' after
  exact ⟨names, visibilities⟩

end Fragment

/-! ## Types -/

namespace Generator

/-- The fragment of a well-formed sum type, with a branch for each of its variants. -/
def fragment (generator : Generator) (descriptor : Descriptor) : Fragment :=
  generator.assemble descriptor (Branch.ofVariants descriptor.name 0 descriptor.variants)

theorem generate_wellFormed (generator : Generator) {descriptor : Descriptor}
    (isSum : descriptor.kind = .sum) (wellFormed : descriptor.WellFormed) :
    (generator.generate descriptor).outcome = .ok (generator.fragment descriptor) := by
  refine generate_eq_ok.mpr ⟨isSum, _, Outcome.mapM_eq_ok.mpr ?_, rfl⟩
  rw [List.forall₂_map_right_iff, List.forall₂_same]
  exact fun variant member => (wellFormed.variants variant member).build_eq_ok descriptor.name

/-- The code of a type in a dialect. -/
def print (generator : Generator) (dialect : Dialect) (descriptor : Descriptor) :
    Except Fault Text :=
  (generator.generate descriptor >>= (Printer.ofDialect dialect).render).outcome

theorem print_wellFormed (generator : Generator) (dialect : Dialect) {capability : Text}
    (worded : generator.recipe.capability = .text capability) {descriptor : Descriptor}
    (isSum : descriptor.kind = .sum) (wellFormed : descriptor.WellFormed) :
    generator.print dialect descriptor =
      .ok ((generator.fragment descriptor).code dialect capability) := by
  have inherited : (generator.fragment descriptor).capability = .text capability := worded
  have generated := generator.generate_wellFormed isSum wellFormed
  have showable : (generator.fragment descriptor).isShowable = true := by
    rw [isShowable_of_generate generated, worded, wellFormed.isShowable]
    rfl
  unfold print
  rw [Traced.outcome_bind, generated]
  exact Printer.render_ofDialect dialect inherited showable

/-- Sum types with the same code are the same. -/
theorem eq_of_code_eq {generator : Generator} {capability : Text} {descriptor descriptor' : Descriptor}
    (isSum : descriptor.kind = .sum) (isSum' : descriptor'.kind = .sum)
    (wellFormed : descriptor.WellFormed) (wellFormed' : descriptor'.WellFormed)
    (unmarked : descriptor.Unmarked) (unmarked' : descriptor'.Unmarked)
    (same : (generator.fragment descriptor).code .rust capability =
      (generator.fragment descriptor').code .rust capability) :
    descriptor = descriptor' := by
  obtain ⟨names, visibilities⟩ := Fragment.heading_inj wellFormed.name wellFormed'.name
    wellFormed.visibility wellFormed'.visibility same
  obtain ⟨name, variants, kind, visibility⟩ := descriptor
  obtain ⟨name', variants', kind', visibility'⟩ := descriptor'
  cases isSum
  cases isSum'
  cases names
  cases visibilities
  -- All that stands before the branches depends on the name and the visibility only.
  simp only [Fragment.code, List.append_assoc] at same
  have declared : variants = variants' := Fragment.eq_of_branches
    (fun variant member => ⟨wellFormed.variants variant member, unmarked variant member⟩)
    (fun variant member => ⟨wellFormed'.variants variant member, unmarked' variant member⟩)
    (List.append_cancel_left (List.append_cancel_left same))
  rw [declared]

/-- The Rust code of a decoded sum type is always printed, and two such types have the same code only
if they are the same, as long as their field types do not hold the mark. -/
theorem print_rust_injective {options : Options} {naming : Option NamingStrategy} {generator : Generator}
    {capability : Text} (made : make options naming = .ok generator)
    (worded : options.capability = .text capability) {value value' : Value}
    {descriptor descriptor' : Descriptor} (decoded : Descriptor.decode value = .ok descriptor)
    (decoded' : Descriptor.decode value' = .ok descriptor') (isSum : descriptor.kind = .sum)
    (isSum' : descriptor'.kind = .sum) (unmarked : descriptor.Unmarked)
    (unmarked' : descriptor'.Unmarked) :
    ∃ text text', generator.print .rust descriptor = .ok text ∧
      generator.print .rust descriptor' = .ok text' ∧
      (text = text' ↔ descriptor = descriptor') := by
  have wellFormed := Descriptor.wellFormed_of_decode decoded
  have wellFormed' := Descriptor.wellFormed_of_decode decoded'
  have inherited : generator.recipe.capability = .text capability := by
    rw [make_capability made, worded]
  refine ⟨_, _, generator.print_wellFormed .rust inherited isSum wellFormed,
    generator.print_wellFormed .rust inherited isSum' wellFormed', ?_, ?_⟩
  · exact eq_of_code_eq isSum isSum' wellFormed wellFormed' unmarked unmarked'
  · rintro rfl
    rfl

end Generator

/-- A type whose only variant has fields of the given types. -/
def Descriptor.tuple (types : List Text) : Descriptor where
  name := "Test"
  variants := [⟨"A", .shape (.positional (types.map .ref))⟩]

/-- Two fields are told from one whose type looks like two. -/
theorem Generator.print_rust_injective_tuples :
    ∃ text text', standard.print .rust (.tuple ["u8, <u8"]) = .ok text ∧
      standard.print .rust (.tuple ["u8", "u8"]) = .ok text' ∧ text ≠ text' := by
  have decoded : Descriptor.decode (.map (Entries.ofFields (Descriptor.tuple ["u8, <u8"]).encode)) =
      .ok (.tuple ["u8, <u8"]) := rfl
  have decoded' : Descriptor.decode (.map (Entries.ofFields (Descriptor.tuple ["u8", "u8"]).encode)) =
      .ok (.tuple ["u8", "u8"]) := rfl
  obtain ⟨text, text', printed, printed', same⟩ := print_rust_injective make_default rfl decoded
    decoded' rfl rfl (by decide) (by decide)
  exact ⟨text, text', printed, printed', fun equal => nomatch same.mp equal⟩

end VariantIter
