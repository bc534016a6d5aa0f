import Mathlib.Data.List.Sigma
import VariantIter.Proofs.Consistency
import VariantIter.Proofs.Layout
import VariantIter.Proofs.Listing

/-!
Names that share a scope.

The class of an iterator declares its methods, and an iterator has its counter besides; the owner has its
variants and the entry operation. A later declaration hides an earlier one of the same name, and the
counter of an iterator hides a method. Options are checked one by one, and variants are taken as they are
given, so names can clash. Main statement: no name hides another in an iterator exactly if the options name
the counter and the mapping apart from each other and from the fixed methods, and none on the owner
exactly if the variants are named apart from each other and from the entry operation.
-/

namespace VariantIter

/-! ## Names in a class -/

namespace Text

/-- A private name has two underscores in front, and not two at its end. -/
def isPrivate (name : Text) : Bool :=
  List.isPrefixOf (ofString "__") name && !List.isSuffixOf (ofString "__") name

/-- The name that a name in a class is known by. A private name gets an underscore and the name of the
class in front, without the underscores that the latter begins with; a class of underscores only leaves it
as it is. -/
def knownIn (owner name : Text) : Text :=
  let stem := owner.dropWhile (· == .char '_')
  if isPrivate name && !stem.isEmpty then .char '_' :: stem ++ name else name

theorem knownIn_of_not_isPrivate {name : Text} (open' : isPrivate name = false) (owner : Text) :
    knownIn owner name = name := by
  simp [knownIn, open']

/-- No private name is known as one that begins with two underscores. -/
theorem knownIn_eq_iff {owner name fixed : Text} (open' : isPrivate fixed = false)
    (begins : ∃ rest, fixed = .char '_' :: .char '_' :: rest) :
    knownIn owner name = fixed ↔ name = fixed := by
  obtain ⟨rest, rfl⟩ := begins
  cases hidden : isPrivate name with
  | false => rw [knownIn_of_not_isPrivate hidden]
  | true =>
    have differs : name ≠ .char '_' :: .char '_' :: rest := by
      rintro rfl
      cases hidden.symm.trans open'
    unfold knownIn
    -- What is left of the class begins with something else than an underscore.
    cases stem : owner.dropWhile (· == .char '_') with
    | nil => simp [differs]
    | cons c cs =>
      have first : c ≠ .char '_' := by
        have stops := List.head_dropWhile_not (· == .char '_') (l := owner) (by simp [stem])
        simpa [stem] using stops
      simp [hidden, differs, first]

end Text

/-! ## Scopes -/

/-- What a template declares: by a word of its own, or by a name that is filled in. -/
inductive Template.Declaration where
  | word (name : Text)
  | place (path : Path)
deriving DecidableEq, Repr

/-- What a name can stand for: a variant at a place, or what a template declares. -/
inductive Member where
  | variant (index : Nat)
  | declared (declaration : Template.Declaration)
deriving DecidableEq, Repr

/-- Names with what they are declared for, in the order of their declarations. -/
abbrev NameScope := List (Text × Member)

namespace NameScope

def names (scope : NameScope) : List Text :=
  scope.map Prod.fst

/-- What a name stands for: a later declaration hides an earlier one. -/
def resolve (scope : NameScope) (name : Text) : Option Member :=
  scope.reverse.lookup name

/-- Every declared name stands for what it is declared for. -/
def Clear (scope : NameScope) : Prop :=
  ∀ declared ∈ scope, scope.resolve declared.1 = some declared.2

theorem clear_iff {scope : NameScope} (distinct : (scope.map Prod.snd).Nodup) :
    scope.Clear ↔ scope.names.Nodup := by
  have once : List.Nodup scope := distinct.of_map _
  constructor
  · intro clear
    refine (List.nodup_map_iff_inj_on once).mpr fun a first b second same => ?_
    have found := clear a first
    rw [same, clear b second] at found
    exact Prod.ext same (Option.some.inj found).symm
  · intro apart declared member
    obtain ⟨before, after, split⟩ := List.append_of_mem (List.mem_reverse.mpr member)
    refine List.lookup_eq_some_iff.mpr ⟨before, after, split, fun other earlier => ?_⟩
    have reversed : (scope.reverse.map Prod.fst).Nodup := by
      rw [List.map_reverse]
      exact List.nodup_reverse.mpr apart
    rw [split, List.map_append, List.map_cons, List.nodup_append] at reversed
    have differs := reversed.2.2 other.1 (List.mem_map_of_mem earlier) declared.1 List.mem_cons_self
    simpa using Ne.symm differs

end NameScope

namespace Template

/-- The word that a text begins with, if the given text follows it. -/
def wordBefore? (after text : Text) : Option Text :=
  let word := text.takeWhile Identifier.isPart
  if !word.isEmpty && after.isPrefixOf (text.drop word.length) then some word else none

/-- The words between the given texts, of which the first starts a line. -/
def wordsBetween (before after : Text) : Text → List Text
  | [] => []
  | c :: cs =>
      if c.code == '\n'.toNat && before.isPrefixOf cs then
        (wordBefore? after (cs.drop before.length)).toList ++ wordsBetween before after cs
      else wordsBetween before after cs

/-- What a template declares between the given texts, of which the first starts a line. Loops are left
out. -/
def declaredBetween (before after : Text) : List Piece → List Declaration
  | [] => []
  | .text text :: pieces =>
      let filled := match pieces with
        | .place path _ :: .text next :: _ =>
            if List.isSuffixOf (.char '\n' :: before) text && after.isPrefixOf next then
              [Declaration.place path]
            else []
        | _ => []
      (wordsBetween before after text).map .word ++ filled ++ declaredBetween before after pieces
  | _ :: pieces => declaredBetween before after pieces

/-- What the class of an iterator declares: its methods, then what it sets on the iterator. -/
def classDeclarations : List Declaration :=
  match parse (bundled .python) with
  | .ok pieces => declaredBetween "    def " "(" pieces ++ declaredBetween "        self." " = " pieces
  | .error _ => []

theorem classDeclarations_eq :
    classDeclarations = [.word "__init__", .word "__iter__", .place ["mapping", "name"], .word "__next__",
      .place ["state", "counter"]] := by
  unfold classDeclarations
  simp only [parse_bundled]
  cbv

end Template

namespace Fragment

/-- The name of a declaration in the code of a fragment. -/
def nameOf (f : Fragment) : Template.Declaration → Text
  | .word name => name
  | .place path =>
      (Template.Piece.render .python (Template.fragmentScope f) (.place path [])).toOption.getD []

/-- The names of an iterator: the methods of its class in order, then the counter, which is set when an
iteration starts and hides a method. -/
def iteratorScope (f : Fragment) : NameScope :=
  Template.classDeclarations.map fun declaration =>
    (Text.knownIn f.state.name (f.nameOf declaration), .declared declaration)

/-- The names of the owner: its variants in order, then the entry operation, which is added later. -/
def ownerScope (f : Fragment) : NameScope :=
  f.mapping.branches.map (fun branch => (branch.construction.variant, .variant branch.index)) ++
    [(f.entry.name, .declared (.place ["entry", "name"]))]

end Fragment

/-- The methods that every iterator has. -/
def fixedMethods : List Text :=
  ["__init__", "__iter__", "__next__"]

/-- The counter and the mapping of an iterator are named apart from each other and from its methods. -/
def NamedApart (iterator counter mapping : Text) : Prop :=
  Text.knownIn iterator counter ≠ Text.knownIn iterator mapping ∧
    counter ∉ fixedMethods ∧ mapping ∉ fixedMethods

theorem knownIn_mem_fixedMethods {iterator name : Text} :
    Text.knownIn iterator name ∈ fixedMethods ↔ name ∈ fixedMethods := by
  have same {method : Text} (shown : method.isPrivate = false)
      (begins : ∃ rest, method = .char '_' :: .char '_' :: rest) :=
    @Text.knownIn_eq_iff iterator name method shown begins
  simp only [fixedMethods, List.mem_cons, List.not_mem_nil, or_false]
  exact or_congr (same rfl ⟨_, rfl⟩) (or_congr (same rfl ⟨_, rfl⟩) (same rfl ⟨_, rfl⟩))

theorem Fragment.names_iteratorScope (f : Fragment) :
    f.iteratorScope.names =
      ([Text.ofString "__init__", Text.ofString "__iter__", Text.knownIn f.state.name f.mapping.name,
        Text.ofString "__next__", Text.knownIn f.state.name f.state.counter] : List Text) := by
  have mapping : f.nameOf (.place ["mapping", "name"]) = f.mapping.name := rfl
  have counter : f.nameOf (.place ["state", "counter"]) = f.state.counter := rfl
  have fixed (method : Text) (shown : method.isPrivate = false) :
      Text.knownIn f.state.name (f.nameOf (.word method)) = method :=
    Text.knownIn_of_not_isPrivate shown f.state.name
  simp only [NameScope.names, iteratorScope, Template.classDeclarations_eq, List.map_cons, List.map_nil,
    mapping, counter]
  rw [fixed _ rfl, fixed _ rfl, fixed _ rfl]

/-- The fixed methods differ from each other, so the names of an iterator differ if the others do. -/
theorem Fragment.nodup_iteratorScope (f : Fragment) :
    f.iteratorScope.names.Nodup ↔ NamedApart f.state.name f.state.counter f.mapping.name := by
  have reordered : f.iteratorScope.names.Perm (Text.knownIn f.state.name f.state.counter ::
      Text.knownIn f.state.name f.mapping.name :: fixedMethods) := by
    have moved (a b c d : Text) : [a, b, c, d].Perm [c, a, b, d] := @List.perm_middle _ c [a, b] [d]
    rw [f.names_iteratorScope]
    exact (List.perm_append_singleton _ [_, _, _, _]).trans ((moved _ _ _ _).cons _)
  have fixed : fixedMethods.Nodup := by decide
  rw [reordered.nodup_iff, List.nodup_cons, List.nodup_cons, List.mem_cons, not_or,
    knownIn_mem_fixedMethods, knownIn_mem_fixedMethods, and_assoc, and_iff_left fixed]
  rfl

theorem Fragment.clear_iteratorScope (f : Fragment) :
    f.iteratorScope.Clear ↔ f.iteratorScope.names.Nodup := by
  have members : f.iteratorScope.map Prod.snd = Template.classDeclarations.map .declared := by
    rw [iteratorScope, List.map_map]
    rfl
  apply NameScope.clear_iff
  rw [members, Template.classDeclarations_eq]
  decide

/-- The names of the branches are those of the variants, each for the place of its variant. -/
theorem Branch.members_eq {owner : Text} {places : List (Variant × Nat)} {branches : List Branch}
    (each : List.Forall₂ (fun place branch => branch.IsOf owner place.1 place.2) places branches) :
    branches.map (fun branch => (branch.construction.variant, Member.variant branch.index)) =
      places.map fun place => (place.1.name, Member.variant place.2) := by
  induction each with
  | nil => rfl
  | cons head _ ih =>
    obtain ⟨shape, _, fits⟩ := head.construction
    rw [List.map_cons, List.map_cons, ih, head.index, fits.variant]

section

variable {options : Options} {naming : NamingStrategy} {descriptor : Descriptor} {f : Fragment}

theorem Fragment.Describes.ownerScope_eq (describes : f.Describes options naming descriptor) :
    f.ownerScope = descriptor.variants.zipIdx.map (fun place => (place.1.name, .variant place.2)) ++
      [(options.entry.display, .declared (.place ["entry", "name"]))] := by
  rw [Fragment.ownerScope, Branch.members_eq describes.branches, describes.entry]

theorem Fragment.Describes.names_ownerScope (describes : f.Describes options naming descriptor) :
    f.ownerScope.names = descriptor.variants.map Variant.name ++ [options.entry.display] := by
  have names := calc
    descriptor.variants.zipIdx.map (fun place => place.1.name)
    _ = (descriptor.variants.zipIdx.map Prod.fst).map Variant.name := by rw [List.map_map]; rfl
    _ = descriptor.variants.map Variant.name := by rw [List.zipIdx_map_fst]
  rw [NameScope.names, describes.ownerScope_eq, List.map_append, List.map_map, ← names]
  rfl

theorem Fragment.Describes.nodup_ownerScope (describes : f.Describes options naming descriptor) :
    f.ownerScope.names.Nodup ↔ (descriptor.variants.map Variant.name).Nodup ∧
      ∀ variant ∈ descriptor.variants, variant.name ≠ options.entry.display := by
  rw [describes.names_ownerScope, ← List.concat_eq_append, List.nodup_concat, List.mem_map, and_comm]
  refine and_congr_right fun _ => ⟨fun apart variant member same => apart ⟨variant, member, same⟩, ?_⟩
  rintro apart ⟨variant, member, same⟩
  exact apart variant member same

/-- Places differ, so nothing on the owner is hidden if the names differ. -/
theorem Fragment.Describes.clear_ownerScope (describes : f.Describes options naming descriptor) :
    f.ownerScope.Clear ↔ f.ownerScope.names.Nodup := by
  refine NameScope.clear_iff ?_
  have members : f.ownerScope.map Prod.snd =
      (descriptor.variants.zipIdx.map Prod.snd).map Member.variant ++
        [.declared (.place ["entry", "name"])] := by
    rw [describes.ownerScope_eq, List.map_append, List.map_map, List.map_map]
    rfl
  have places := (List.nodup_zipIdx_map_snd descriptor.variants).map
    (fun _ _ same => Member.variant.inj same : Function.Injective Member.variant)
  rw [members, ← List.concat_eq_append, List.nodup_concat]
  exact ⟨by simp, places⟩

end

/-! ## The code of a sum type -/

/-- Names that are not private and none of the fixed methods clash only with each other. -/
theorem namedApart_default (iterator : Text) : NamedApart iterator "idx" "get" := by
  refine ⟨?_, by decide, by decide⟩
  rw [Text.knownIn_of_not_isPrivate rfl, Text.knownIn_of_not_isPrivate rfl]
  decide

namespace Generator

/-- For options that pass the check, any naming and any sum type that was decoded: which names the code of
the type puts into the scope of an iterator and into that of the owner, when they differ, and that no name
hides another exactly then. -/
theorem generate_scopes {options : Options} {recipe : Recipe} (checked : options.check = .ok recipe)
    (naming : NamingStrategy) {value : Value} {descriptor : Descriptor}
    (decoded : Descriptor.decode value = .ok descriptor) (isSum : descriptor.kind = .sum) :
    ∃ f, (generate ⟨recipe, naming⟩ descriptor).outcome = .ok f ∧
      f.iteratorScope.names =
        ([Text.ofString "__init__", Text.ofString "__iter__",
          Text.knownIn (naming.iteratorName descriptor.name) options.mapping.display,
          Text.ofString "__next__",
          Text.knownIn (naming.iteratorName descriptor.name) options.counter.display] : List Text) ∧
      f.ownerScope.names = descriptor.variants.map Variant.name ++ [options.entry.display] ∧
      (f.iteratorScope.names.Nodup ↔ NamedApart (naming.iteratorName descriptor.name)
        options.counter.display options.mapping.display) ∧
      (f.ownerScope.names.Nodup ↔ (descriptor.variants.map Variant.name).Nodup ∧
        ∀ variant ∈ descriptor.variants, variant.name ≠ options.entry.display) ∧
      (f.iteratorScope.Clear ↔ f.iteratorScope.names.Nodup) ∧
      (f.ownerScope.Clear ↔ f.ownerScope.names.Nodup) := by
  have made : make options (some naming) = .ok ⟨recipe, naming⟩ := by
    rw [make, checked]
    rfl
  have shaped := (Descriptor.wellFormed_of_decode decoded).shaped
  obtain ⟨constructions, built⟩ := exists_constructions shaped
  have describes := describes_assemble made (Outcome.mapM_eq_ok.mp built)
  refine ⟨_, generate_eq_ok.mpr ⟨isSum, constructions, built, rfl⟩, ?_, describes.names_ownerScope, ?_,
    describes.nodup_ownerScope, Fragment.clear_iteratorScope _, describes.clear_ownerScope⟩
  · rw [Fragment.names_iteratorScope, describes.iterator, describes.mapping, describes.counter]
  · rw [Fragment.nodup_iteratorScope, describes.iterator, describes.mapping, describes.counter]

/-- A type with two variants of one name. -/
def twiceNamed : Value :=
  .map [(.text "name", .text "Test"), (.text "variants", .list [.text "A", .text "B", .text "A"])]

theorem generate_scopes_twiceNamed :
    ∃ descriptor, Descriptor.decode twiceNamed = .ok descriptor ∧
      ({} : Options).check = .ok standard.recipe ∧ descriptor.kind = .sum ∧
      ∃ f, (standard.generate descriptor).outcome = .ok f ∧ f.iteratorScope.Clear ∧
        ¬ f.ownerScope.Clear := by
  have decoded : Descriptor.decode twiceNamed = .ok
      ⟨"Test", [⟨"A", .shape .none⟩, ⟨"B", .shape .none⟩, ⟨"A", .shape .none⟩], .sum, ""⟩ := rfl
  have checked : ({} : Options).check = .ok standard.recipe := rfl
  refine ⟨_, decoded, checked, rfl, ?_⟩
  obtain ⟨f, generated, _, names, apart, _, clear, ownerClear⟩ :=
    generate_scopes checked standard.naming decoded rfl
  refine ⟨f, generated, clear.mpr (apart.mpr (namedApart_default _)), fun hidden => ?_⟩
  have differ := ownerClear.mp hidden
  rw [names] at differ
  revert differ
  decide

/-- Options that name the counter like the mapping pass the check, and a type that was decoded then has an
iterator in which one hides the other. -/
theorem counter_hides_mapping :
    ∃ recipe value f,
      ({ counter := .text "get", target := .text "python" } : Options).check = .ok recipe ∧
      Descriptor.decode value = .ok .flag ∧
      (generate ⟨recipe, Naming.strategy ⟨Naming.defaultStem⟩⟩ .flag).outcome = .ok f ∧
      ¬ f.iteratorScope.names.Nodup := by
  refine ⟨_, .map [(.text "name", .text "Flag"), (.text "variants", .list [.text "On"])], _, rfl, rfl, rfl,
    ?_⟩
  rw [Fragment.names_iteratorScope]
  decide

end Generator

end VariantIter
