import VariantIter.Proofs.Consistency
import VariantIter.Proofs.Unambiguity

/-!
What can be read off a call.

In Python every variant is a call, whatever its payload, and nothing in it is escaped. Main statement: as long as no
field type holds the parentheses that follow a field type or the sign that follows a name, two calls are the same text
only if they have the same owner, variant and arguments. What they do not show is which kind of payload has no fields.
-/

namespace VariantIter

open Text (Delimits Apart)

/-! ## Lists up to the end of a text -/

/-- Whole lists can be read back also where an item may begin like the stop, as long as no item is empty. -/
theorem Text.joined_inj {α : Type} {valid : α → Prop} {print : α → Text} (each : Delimits valid print)
    {separator stop : Text} (apart : Apart separator stop) (filled : ∀ item, valid item → print item ≠ [])
    {items items' : List α} (accepted : ∀ item ∈ items, valid item) (accepted' : ∀ item ∈ items', valid item)
    (same : joined separator (items.map print) ++ stop = joined separator (items'.map print) ++ stop) :
    items = items' := by
  -- A list with an item is longer than the stop.
  have nonempty (item : α) (others : List α) (accepted : valid item) :
      joined separator ((item :: others).map print) ++ stop ≠ stop := by
    rw [List.map_cons, joined_cons, ne_eq, List.append_left_eq_self]
    exact List.append_ne_nil_of_left_ne_nil (filled item accepted) _
  cases items with
  | nil =>
    cases items' with
    | nil => rfl
    | cons item' others' => exact absurd same.symm (nonempty item' others' (accepted' item' List.mem_cons_self))
  | cons item others =>
    cases items' with
    | nil => exact absurd same (nonempty item others (accepted item List.mem_cons_self))
    | cons item' others' =>
      obtain ⟨first, rest⟩ := List.forall_mem_cons.mp accepted
      obtain ⟨first', rest'⟩ := List.forall_mem_cons.mp accepted'
      simp only [List.map_cons, joined_cons, List.append_assoc, List.flatMap_map] at same
      obtain ⟨rfl, after⟩ := each first first' same
      rw [← List.append_nil (_ ++ stop), ← List.append_nil (List.flatMap _ others' ++ stop)] at after
      obtain ⟨rfl, _⟩ := delimits_separated each apart rest rest' after
      rfl

/-- A mark that begins with a character that does not stand in front is not there in front. -/
theorem Text.infix_of_append {start : CodePoint} {mark front back : Text} (absent : start ∉ front)
    (found : start :: mark <:+: front ++ back) : start :: mark <:+: back := by
  induction front with
  | nil => exact found
  | cons c front ih =>
    rcases List.infix_cons_iff.mp found with ⟨after, same⟩ | later
    · have first : start = c := (List.cons.inj same).1
      exact absurd (first ▸ List.mem_cons_self) absent
    · exact ih (fun member => absent (List.mem_cons_of_mem c member)) later

/-! ## Arguments -/

/-- The argument of a call: a field type, after the name of the field if it has one. -/
structure CallArgument where
  name : Option Text
  type : Text

namespace CallArgument

/-- An argument up to the parentheses. -/
def label : CallArgument → Text
  | ⟨none, type⟩ => type
  | ⟨some name, type⟩ => name ++ ("=" ++ type)

/-- The name is accepted, and the type holds neither parentheses of a call nor an equals sign. -/
structure Clear (argument : CallArgument) : Prop where
  name : ∀ name, argument.name = some name → Identifier.isName name = true
  type : ¬ Text.ofString "()" <:+: argument.type ∧ .char '=' ∉ argument.type

theorem unbordered_parentheses : Text.Unbordered "()" :=
  Text.unbordered_concat (by decide : .char ')' ∉ Text.ofString "(")

/-- A label holds no parentheses of a call either. -/
theorem Clear.label {argument : CallArgument} (clear : argument.Clear) :
    ¬ Text.ofString "()" <:+: argument.label := by
  obtain ⟨name, type⟩ := argument
  cases name with
  | none => exact clear.type.1
  | some name =>
    intro found
    have outside : .char '(' ∉ name := fun member =>
      absurd (Identifier.isInner_of_isName (clear.name name rfl) _ member) (by decide)
    have behind := Text.infix_of_append outside found
    exact clear.type.1 (Text.infix_of_append (by decide : .char '(' ∉ Text.ofString "=") behind)

/-- An equals sign tells an argument with a name from one without. -/
theorem eq_of_label {argument argument' : CallArgument} (clear : argument.Clear) (clear' : argument'.Clear)
    (same : argument.label = argument'.label) : argument = argument' := by
  have leaves (type : Text) : Text.Leaves Identifier.IsInner ("=" ++ type) := ⟨.char '=', _, rfl, by decide⟩
  have sign (name type : Text) : .char '=' ∈ name ++ ("=" ++ type) :=
    List.mem_append_right name List.mem_cons_self
  obtain ⟨name, type⟩ := argument
  obtain ⟨name', type'⟩ := argument'
  cases name with
  | none =>
    cases name' with
    | none => exact congrArg (CallArgument.mk none) same
    | some name' =>
      have given : type = name' ++ ("=" ++ type') := same
      exact absurd (given ▸ sign name' type') clear.type.2
  | some name =>
    cases name' with
    | none =>
      have given : name ++ ("=" ++ type) = type' := same
      exact absurd (given ▸ sign name type) clear'.type.2
    | some name' =>
      obtain ⟨rfl, after⟩ := Identifier.append_inj_of_isName (clear.name name rfl) (clear'.name name' rfl)
        (leaves type) (leaves type') same
      rw [List.append_cancel_left after]

/-- An argument as it is printed. -/
def python (argument : CallArgument) : Text :=
  argument.label ++ "()"

theorem delimits_python : Delimits Clear python := by
  intro argument argument' clear clear' rest rest' same
  obtain ⟨labels, after⟩ := Text.delimits_mark unbordered_parentheses clear.label clear'.label same
  exact ⟨eq_of_label clear clear' labels, after⟩

theorem python_ne_nil (argument : CallArgument) : argument.python ≠ [] :=
  List.append_ne_nil_of_right_ne_nil _ (List.cons_ne_nil _ _)

end CallArgument

/-! ## Calls -/

namespace Construction

/-- The arguments of the call of a construction. -/
def arguments (c : Construction) : List CallArgument :=
  match c.kind with
  | .none => []
  | .positional => c.positional.map fun value => ⟨none, value.type.text⟩
  | .named => c.named.map fun field => ⟨some field.1, field.2.type.text⟩

theorem construct_python (c : Construction) :
    Dialect.python.construct c =
      c.owner ++ ("." ++ (c.variant ++ ("(" ++ (Text.joined ", " (c.arguments.map CallArgument.python) ++ ")")))) := by
  obtain ⟨owner, variant, kind, positional, named⟩ := c
  cases kind with
  | none =>
    simp only [Dialect.construct, arguments, List.append_assoc]
    rfl
  | positional =>
    have listed : Dialect.python.arguments positional =
        Text.joined ", " ((positional.map fun value => ⟨none, value.type.text⟩).map CallArgument.python) := by
      rw [Dialect.arguments, List.map_map]
      rfl
    simp [Dialect.construct, arguments, listed]
  | named =>
    have listed : Dialect.python.namedArguments "=" named =
        Text.joined ", " ((named.map fun field => ⟨some field.1, field.2.type.text⟩).map CallArgument.python) := by
      rw [Dialect.namedArguments, List.map_map]
      congr 1
      refine List.map_congr_left fun field _ => ?_
      simp [CallArgument.python, CallArgument.label, Dialect.defaultValue]
    simp [Dialect.construct, arguments, listed]

theorem mem_arguments {c : Construction} {argument : CallArgument} (member : argument ∈ c.arguments) :
    (c.kind = .positional ∧ ∃ value ∈ c.positional, argument = ⟨none, value.type.text⟩) ∨
      (c.kind = .named ∧ ∃ field ∈ c.named, argument = ⟨some field.1, field.2.type.text⟩) := by
  obtain ⟨owner, variant, kind, positional, named⟩ := c
  cases kind with
  | none => cases member
  | positional =>
    obtain ⟨value, among, rfl⟩ := List.mem_map.mp member
    exact .inl ⟨rfl, value, among, rfl⟩
  | named =>
    obtain ⟨field, among, rfl⟩ := List.mem_map.mp member
    exact .inr ⟨rfl, field, among, rfl⟩

/-- Whether an argument has a name tells the kind. -/
theorem kind_of_mem_arguments {c : Construction} {argument : CallArgument} (member : argument ∈ c.arguments) :
    c.kind = if argument.name.isSome then .named else .positional := by
  rcases mem_arguments member with ⟨kind, _, _, rfl⟩ | ⟨kind, _, _, rfl⟩
  · exact kind
  · exact kind

/-- The arguments that there are for a kind, names and types. -/
def listed (kind : ShapeKind) (names types : List Text) : List CallArgument :=
  match kind with
  | .none => []
  | .positional => types.map fun type => ⟨none, type⟩
  | .named => List.zipWith (fun name type => ⟨some name, type⟩) names types

theorem arguments_eq (c : Construction) :
    c.arguments = listed c.kind (c.named.map Prod.fst) (c.types.map TypeRef.text) := by
  obtain ⟨owner, variant, kind, positional, named⟩ := c
  cases kind with
  | none => rfl
  | positional => simp [arguments, listed, types]
  | named => simp [arguments, listed, types, List.zipWith_map, List.zipWith_self]

theorem arguments_types (c : Construction) : c.arguments.map CallArgument.type = c.types.map TypeRef.text := by
  obtain ⟨owner, variant, kind, positional, named⟩ := c
  cases kind with
  | none => rfl
  | positional => simp [arguments, types]
  | named => simp [arguments, types]

theorem arguments_eq_nil {c : Construction} : c.arguments = [] ↔ c.types = [] := by
  rw [← List.map_eq_nil_iff, arguments_types, List.map_eq_nil_iff]

theorem arguments_names {c : Construction} (unnamed : c.kind ≠ .named → c.named = []) :
    c.arguments.filterMap CallArgument.name = c.named.map Prod.fst := by
  obtain ⟨owner, variant, kind, positional, named⟩ := c
  cases kind with
  | none =>
    cases unnamed (by simp)
    rfl
  | positional =>
    cases unnamed (by simp)
    simp [arguments]
  | named => simp [arguments, List.filterMap_map]

/-- Two constructions have the same arguments if they have none, or the same types and names of the same kind. -/
theorem arguments_inj {c c' : Construction} (unnamed : c.kind ≠ .named → c.named = [])
    (unnamed' : c'.kind ≠ .named → c'.named = []) :
    c.arguments = c'.arguments ↔ c.types = [] ∧ c'.types = [] ∨
      c.kind = c'.kind ∧ c.types.map TypeRef.text = c'.types.map TypeRef.text ∧
        c.named.map Prod.fst = c'.named.map Prod.fst := by
  constructor
  · intro same
    cases given : c.arguments with
    | nil => exact .inl ⟨arguments_eq_nil.mp given, arguments_eq_nil.mp (same ▸ given)⟩
    | cons argument others =>
      have member : argument ∈ c.arguments := given ▸ List.mem_cons_self
      refine .inr ⟨?_, ?_, ?_⟩
      · rw [kind_of_mem_arguments member, kind_of_mem_arguments (same ▸ member)]
      · rw [← arguments_types, ← arguments_types, same]
      · rw [← arguments_names unnamed, ← arguments_names unnamed', same]
  · rintro (⟨none, none'⟩ | ⟨kinds, types, names⟩)
    · rw [arguments_eq_nil.mpr none, arguments_eq_nil.mpr none']
    · rw [arguments_eq, arguments_eq, kinds, types, names]

theorem unnamed_of_build {owner : Text} {variant : Variant} {c : Construction}
    (built : build owner variant = .ok c) : c.kind ≠ .named → c.named = [] := by
  rw [build_eq] at built
  obtain ⟨shape, _, rfl⟩ := Outcome.map_eq_ok.mp built
  exact (fits_ofShape owner variant.name shape).noNamed

/-- A construction that can be read off its call: names are accepted, and no field type holds the parentheses of a
call or an equals sign. -/
structure Clear (c : Construction) : Prop where
  owner : Identifier.isName c.owner = true
  variant : Identifier.isName c.variant = true
  names : ∀ field ∈ c.named, Identifier.isName field.1 = true
  types : ∀ type ∈ c.types, ¬ Text.ofString "()" <:+: type.text ∧ .char '=' ∉ type.text

theorem Clear.arguments {c : Construction} (clear : c.Clear) : ∀ argument ∈ c.arguments, argument.Clear := by
  intro argument member
  have typed : argument.type ∈ c.types.map TypeRef.text := c.arguments_types ▸ List.mem_map_of_mem member
  obtain ⟨type, among, same⟩ := List.mem_map.mp typed
  refine ⟨?_, same ▸ clear.types type among⟩
  rcases mem_arguments member with ⟨_, value, _, rfl⟩ | ⟨_, field, among, rfl⟩
  · rintro name ⟨⟩
  · rintro name ⟨⟩
    exact clear.names field among

/-- A call is read from the left: the owner up to the dot, the variant up to the parenthesis, then the arguments. -/
theorem Clear.construct_inj {c c' : Construction} (clear : c.Clear) (clear' : c'.Clear) :
    Dialect.python.construct c = Dialect.python.construct c' ↔
      c.owner = c'.owner ∧ c.variant = c'.variant ∧ c.arguments = c'.arguments := by
  have dot (rest : Text) : Text.Leaves Identifier.IsInner ("." ++ rest) := ⟨.char '.', _, rfl, by decide⟩
  have parenthesis (rest : Text) : Text.Leaves Identifier.IsInner ("(" ++ rest) := ⟨.char '(', _, rfl, by decide⟩
  rw [construct_python, construct_python]
  constructor
  · intro same
    obtain ⟨owners, afterOwner⟩ :=
      Identifier.append_inj_of_isName clear.owner clear'.owner (dot _) (dot _) same
    obtain ⟨variants, afterVariant⟩ := Identifier.append_inj_of_isName clear.variant clear'.variant
      (parenthesis _) (parenthesis _) (List.append_cancel_left afterOwner)
    refine ⟨owners, variants, ?_⟩
    exact Text.joined_inj CallArgument.delimits_python (Text.apart_cons (by decide) _ _)
      (fun argument _ => argument.python_ne_nil) clear.arguments clear'.arguments
      (List.append_cancel_left afterVariant)
  · rintro ⟨owners, variants, arguments⟩
    rw [owners, variants, arguments]

theorem eq_map_ref {types : List TypeRef} (refs : ∀ type ∈ types, ∃ text, type = .ref text) :
    types = (types.map TypeRef.text).map .ref := by
  rw [List.map_map]
  refine (List.map_congr_left fun type member => ?_).trans (List.map_id types) |>.symm
  obtain ⟨text, rfl⟩ := refs type member
  rfl

/-- Two constructions have the same call exactly if they have the same owner and variant, and either no arguments at
all, or the same types in the same order, under the same names if they have names. Types that are references are the
same if their texts are. -/
theorem call_injective {owner owner' : Text} {variant variant' : Variant} {c c' : Construction}
    (built : build owner variant = .ok c) (built' : build owner' variant' = .ok c') (clear : c.Clear)
    (clear' : c'.Clear) :
    (Dialect.python.construct c = Dialect.python.construct c' ↔
      c.owner = c'.owner ∧ c.variant = c'.variant ∧
        (c.types = [] ∧ c'.types = [] ∨
          c.kind = c'.kind ∧ c.types.map TypeRef.text = c'.types.map TypeRef.text ∧
            c.named.map Prod.fst = c'.named.map Prod.fst)) ∧
    (Dialect.python.construct c = Dialect.python.construct c' →
      (∀ type ∈ c.types ++ c'.types, ∃ text, type = .ref text) → c.types = c'.types) := by
  rw [clear.construct_inj clear', arguments_inj (unnamed_of_build built) (unnamed_of_build built')]
  refine ⟨Iff.rfl, ?_⟩
  rintro ⟨_, _, arguments⟩ refs
  obtain ⟨ofFirst, ofSecond⟩ := List.forall_mem_append.mp refs
  rcases arguments with ⟨none, none'⟩ | ⟨_, types, _⟩
  · rw [none, none']
  · rw [eq_map_ref ofFirst, eq_map_ref ofSecond, types]

/-- Two fields are told from one whose type looks like two. -/
theorem call_injective_pairs :
    ∃ c c' : Construction,
      build "Test" ⟨"A", .shape (.positional [.ref "u8, u8"])⟩ = .ok c ∧
      build "Test" ⟨"A", .shape (.positional [.ref "u8", .bare (.text "u8")])⟩ = .ok c' ∧
      Dialect.python.construct c ≠ Dialect.python.construct c' := by
  have built : build "Test" ⟨"A", .shape (.positional [.ref "u8, u8"])⟩ =
      .ok (.ofShape "Test" "A" (.positional [.ref "u8, u8"])) := rfl
  have built' : build "Test" ⟨"A", .shape (.positional [.ref "u8", .bare (.text "u8")])⟩ =
      .ok (.ofShape "Test" "A" (.positional [.ref "u8", .bare (.text "u8")])) := rfl
  refine ⟨_, _, built, built', fun same => ?_⟩
  have clear : Clear (.ofShape "Test" "A" (.positional [.ref "u8, u8"])) :=
    ⟨rfl, rfl, List.forall_mem_nil _, by decide⟩
  have clear' : Clear (.ofShape "Test" "A" (.positional [.ref "u8", .bare (.text "u8")])) :=
    ⟨rfl, rfl, List.forall_mem_nil _, by decide⟩
  obtain ⟨_, _, ⟨none, _⟩ | ⟨_, types, _⟩⟩ := (call_injective built built' clear clear').1.mp same
  · cases none
  · cases types

end Construction

end VariantIter
