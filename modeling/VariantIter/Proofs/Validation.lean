import VariantIter.Proofs.Configuration
import VariantIter.Proofs.Showable

/-!
Which options make a generator.

`Options.check` goes through the options in order and stops at the first at fault. `Field.Fits` says what the
value of an option has to be, and `Field.Refuses` with which fault it is refused otherwise. Main statement: the
check accepts exactly the options that all fit, and generators are made from exactly those. What is looked at again
later, the stem by a naming and the target by a printer, passes there as well.
-/

namespace VariantIter

/-! ## Labels and what counts as given -/

/-- Tying a knot changes nothing about whether a value counts as given. -/
theorem Value.truthy_tie {label : Nat} {whole : Value} :
    (value : Value) → (value.truthy = true → whole.truthy = true) →
      (tie label whole value).truthy = value.truthy
  | .again other, given => by
    rw [tie]
    split
    · exact given rfl
    · rfl
  | .knot other value, given => by
    rw [tie]
    split
    · rfl
    · exact truthy_tie value given
  | .list items, _ => by
    cases items with
    | nil => rfl
    | cons item items => rfl
  | .tuple items, _ => by
    cases items with
    | nil => rfl
    | cons item items => rfl
  | .map entries, _ => by
    cases entries with
    | nil => rfl
    | cons entry entries => rfl
  | .null, _ | .bool _, _ | .int _, _ | .double _, _ | .text _, _ | .bytes _, _ | .date _, _
  | .moment _, _ | .set _, _ | .shared _ _, _ => rfl

theorem Value.truthy_content (value : Value) : value.content.truthy = value.truthy := by
  cases value with
  | knot label value => exact truthy_tie value fun given => given
  | _ => rfl

namespace Options

/-! ## The options one by one -/

/-- The options that there are. -/
inductive Field where
  | capability
  | stem
  | entry
  | mapping
  | counter
  | target
deriving DecidableEq

/-- The options in the order in which they are checked. -/
def Field.all : List Field :=
  [.capability, .stem, .entry, .mapping, .counter, .target]

theorem Field.mem_all (field : Field) : field ∈ all := by
  cases field <;> decide

def Field.name : Field → Text
  | .capability => "capability_name"
  | .stem => "iterator_prefix"
  | .entry => "entry_name"
  | .mapping => "mapping_name"
  | .counter => "counter_name"
  | .target => "target_dialect"

def get (options : Options) : Field → Value
  | .capability => options.capability
  | .stem => options.stem
  | .entry => options.entry
  | .mapping => options.mapping
  | .counter => options.counter
  | .target => options.target

namespace Field

/-- A text that is a name. -/
def IsName (value : Value) : Prop :=
  ∃ s, value.content = .text s ∧ Identifier.isName s = true

/-- What the value of an option has to be. -/
def Fits : Field → Value → Prop
  | .capability, value => value.truthy = true
  | .target, value => value.content = .text "rust" ∨ value.content = .text "python"
  | _, value => IsName value

/-- Whether the value of an option is of a kind that its check cannot look at: the stem has to be a text, and
the other names have to if they count as given. -/
def Mistyped : Field → Value → Prop
  | .capability, _ | .target, _ => False
  | .stem, value => ∀ s, value.content ≠ .text s
  | _, value => value.truthy = true ∧ ∀ s, value.content ≠ .text s

/-- What is said about the value of an option that does not fit. -/
def complaint : Field → Value → SettingsFault
  | .capability, _ => .emptyCapability
  | .stem, value => .invalidStem value
  | .target, value => .unsupportedDialect value
  | field, _ => .notIdentifier field.name

/-- Whether what is said about a value that does not fit can be said: a target is shown, and has to be showable. -/
def Said : Field → Value → Prop
  | .target, value => value.isShowable = true
  | _, _ => True

/-- The fault with which a value that does not fit is refused. -/
inductive Refuses (field : Field) (value : Value) : Fault → Prop
  | kind (mistyped : field.Mistyped value) : Refuses field value (.kind (.ofNoText value.content))
  | settings (looked : ¬ field.Mistyped value) (said : field.Said value) :
      Refuses field value (.settings (field.complaint value) (some (.text field.name)))
  | digits (looked : ¬ field.Mistyped value) (unsaid : ¬ field.Said value) :
      Refuses field value (.range .unshowable)

/-- The part of the check that looks at one option. -/
def check : Field → Value → Except Fault Unit
  | .capability, value =>
      if !value.truthy then .error (.settings .emptyCapability (some (.text "capability_name")))
      else .ok ()
  | .stem, value => (checkStem value).map fun _ => ()
  | .target, value => (checkTarget value).map fun _ => ()
  | field, value => (checkName field.name value).map fun _ => ()

/-- The check of an option ends as it should: it accepts a value that fits, and refuses any other with the
right fault. -/
def Decides (field : Field) (value : Value) : Except Fault Unit → Prop :=
  Outcome.Ends (fun _ => field.Fits value) fun fault => ¬ field.Fits value ∧ field.Refuses value fault

theorem isName_iff {value : Value} {s : Text} (content : value.content = .text s) :
    IsName value ↔ Identifier.isName s = true := by
  constructor
  · rintro ⟨other, same, named⟩
    cases content.symm.trans same
    exact named
  · intro named
    exact ⟨s, content, named⟩

theorem not_isName {value : Value} (other : ∀ s, value.content ≠ .text s) : ¬ IsName value := by
  rintro ⟨s, content, _⟩
  exact other s content

theorem check_capability_decides (value : Value) : Decides .capability value (check .capability value) := by
  refine Outcome.ends_ite (fun empty => ⟨?_, .settings (fun mistyped => mistyped) trivial⟩)
    fun given => ?_
  · intro given
    rw [Fits] at given
    rw [given] at empty
    cases empty
  · show value.truthy = true
    simpa using given

theorem check_stem_decides (value : Value) : Decides .stem value (check .stem value) := by
  rw [Decides, check, Outcome.ends_map, checkStem]
  cases content : value.content with
  | text s =>
    refine Outcome.ends_ite (isName_iff content).mpr fun unnamed => ⟨?_, .settings ?_ trivial⟩
    · exact mt (isName_iff content).mp unnamed
    · intro mistyped
      exact mistyped s content
  | _ =>
    have other : ∀ s, value.content ≠ .text s := by simp [content]
    have refused : Refuses .stem value (.kind (.ofNoText value.content)) := .kind other
    rw [content] at refused
    exact ⟨not_isName other, refused⟩

/-- The names other than the stem are checked alike. -/
theorem checkName_decides {field : Field} {value : Value} (fits : field.Fits value ↔ IsName value)
    (mistyped : field.Mistyped value ↔ value.truthy = true ∧ ∀ s, value.content ≠ .text s)
    (complains : field.complaint value = .notIdentifier field.name) (said : field.Said value) :
    Decides field value ((checkName field.name value).map fun _ => ()) := by
  have refused : ¬ field.Mistyped value →
      field.Refuses value (.settings (.notIdentifier field.name) (some (.text field.name))) := by
    intro looked
    rw [← complains]
    exact .settings looked said
  rw [Decides, Outcome.ends_map, checkName, Identifier.admits, fits]
  cases content : value.content with
  | text s =>
    refine Outcome.ends_ite (isName_iff content).mpr fun unnamed => ⟨?_, refused ?_⟩
    · exact mt (isName_iff content).mp unnamed
    · rw [mistyped]
      rintro ⟨_, other⟩
      exact other s content
  | _ =>
    have other : ∀ s, value.content ≠ .text s := by simp [content]
    have unnamed : ¬ IsName value := not_isName other
    have given := value.truthy_content
    rw [content] at given
    by_cases truthy : value.truthy = true
    · have stopped : field.Refuses value (.kind (.ofNoText value.content)) :=
        .kind (mistyped.mpr ⟨truthy, other⟩)
      rw [content] at stopped
      simp only [given, truthy, if_true]
      exact ⟨unnamed, stopped⟩
    · simp only [given, truthy]
      refine ⟨unnamed, refused ?_⟩
      rw [mistyped]
      rintro ⟨given, _⟩
      exact truthy given

/-- A target is refused by its name, or, if it cannot be shown, because of its digits. -/
theorem refuses_target (value : Value) : Refuses .target value
    (Fault.reported (.settings (.unsupportedDialect value) (some (.text "target_dialect")))) := by
  rw [Fault.reported, Fault.isShowable, SettingsFault.isShowable]
  by_cases said : value.isShowable = true
  · rw [if_pos (by simp [said, Value.isShowable])]
    exact .settings (fun mistyped => mistyped) said
  · rw [if_neg (by simp [said])]
    exact .digits (fun mistyped => mistyped) said

theorem check_target_decides (value : Value) : Decides .target value (check .target value) := by
  rw [Decides, check, Outcome.ends_map]
  cases checked : checkTarget value with
  | ok dialect =>
    have content := checkTarget_eq_ok checked
    cases dialect with
    | rust => exact .inl content
    | python => exact .inr content
  | error fault =>
    rw [checkTarget] at checked
    cases content : value.content with
    | text s =>
      simp only [content] at checked
      cases named : Dialect.ofName? s with
      | some dialect =>
        rw [named] at checked
        cases checked
      | none =>
        rw [named] at checked
        cases checked
        refine ⟨?_, refuses_target value⟩
        rintro (rust | python)
        · cases content.symm.trans rust
          exact absurd named (by decide)
        · cases content.symm.trans python
          exact absurd named (by decide)
    | _ =>
      simp only [content] at checked
      cases checked
      exact ⟨by simp [Fits, content], refuses_target value⟩

/-- The check of an option accepts exactly the values that fit. -/
theorem check_decides (field : Field) (value : Value) : field.Decides value (field.check value) := by
  cases field with
  | capability => exact check_capability_decides value
  | stem => exact check_stem_decides value
  | entry => exact checkName_decides .rfl .rfl rfl trivial
  | mapping => exact checkName_decides .rfl .rfl rfl trivial
  | counter => exact checkName_decides .rfl .rfl rfl trivial
  | target => exact check_target_decides value

theorem Refuses.unique {field : Field} {value : Value} {fault other : Fault}
    (refused : field.Refuses value fault) (again : field.Refuses value other) : fault = other := by
  cases refused with
  | kind mistyped =>
    cases again with
    | kind => rfl
    | settings looked _ => exact absurd mistyped looked
    | digits looked _ => exact absurd mistyped looked
  | settings looked said =>
    cases again with
    | kind mistyped => exact absurd mistyped looked
    | settings => rfl
    | digits _ unsaid => exact absurd said unsaid
  | digits looked unsaid =>
    cases again with
    | kind mistyped => exact absurd mistyped looked
    | settings _ said => exact absurd said unsaid
    | digits => rfl

theorem check_eq_error {field : Field} {value : Value} {fault : Fault} :
    field.check value = .error fault ↔ ¬ field.Fits value ∧ field.Refuses value fault := by
  constructor
  · exact (check_decides field value).error
  · rintro ⟨unfit, refused⟩
    cases checked : field.check value with
    | ok done => exact absurd ((check_decides field value).ok checked) unfit
    | error other => rw [refused.unique ((check_decides field value).error checked).2]

theorem exists_error {field : Field} {value : Value} :
    (∃ fault, field.check value = .error fault) ↔ ¬ field.Fits value := by
  constructor
  · rintro ⟨fault, failed⟩
    exact (check_eq_error.mp failed).1
  · intro unfit
    cases checked : field.check value with
    | ok done => exact absurd ((check_decides field value).ok checked) unfit
    | error fault => exact ⟨fault, rfl⟩

end Field

/-! ## All options -/

/-- The check looks at one option after the other. -/
theorem check_map_eq (options : Options) :
    options.check.map (fun _ => ()) =
      (Field.all.mapM fun field : Field => field.check (options.get field)).map fun _ => () := by
  unfold check
  simp only [Field.all, List.mapM_cons, List.mapM_nil, Field.check, get, Field.name]
  cases options.capability.truthy with
  | false => rfl
  | true =>
    cases checkStem options.stem with
    | error fault => rfl
    | ok stem =>
      cases checkName "entry_name" options.entry with
      | error fault => rfl
      | ok entry =>
        cases checkName "mapping_name" options.mapping with
        | error fault => rfl
        | ok mapping =>
          cases checkName "counter_name" options.counter with
          | error fault => rfl
          | ok counter =>
            cases checkTarget options.target with
            | error fault => rfl
            | ok target => rfl

/-- The first option that does not fit. -/
def Offends (options : Options) (field : Field) : Prop :=
  Outcome.First (fun field : Field => ¬ field.Fits (options.get field)) Field.all field

/-- The first option that does not fit decides the fault. -/
theorem check_eq_error {options : Options} {fault : Fault} :
    options.check = .error fault ↔
      ∃ field, options.Offends field ∧ field.Refuses (options.get field) fault := by
  rw [← Outcome.map_eq_error, check_map_eq, Outcome.map_eq_error, Outcome.mapM_eq_error]
  simp only [Field.exists_error]
  simp only [Field.check_eq_error]
  constructor
  · rintro ⟨field, first, _, refused⟩
    exact ⟨field, first, refused⟩
  · rintro ⟨field, first, refused⟩
    exact ⟨field, first, first.holds, refused⟩

/-- The check accepts the options that all fit. -/
theorem exists_check_eq_ok {options : Options} :
    (∃ recipe, options.check = .ok recipe) ↔ ∀ field : Field, field.Fits (options.get field) := by
  constructor
  · rintro ⟨recipe, checked⟩ field
    by_contra unfit
    obtain ⟨first, offends⟩ : ∃ first, options.Offends first :=
      Outcome.exists_first.mpr ⟨field, field.mem_all, unfit⟩
    obtain ⟨fault, refused⟩ := Field.exists_error.mpr offends.holds
    have failed := check_eq_error.mpr ⟨first, offends, (Field.check_eq_error.mp refused).2⟩
    cases checked.symm.trans failed
  · intro fit
    cases checked : options.check with
    | ok recipe => exact ⟨recipe, rfl⟩
    | error fault =>
      obtain ⟨field, offends, _⟩ := check_eq_error.mp checked
      exact absurd (fit field) offends.holds

/-- The fault of a check is reported as it is. -/
theorem reported_of_check {options : Options} {fault : Fault} (failed : options.check = .error fault) :
    fault.reported = fault := by
  obtain ⟨field, _, refused⟩ := check_eq_error.mp failed
  apply Fault.reported_of_isShowable
  cases refused with
  | kind => cases (options.get field).content <;> rfl
  | digits => rfl
  | settings looked said =>
    cases field with
    | stem =>
      obtain ⟨s, content⟩ := not_forall_not.mp looked
      have shown : options.stem.isShowable = true := Value.isShowable_of_text content
      simp [Fault.isShowable, SettingsFault.isShowable, Field.complaint, get, shown, Value.isShowable]
    | target =>
      have shown : options.target.isShowable = true := said
      simp [Fault.isShowable, SettingsFault.isShowable, Field.complaint, get, shown, Value.isShowable]
    | _ => rfl

end Options

/-! ## Generators -/

namespace Generator

theorem exists_make_of_check {options : Options} {recipe : Recipe}
    (checked : options.check = .ok recipe) (naming : Option NamingStrategy) :
    ∃ generator, make options naming = .ok generator := by
  cases naming with
  | none => exact ⟨_, make_of_check checked⟩
  | some naming =>
    refine ⟨⟨recipe, naming⟩, ?_⟩
    rw [make, checked]
    rfl

/-- Making a generator adds nothing to the check that could fail. -/
theorem make_eq_error {options : Options} {naming : Option NamingStrategy} {fault : Fault} :
    make options naming = .error fault ↔ options.check = .error fault := by
  cases checked : options.check with
  | error other =>
    have failed : make options naming = .error other := by
      rw [make, checked]
      rfl
    simp [failed]
  | ok recipe =>
    obtain ⟨generator, made⟩ := exists_make_of_check checked naming
    simp [made]

end Generator

/-- The stem that was checked passes the check of namings. -/
theorem Naming.ofValue_of_checkStem {value : Value} {stem : Text}
    (checked : Options.checkStem value = .ok stem) : ofValue value = .ok ⟨stem⟩ := by
  rw [Options.checkStem] at checked
  cases content : value.content with
  | text s =>
    simp only [content] at checked
    split at checked
    · next named =>
      cases checked
      exact ofValue_eq_ok content named
    · cases checked
  | _ =>
    simp only [content] at checked
    cases checked

/-- The check decides for which options there is a generator, and with which fault there is none. It accepts
exactly the options that all fit, and otherwise the first that does not decides; only a target that cannot be shown
is refused without being named. Generators are made from exactly the options that pass, with a naming of their own
or without, and the stem and the target of those are accepted by namings and printers as well. -/
theorem Options.check_decides_generators (options : Options) :
    ((∃ recipe, options.check = .ok recipe) ↔
      ∀ field : Field, field.Fits (options.get field)) ∧
    (∀ fault, options.check = .error fault ↔
      ∃ field, options.Offends field ∧ field.Refuses (options.get field) fault) ∧
    (∀ fault, options.check = .error fault → fault.reported = fault) ∧
    (∀ naming, ((∃ generator, Generator.make options naming = .ok generator) ↔
        ∃ recipe, options.check = .ok recipe) ∧
      ∀ fault, Generator.make options naming = .error fault ↔ options.check = .error fault) ∧
    ∀ recipe, options.check = .ok recipe →
      Naming.ofValue options.stem = .ok ⟨recipe.stem⟩ ∧
        Printer.ofValue options.target = .ok (.ofDialect recipe.target) := by
  refine ⟨exists_check_eq_ok, fun fault => check_eq_error, fun fault => reported_of_check, ?_, ?_⟩
  · intro naming
    refine ⟨⟨?_, ?_⟩, fun fault => Generator.make_eq_error⟩
    · rintro ⟨generator, made⟩
      exact ⟨generator.recipe, Generator.check_of_make made⟩
    · rintro ⟨recipe, checked⟩
      exact Generator.exists_make_of_check checked naming
  · intro recipe checked
    obtain ⟨_, _, stemmed, _, _, _, aimed⟩ := check_eq_ok.mp checked
    exact ⟨Naming.ofValue_of_checkStem stemmed, Printer.ofValue_of_checkTarget aimed⟩

/-- Options of which three are at fault: a stem that is no text, an entry that is no name and a target that
is no dialect. -/
def Options.unfit : Options where
  stem := .int 3
  entry := .text "1"
  target := .text "cobol"

theorem Options.check_decides_generators_unfit :
    Options.unfit.check = .error (.kind (.notText "int")) ∧
      Generator.make Options.unfit (some (Naming.strategy ⟨"Iter"⟩)) =
        .error (.kind (.notText "int")) ∧
      ∃ recipe, ({ counter := .text "_0\n" } : Options).check = .ok recipe := by
  have mistyped : Field.Mistyped .stem Options.unfit.stem := by
    intro s content
    cases content
  have offends : Options.unfit.Offends .stem := by
    refine ⟨[.capability], [.entry, .mapping, .counter, .target], rfl, ?_, Field.not_isName mistyped⟩
    rw [List.forall_mem_singleton]
    exact not_not_intro rfl
  have failed := ((check_decides_generators Options.unfit).2.1 _).mpr ⟨.stem, offends, .kind mistyped⟩
  refine ⟨failed, ?_, ?_⟩
  · exact (((check_decides_generators Options.unfit).2.2.2.1 _).2 _).mpr failed
  · rw [(check_decides_generators _).1]
    intro field
    cases field with
    | capability => rfl
    | target => exact .inl rfl
    | _ => exact ⟨_, rfl, by decide⟩

/-- Options with an integer of too many digits for a target. -/
def Options.hugeTarget : Options where
  target := .int Value.showLimit

/-- The target is the first option that does not fit, but the fault is about an integer, and does not name it. -/
theorem Options.check_hugeTarget :
    Options.hugeTarget.Offends .target ∧
      Options.hugeTarget.check = .error (.range .unshowable) ∧
      Generator.make Options.hugeTarget none = .error (.range .unshowable) := by
  have offends : Options.hugeTarget.Offends .target := by
    refine ⟨[.capability, .stem, .entry, .mapping, .counter], [], rfl, ?_, ?_⟩
    · simp only [List.forall_mem_cons, not_not]
      exact ⟨rfl, ⟨_, rfl, by decide⟩, ⟨_, rfl, by decide⟩, ⟨_, rfl, by decide⟩, ⟨_, rfl, by decide⟩,
        List.forall_mem_nil _⟩
    · rintro (rust | python)
      · cases rust
      · cases python
  have unsaid : ¬ Field.Said .target Options.hugeTarget.target := by
    show ¬ (Value.int Value.showLimit).isShowable = true
    rw [Value.isShowable_showLimit]
    exact Bool.false_ne_true
  have failed := check_eq_error.mpr ⟨.target, offends, .digits (fun mistyped => mistyped) unsaid⟩
  exact ⟨offends, failed, Generator.make_eq_error.mpr failed⟩

end VariantIter
