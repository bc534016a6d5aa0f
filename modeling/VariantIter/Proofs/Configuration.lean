import VariantIter.Printer
import VariantIter.Proofs.Generation
import VariantIter.Proofs.Surroundings
import VariantIter.Settings.Load

/-!
Settings that were loaded.

Loading reads files and records what it read; it changes nothing else. The options of settings that
were loaded have passed the check, so there is a generator for them, and a printer for their target.
-/

namespace VariantIter

namespace Settings

open VariantIter.Action (records_of_same records_record)

/-! ## Loading records -/

theorem records_firstPresent (paths : List Path) : (firstPresent paths).Records := by
  induction paths with
  | nil => exact records_of_same fun _ => rfl
  | cons path paths ih =>
    refine (Action.records_hasEntry path).bind fun present => ?_
    cases present with
    | false => exact ih
    | true => exact records_of_same fun _ => rfl

theorem records_filePath (path : Option Text) : (filePath path).Records := by
  unfold filePath
  cases path.getD [] with
  | nil =>
    refine (records_of_same fun _ => rfl).bind fun paths => ?_
    refine (records_firstPresent paths).bind fun found => ?_
    exact records_of_same fun _ => rfl
  | cons c text => exact records_of_same fun _ => rfl

theorem records_readData (explicit : Bool) (path : Path) : (readData explicit path).Records := by
  refine (Action.records_hasEntry path).bind fun present => ?_
  cases present with
  | true =>
    refine (records_of_same (Action.read_world path)).bind fun content => ?_
    refine (records_of_same fun _ => rfl).bind fun data => ?_
    refine (records_record _).bind fun _ => ?_
    exact records_of_same fun _ => rfl
  | false =>
    cases explicit with
    | true => exact records_of_same fun _ => rfl
    | false =>
      refine (records_record _).bind fun _ => ?_
      exact records_of_same fun _ => rfl

theorem records_load (path : Option Text) : (load path).Records := by
  refine (records_filePath path).bind fun file => ?_
  refine (records_readData _ file).bind fun data => ?_
  -- Looking at the environment and checking what was read leave everything as it is.
  refine (records_of_same fun _ => rfl).bind fun target => ?_
  refine (records_of_same fun _ => rfl).bind fun level => ?_
  refine (records_of_same fun _ => rfl).bind fun generation => ?_
  refine (records_of_same fun _ => rfl).bind fun logging => ?_
  exact records_of_same fun _ => rfl

/-! ## Loaded options -/

theorem check_of_generationOptions {data : Entries} {target : Option Text} {options : Options}
    (accepted : generationOptions data target = .ok options) :
    ∃ recipe, options.check = .ok recipe := by
  obtain ⟨entries, _, accepted⟩ := Outcome.bind_eq_ok.mp accepted
  obtain ⟨options, _, accepted⟩ := Outcome.bind_eq_ok.mp accepted
  obtain ⟨recipe, checked, same⟩ := Outcome.bind_eq_ok.mp accepted
  cases same
  exact ⟨recipe, checked⟩

/-- The options of settings that were loaded are those of some data. -/
theorem generationOptions_of_load {path : Option Text} {settings : Settings} {world after : World}
    (done : load path world = (.ok settings, after)) :
    ∃ data target, generationOptions data target = .ok settings.generation := by
  obtain ⟨file, _, _, done⟩ := Action.bind_eq_ok.mp done
  obtain ⟨data, _, _, done⟩ := Action.bind_eq_ok.mp done
  rw [Action.view_bind, Action.view_bind, Action.bind_eq_ok] at done
  obtain ⟨generation, _, accepted, done⟩ := done
  obtain ⟨logging, _, _, done⟩ := Action.bind_eq_ok.mp done
  cases done
  exact ⟨data, _, (Action.ofExcept_eq_ok.mp accepted).1⟩

theorem check_of_load {path : Option Text} {settings : Settings} {world after : World}
    (done : load path world = (.ok settings, after)) :
    ∃ recipe, settings.generation.check = .ok recipe := by
  obtain ⟨data, target, taken⟩ := generationOptions_of_load done
  exact check_of_generationOptions taken

/-- A given option is a text. -/
theorem exists_text_of_given {entries : Entries} {name fallback : Text} {value : Value}
    (taken : Options.given entries name (.text fallback) = .ok value) : ∃ text, value = .text text := by
  unfold Options.given at taken
  split at taken
  · obtain ⟨text, _, taken⟩ := Outcome.bind_eq_ok.mp taken
    cases taken
    exact ⟨text, rfl⟩
  · cases taken
    exact ⟨fallback, rfl⟩

theorem capability_of_load {path : Option Text} {settings : Settings} {world after : World}
    (done : load path world = (.ok settings, after)) :
    ∃ capability, settings.generation.capability = .text capability := by
  obtain ⟨data, target, taken⟩ := generationOptions_of_load done
  obtain ⟨entries, _, taken⟩ := Outcome.bind_eq_ok.mp taken
  obtain ⟨options, given, taken⟩ := Outcome.bind_eq_ok.mp taken
  obtain ⟨_, _, same⟩ := Outcome.bind_eq_ok.mp taken
  cases same
  obtain ⟨capability, named, given⟩ := Outcome.bind_eq_ok.mp given
  obtain ⟨_, _, given⟩ := Outcome.bind_eq_ok.mp given
  obtain ⟨_, _, given⟩ := Outcome.bind_eq_ok.mp given
  obtain ⟨_, _, given⟩ := Outcome.bind_eq_ok.mp given
  obtain ⟨_, _, given⟩ := Outcome.bind_eq_ok.mp given
  obtain ⟨_, _, given⟩ := Outcome.bind_eq_ok.mp given
  obtain ⟨_, _, given⟩ := Outcome.bind_eq_ok.mp given
  rw [← Except.ok.inj given]
  exact exists_text_of_given named

/-! ## Files that are there -/

theorem filePath_some {text : Text} (given : text ≠ []) (world : World) :
    filePath (some text) world = (.ok (Path.ofText text), world) := by
  cases text with
  | nil => exact absurd rfl given
  | cons c text => rfl

/-- The settings that data stand for in an environment. -/
def ofData (file : Path) (data : Entries) (world : World) : Except Fault Settings := do
  let generation ← generationOptions data (world.lookUp? "ENUMERANT_TARGET")
  let logging ← loggingOptions data (world.lookUp? "ENUMERANT_LOG_LEVEL")
  return ⟨file, generation, logging⟩

/-- What becomes of the content of a file: once it is read, that is recorded, and the options are taken. -/
def loadContent (file : Path) (content : Content) (world : World) : Except Fault Settings × World :=
  match readDocument file content with
  | .error fault => (.error fault.reported, world)
  | .ok data => ((ofData file data world).mapError Fault.reported,
      world.record (logged Log.info ("Loaded configuration from " ++ file.text)))

/-- What loading a file that is there comes down to. -/
theorem load_present {path : Option Text} {file : Path} {world : World} {content : Content}
    (found : filePath path world = (.ok file, world))
    (held : Action.read file world = (.ok content, world)) :
    load path world = loadContent file content world := by
  have present := World.hasEntry_of_read held
  rw [load, Action.bind_of_ok found, loadContent]
  cases parsed : readDocument file content with
  | error fault =>
    have stopped : readData path.isSome file world = (.error fault.reported, world) := by
      rw [readData, Action.bind_of_ok present]
      simp only [if_true]
      rw [Action.bind_of_ok held, parsed]
      rfl
    exact Action.bind_of_error stopped
  | ok data =>
    have read : readData path.isSome file world =
        (.ok data, world.record (logged Log.info ("Loaded configuration from " ++ file.text))) := by
      rw [readData, Action.bind_of_ok present]
      simp only [if_true]
      rw [Action.bind_of_ok held, parsed]
      rfl
    rw [Action.bind_of_ok read, Action.view_bind, Action.view_bind, World.lookUp_record,
      World.lookUp_record]
    show _ = ((ofData file data world).mapError Fault.reported, _)
    rw [ofData]
    cases generationOptions data (world.lookUp? "ENUMERANT_TARGET") with
    | error fault => rfl
    | ok generation =>
      cases loggingOptions data (world.lookUp? "ENUMERANT_LOG_LEVEL") with
      | error fault => rfl
      | ok logging => rfl

/-- A file that is there is loaded, if its options are accepted. -/
theorem load_of_present {path : Option Text} {file : Path} {world : World} {content : Content}
    {data : Entries} {generation : Options} {logging : LoggingOptions}
    (found : filePath path world = (.ok file, world))
    (held : Action.read file world = (.ok content, world))
    (parsed : readDocument file content = .ok data)
    (generated : generationOptions data (world.lookUp? "ENUMERANT_TARGET") = .ok generation)
    (logs : loggingOptions data (world.lookUp? "ENUMERANT_LOG_LEVEL") = .ok logging) :
    load path world = (.ok ⟨file, generation, logging⟩,
      world.record (logged Log.info ("Loaded configuration from " ++ file.text))) := by
  have accepted : ofData file data world = .ok ⟨file, generation, logging⟩ := by
    rw [ofData, generated, Outcome.ok_bind, logs]
    rfl
  rw [load_present found held, loadContent, parsed]
  simp only [accepted]
  rfl

end Settings

/-! ## Generators and printers -/

theorem Options.isName_of_checkStem {value : Value} {stem : Text}
    (checked : checkStem value = .ok stem) : Identifier.isName stem = true := by
  unfold checkStem at checked
  split at checked
  · split at checked
    · next named =>
      cases checked
      exact named
    · cases checked
  · cases checked

theorem Naming.ofValue_eq_ok {value : Value} {s : Text} (content : value.content = .text s)
    (named : Identifier.isName s = true) : Naming.ofValue value = .ok ⟨s⟩ := by
  unfold Naming.ofValue
  simp only [content, named, if_true]

/-- Options that pass the check make a generator, which names iterators by their stem. -/
theorem Generator.make_of_check {options : Options} {recipe : Recipe}
    (checked : options.check = .ok recipe) :
    Generator.make options none = .ok ⟨recipe, Naming.strategy ⟨recipe.stem⟩⟩ := by
  have named := Options.isName_of_checkStem (Options.check_eq_ok.mp checked).2.2.1
  have made : Naming.ofValue (.text recipe.stem) = .ok ⟨recipe.stem⟩ :=
    Naming.ofValue_eq_ok rfl named
  rw [make, checked, Outcome.ok_bind]
  simp only [made]
  rfl

theorem Options.checkTarget_eq_ok {value : Value} {dialect : Dialect}
    (checked : checkTarget value = .ok dialect) : value.content = .text dialect.name := by
  unfold checkTarget at checked
  cases content : value.content with
  | text s =>
    simp only [content] at checked
    cases named : Dialect.ofName? s with
    | none =>
      rw [named] at checked
      cases checked
    | some other =>
      rw [named] at checked
      cases checked
      have same := List.find?_some named
      rw [beq_iff_eq] at same
      rw [same]
  | _ =>
    rw [content] at checked
    cases checked

/-- A value that is a text stands by itself or right behind a label. -/
theorem Value.content_eq_text {value : Value} {s : Text} (content : value.content = .text s) :
    value = .text s ∨ ∃ label, value = .shared label (.text s) ∨ value = .knot label (.text s) := by
  cases value with
  | text t => exact .inl content
  | shared label inner =>
    cases content
    exact .inr ⟨label, .inl rfl⟩
  | knot label inner =>
    cases inner with
    | text t =>
      cases content
      exact .inr ⟨label, .inr rfl⟩
    | again other =>
      rw [Value.content, tie] at content
      split at content <;> cases content
    | _ => simp [Value.content, tie] at content
  | _ => cases content

theorem Value.unhashable_of_text {value : Value} {s : Text} (content : value.content = .text s) :
    value.unhashable? = none := by
  rcases content_eq_text content with rfl | ⟨label, rfl | rfl⟩ <;> rfl

theorem Value.isShowable_of_text {value : Value} {s : Text} (content : value.content = .text s) :
    value.isShowable = true := by
  rcases content_eq_text content with rfl | ⟨label, rfl | rfl⟩ <;> rfl

theorem Printer.ofValue_of_checkTarget {value : Value} {dialect : Dialect}
    (checked : Options.checkTarget value = .ok dialect) :
    Printer.ofValue value = .ok (.ofDialect dialect) := by
  have hashable := Value.unhashable_of_text (Options.checkTarget_eq_ok checked)
  rw [ofValue, dialectOf, hashable]
  simp only [checked]
  rfl

end VariantIter
