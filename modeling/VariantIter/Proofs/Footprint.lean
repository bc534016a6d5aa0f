import VariantIter.Proofs.Listing

/-!
What a command leaves behind.

Up to its output, a command writes nothing but lines of the log: to the error stream, to the file of the
log that was set up before it, and to the file that its settings set the log up with. Main statement: a
command that fails before its output is opened has put nothing out, and every other file is as it was.
-/

namespace VariantIter

/-! ## Files that stay as they are -/

/-- Nothing was put out on the console between two moments, what is at the given locations is the same, and
the log writes to none of them. -/
structure World.Spares (spared : Set Location) (world after : World) : Prop where
  stdout : after.stdout = world.stdout
  entry : ∀ location ∈ spared, after.tree.entry? location = world.tree.entry? location
  idle : ∀ location ∈ spared, after.log.file ≠ some location

namespace World

variable {spared : Set Location} {world middle after : World}

theorem Spares.refl (idle : ∀ location ∈ spared, world.log.file ≠ some location) :
    world.Spares spared world :=
  ⟨rfl, fun _ _ => rfl, idle⟩

theorem Spares.trans (first : world.Spares spared middle) (second : middle.Spares spared after) :
    world.Spares spared after where
  stdout := second.stdout.trans first.stdout
  entry location member := (second.entry location member).trans (first.entry location member)
  idle := second.idle

theorem spares_record (idle : ∀ location ∈ spared, world.log.file ≠ some location)
    (record : Log.Record) : world.Spares spared (world.record record) := by
  have entry (location : Location) (member : location ∈ spared) :=
    world.entry_record record (idle location member)
  obtain ⟨tree, _, recorded⟩ := world.record_eq record
  rw [recorded] at entry ⊢
  exact ⟨rfl, entry, idle⟩

theorem spares_recordAll (idle : ∀ location ∈ spared, world.log.file ≠ some location)
    (records : List Log.Record) : world.Spares spared (world.recordAll records) := by
  induction records generalizing world with
  | nil => exact .refl idle
  | cons record records ih =>
    have first := spares_record idle record
    exact first.trans (ih first.idle)

/-- A path is spelled like a location, or leads there. -/
def Reaches (world : World) (path : Path) (location : Location) : Prop :=
  path.names = location ∨ world.locate path = .ok location

end World

namespace Action

variable {α β : Type} {spared : Set Location} {world : World}

theorem Records.spares {action : Action α} (records : action.Records)
    (idle : ∀ location ∈ spared, world.log.file ≠ some location) :
    world.Spares spared (action world).2 := by
  obtain ⟨recorded, same⟩ := records world
  rw [same]
  exact World.spares_recordAll idle recorded

theorem spares_bind {action : Action α} {next : α → Action β}
    (first : world.Spares spared (action world).2)
    (rest : ∀ a middle, action world = (.ok a, middle) →
      (∀ location ∈ spared, middle.log.file ≠ some location) →
      middle.Spares spared (next a middle).2) :
    world.Spares spared ((action >>= next) world).2 := by
  change world.Spares spared (Action.bind action next world).2
  rw [Action.bind]
  split
  · next a middle done =>
    rw [done] at first
    exact first.trans (rest a middle done first.idle)
  · next fault middle done =>
    rw [done] at first
    exact first

/-- Opening the file of the log touches no other file, whether or not it succeeds. -/
theorem spares_openLog (idle : ∀ location ∈ spared, world.log.file ≠ some location) {file : LogFile}
    (elsewhere : ∀ name, file.name = .ok name →
      ∀ location ∈ spared, ¬ world.Reaches (world.absolute name.toText) location) :
    world.Spares spared (openLog file world).2 := by
  have opens := openLog_opens file world
  generalize openLog file world = result at opens
  cases opens with
  | @file name place _ _ named _ located added =>
    refine ⟨rfl, fun location member => FileTree.entry_append added ?_, idle⟩
    rintro rfl
    exact elsewhere name named location member (.inr located)
  | _ => exact .refl idle

/-- Setting up logging touches no file but the one that it is given, whether or not it succeeds. -/
theorem spares_setUpLogging (idle : ∀ location ∈ spared, world.log.file ≠ some location)
    (level : Value) {file : LogFile}
    (elsewhere : ∀ name, file.name = .ok name →
      ∀ location ∈ spared, ¬ world.Reaches (world.absolute name.toText) location) :
    world.Spares spared (setUpLogging level file world).2 := by
  unfold setUpLogging
  refine spares_bind (.refl idle) fun default middle viewed _ => ?_
  cases viewed
  refine spares_bind (.refl idle) fun number middle accepted _ => ?_
  obtain ⟨_, rfl⟩ := ofExcept_eq_ok.mp accepted
  -- From here on the log has no file, until the new one is there.
  refine spares_bind ⟨rfl, fun _ _ => rfl, fun _ _ => nofun⟩ fun _ fresh updated idle => ?_
  cases updated
  refine spares_bind (spares_openLog idle elsewhere) fun place opened done _ => ?_
  refine ⟨rfl, fun _ _ => rfl, fun location member same => ?_⟩
  have opens := openLog_opens file { middle with log := ⟨number, none⟩ }
  rw [done] at opens
  cases opens with
  | absent _ => cases same
  | @file name _ _ _ named _ _ _ =>
    exact elsewhere name named location member (.inl (Option.some.inj same))

theorem records_ofTraced (traced : Traced α) : (ofTraced traced).Records :=
  fun _ => ⟨traced.records, rfl⟩

end Action

theorem Descriptor.records_load (name : Text) : (Descriptor.load name).Records := by
  refine (Action.records_of_same (Action.read_world _)).bind fun content => ?_
  refine (Action.records_of_same fun _ => rfl).bind fun document => ?_
  refine (Action.records_of_same fun _ => rfl).bind fun descriptors => ?_
  refine (Action.records_record _).bind fun _ => ?_
  exact Action.records_of_same fun _ => rfl

/-- A run that stops at failures returns none. -/
theorem Pipeline.failures_of_failFast (pipeline : Pipeline) (stops : pipeline.failFast = true)
    {descriptors : List Descriptor} {batch : Batch}
    (returned : (pipeline.run descriptors).outcome = .ok batch) : batch.failures = [] := by
  rw [run_outcome] at returned
  obtain ⟨results, mapped, rfl⟩ := Outcome.map_eq_ok.mp returned
  have each := Outcome.mapM_eq_ok.mp mapped
  rw [Batch.ofResults, List.filterMap_eq_nil_iff]
  intro result member
  obtain ⟨descriptor, _, processed⟩ := Outcome.exists_of_mem_right each member
  unfold process at processed
  simp only at processed
  split at processed
  · next goesOn => cases stops.symm.trans goesOn
  · simp only [Traced.outcome_bind] at processed
    obtain ⟨f, _, processed⟩ := Outcome.bind_eq_ok.mp processed
    obtain ⟨text, _, processed⟩ := Outcome.bind_eq_ok.mp processed
    cases processed
    rfl

/-! ## Inputs -/

/-- Settings that enable the file of the log. -/
def Document.fileLogging : String :=
  "\x7b\"logging\": \x7b\"enable_file_logging\": true, \"log_file\": \"run.log\"\x7d\x7d"

/-- Surroundings with settings, descriptors and an output from before. -/
def World.withOutput : World where
  tree := ⟨[(["c.json"], .file (.text Document.fileLogging)),
    (["types.json"], .file (.text Document.flagAndPoint)), (["flag.rs"], .file (.text "// before"))]⟩
  clock := "12:00:00"

/-- The settings with the file of the log enabled. -/
def Settings.fileLogging : Settings where
  file := ⟨[], ["c.json"]⟩
  logging := ⟨.text "INFO", .bool true, .text "run.log"⟩

/-- Arguments of a command that stops at failures. -/
def Arguments.stopping : Arguments where
  descriptors := "types.json"
  out := some "flag.rs"
  config := some "c.json"
  failFast := true

theorem Settings.load_withOutput :
    Settings.load (some "c.json") World.withOutput =
      (.ok .fileLogging,
        World.withOutput.record (logged Log.info ("Loaded configuration from " ++ "c.json"))) := by
  have parsed : readDocument ⟨[], ["c.json"]⟩ (.text Document.fileLogging) =
      .ok [(.text "logging", .map [(.text "enable_file_logging", .bool true),
        (.text "log_file", .text "run.log")])] := by cbv
  exact load_of_present rfl rfl parsed rfl rfl

namespace Command

variable {arguments : Arguments} {world : World} {spared : Set Location}

/-! ## Up to the output -/

/-- The settings of a command set the log up with a file at a location. -/
def LogsTo (arguments : Arguments) (world : World) (location : Location) : Prop :=
  ∃ settings configured name,
    Settings.load arguments.config world = (.ok settings, configured) ∧
    settings.logging.enableFile.truthy = true ∧ (LogFile.value settings.logging.file).name = .ok name ∧
    configured.Reaches (configured.absolute name.toText) location

/-- The output of a command is opened: everything up to it went well, and it is the console or a file that
can be written. -/
def Opened (arguments : Arguments) (world : World) : Prop :=
  ∃ batch middle, generate arguments world = (.ok batch, middle) ∧
    (arguments.out.getD [] = [] ∨ ∃ location, middle.WritableAt (arguments.out.getD []) location)

theorem spares_generate (idle : ∀ location ∈ spared, world.log.file ≠ some location)
    (elsewhere : ∀ location ∈ spared, ¬ LogsTo arguments world location) :
    world.Spares spared (generate arguments world).2 := by
  refine Action.spares_bind ((Settings.records_load _).spares idle)
    fun settings configured loaded idle => ?_
  refine Action.spares_bind
    (Action.spares_setUpLogging idle _ fun name named location member there => ?_)
    fun _ ready _ idle => Action.Records.spares ?_ idle
  · unfold logFile at named
    split at named
    · next enabled =>
      exact elsewhere location member ⟨settings, configured, name, loaded, enabled, named, there⟩
    · cases named
  · -- Once logging is set up, types are read and generated, which leaves records only.
    refine (Action.records_of_same fun _ => rfl).bind fun generator => ?_
    refine (Action.records_of_same fun _ => rfl).bind fun printer => ?_
    exact (Descriptor.records_load _).bind fun descriptors => Action.records_ofTraced _

theorem failures_of_generate (stops : arguments.failFast = true) {batch : Batch} {middle : World}
    (generated : generate arguments world = (.ok batch, middle)) : batch.failures = [] := by
  obtain ⟨settings, _, _, generated⟩ := Action.bind_eq_ok.mp generated
  obtain ⟨_, _, _, generated⟩ := Action.bind_eq_ok.mp generated
  obtain ⟨generator, _, _, generated⟩ := Action.bind_eq_ok.mp generated
  obtain ⟨printer, _, _, generated⟩ := Action.bind_eq_ok.mp generated
  obtain ⟨descriptors, _, _, generated⟩ := Action.bind_eq_ok.mp generated
  exact Pipeline.failures_of_failFast ⟨generator, printer, arguments.failFast⟩ stops
    (Prod.ext_iff.mp generated).1

/-! ## From the output on -/

/-- Once its output is written, a command ends with 0, or with 1 if there are failures. -/
theorem finish_eq_ok {batch : Batch} {code : Nat} {after : World}
    (finished : finish arguments batch world = (.ok code, after)) :
    code = if batch.succeeded then 0 else 1 := by
  obtain ⟨_, written, _, finished⟩ := Action.bind_eq_ok.mp finished
  rw [Action.bind_of_ok (report_eq _ written)] at finished
  cases finished
  rfl

/-- A fault before the output is reported at most. -/
theorem execute_of_error {fault : Fault} {middle : World}
    (failed : generate arguments world = (.error fault, middle)) :
    ∃ complaint, (execute arguments world).2 = middle.printError complaint := by
  have attempted : Action.attempt (generate arguments) world = (.ok (.error fault), middle) := by
    rw [Action.attempt, failed]
  rw [execute, Action.bind_of_ok attempted]
  simp only
  cases exitCode? fault with
  | some code => exact ⟨_, rfl⟩
  | none => exact ⟨[], by simp [World.printError, Action.fail]⟩

/-! ## The whole command -/

/-- Whatever makes a command fail before its output is opened, it stops where `generate` left it, up to a
complaint. -/
theorem execute_of_failed {after : World} {outcome : Except Fault Nat}
    (ran : execute arguments world = (outcome, after))
    (failed : outcome = .ok 2 ∨ (outcome = .ok 1 ∧ arguments.failFast = true) ∨
      ((∃ fault, outcome = .error fault) ∧ ¬ Opened arguments world)) :
    ∃ complaint, after = (generate arguments world).2.printError complaint := by
  cases generated : generate arguments world with
  | mk result middle =>
    cases result with
    | error fault =>
      obtain ⟨complaint, same⟩ := execute_of_error generated
      rw [ran] at same
      exact ⟨complaint, same⟩
    | ok batch =>
      rw [execute_of_ok generated] at ran
      rcases failed with rfl | ⟨rfl, stops⟩ | ⟨⟨fault, rfl⟩, unopened⟩
      · have code := finish_eq_ok ran
        split at code <;> cases code
      · have code := finish_eq_ok ran
        rw [Batch.succeeded, failures_of_generate stops generated] at code
        cases code
      · -- The output is a file that cannot be opened, and nothing has happened to it.
        have file : arguments.out.getD [] ≠ [] := fun console =>
          unopened ⟨batch, middle, generated, .inl console⟩
        rcases middle.writable_or_shut (arguments.out.getD []) with writable | ⟨cause, shut⟩
        · exact absurd ⟨batch, middle, generated, .inr writable⟩ unopened
        · cases ran.symm.trans (Undelivered.shut file shut).finish_eq
          exact ⟨[], by simp [World.printError]⟩

theorem prepared_withOutput :
    Prepared ["types.json", "--config", "c.json", "--out", "flag.rs", "--fail-fast"] .withOutput
      .stopping .fileLogging
      (Action.setUpLogging (.text "INFO") (.value (.text "run.log"))
        (World.withOutput.record
          (Settings.logged Log.info ("Loaded configuration from " ++ "c.json")))).2
      [.flag, .point] where
  parsed := by cbv
  settled := ⟨_, Settings.load_withOutput, rfl⟩
  described := by
    have decoded : (Descriptor.readDocument (Path.ofText "types.json") (.text Document.flagAndPoint) >>=
        Descriptor.decodeDocument) = .ok [.flag, .point] := by cbv
    obtain ⟨value, read, decoded⟩ := Outcome.bind_eq_ok.mp decoded
    exact ⟨.text Document.flagAndPoint, value, rfl, read, decoded⟩

/-- A command that ends with 2, or with 1 where it stops at failures, or with a fault before its output is
opened, has put nothing out on the console. Every file is as it was, up to the log: a file that the log had
before the command, and the file that the settings of the command set it up with. -/
theorem run_leaves_no_output {words : List Text} {world after : World} {arguments : Arguments}
    {outcome : Except Fault Nat} (parsed : Arguments.parse words = .ok arguments)
    (ran : run words world = (outcome, after))
    (failed : outcome = .ok 2 ∨ (outcome = .ok 1 ∧ arguments.failFast = true) ∨
      ((∃ fault, outcome = .error fault) ∧ ¬ Opened arguments world)) :
    after.stdout = world.stdout ∧
    ∀ location, world.log.file ≠ some location → ¬ LogsTo arguments world location →
      after.tree.entry? location = world.tree.entry? location := by
  rw [run, parsed] at ran
  obtain ⟨complaint, rfl⟩ := execute_of_failed ran failed
  have spares := @spares_generate arguments world
    {location | world.log.file ≠ some location ∧ ¬ LogsTo arguments world location}
    (fun _ member => member.1) (fun _ member => member.2)
  exact ⟨spares.stdout, fun location idle elsewhere => spares.entry location ⟨idle, elsewhere⟩⟩

/-- A record ends a command that stops at failures. The log gets its lines, and the output from before is
left as it was. -/
theorem run_leaves_no_output_stopping :
    ∃ after,
      run ["types.json", "--config", "c.json", "--out", "flag.rs", "--fail-fast"] .withOutput =
        (.ok 1, after) ∧
      after.stdout = [] ∧ after.tree.read ["flag.rs"] = .ok (.text "// before") := by
  have first : Outcome.First (fun descriptor : Descriptor => descriptor.kind ≠ .sum)
      [.flag, .point] .point := ⟨[.flag], [], rfl, by simp [Descriptor.flag], by decide⟩
  have ran := prepared_withOutput.run_stopping Generator.make_default rfl first
  obtain ⟨silent, kept⟩ :=
    run_leaves_no_output prepared_withOutput.parsed ran (.inr (.inl ⟨rfl, rfl⟩))
  have elsewhere : ¬ LogsTo .stopping .withOutput ["flag.rs"] := by
    rintro ⟨settings, configured, name, loaded, _, named, there⟩
    cases loaded.symm.trans Settings.load_withOutput
    cases named
    rcases there with same | located
    · exact absurd same (by decide)
    · cases located
  refine ⟨_, ran, silent, ?_⟩
  rw [FileTree.read, kept ["flag.rs"] (by simp [World.withOutput]) elsewhere]
  rfl

end Command

end VariantIter
