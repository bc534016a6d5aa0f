import VariantIter.Log.Logger
import VariantIter.Proofs.Surroundings

/-!
Loggers.

The way up from the logger of a component leads to the logger of the package, unless a second dot stands right
behind the name of the package. Main statement: a logger with the level and the handlers of a set-up writes what
the set-up says, record after record: each record that counts once to the console and once to the file of the
set-up, if it has one, and nowhere else.
-/

namespace VariantIter

namespace Log

/-! ## The way up -/

/-- The logger of a name is that of the package, or below it. -/
def Joined (known : List Text) (name : Text) : Prop :=
  packageName ∈ namesUp known name

/-- There is nothing above the package. -/
theorem namesAbove_once {known : List Text} {text : Text} (there : packageName ∈ namesAbove known text) :
    ∃ others, namesAbove known text = others ++ [packageName] ∧ packageName ∉ others := by
  fun_induction namesAbove known text with
  | case1 => cases there
  | case2 => cases there
  | case3 c d rest dot name found ih =>
    by_cases package : packageName = name
    · have top : d :: rest = packageName.reverse := by rw [package, List.reverse_reverse]
      rw [← package, top]
      exact ⟨[], rfl, List.not_mem_nil⟩
    · obtain ⟨others, above, once⟩ := ih ((List.mem_cons.mp there).resolve_left package)
      rw [above]
      exact ⟨name :: others, rfl, List.not_mem_cons_of_ne_of_not_mem package once⟩
  | case4 c d rest dot name unknown ih => exact ih there
  | case5 c d rest noDot ih => exact ih there

theorem Joined.namesUp_eq {known : List Text} {name : Text} (joined : Joined known name) :
    ∃ others, namesUp known name = others ++ [packageName] ∧ packageName ∉ others := by
  by_cases package : packageName = name
  · rw [← package]
    exact ⟨[], rfl, List.not_mem_nil⟩
  · obtain ⟨others, above, once⟩ := namesAbove_once ((List.mem_cons.mp joined).resolve_left package)
    rw [namesUp, above]
    exact ⟨name :: others, rfl, List.not_mem_cons_of_ne_of_not_mem package once⟩

/-- No second dot stands right behind the name of the package. -/
def Below (name : Text) : Prop :=
  ¬ ("enumerant.." : Text) <+: name

instance : DecidablePred Below :=
  fun name => inferInstanceAs (Decidable (¬ ("enumerant.." : Text) <+: name))

/-- The package is above a name that starts with its name and a single dot, given backwards. -/
theorem package_mem_namesAbove (known : List Text) (rest : Text) (single : rest.getLast? ≠ some (.char '.')) :
    packageName ∈ namesAbove known (rest ++ .char '.' :: packageName.reverse) := by
  -- The search may pass over a character, so the induction is on the length.
  induction size : rest.length using Nat.strong_induction_on generalizing rest with
  | _ n ih =>
    rcases rest with _ | ⟨c, _ | ⟨d, rest⟩⟩
    · exact List.mem_cons_self
    · have noDot : (c == .char '.') = false := by simpa using single
      show packageName ∈ namesAbove known (c :: .char '.' :: packageName.reverse)
      rw [namesAbove, noDot]
      exact List.mem_cons_self
    · have next : (d :: rest).getLast? ≠ some (.char '.') := by simpa using single
      have above := ih (d :: rest).length (by simp [← size]) (d :: rest) next rfl
      show packageName ∈ namesAbove known (c :: d :: (rest ++ .char '.' :: packageName.reverse))
      rw [namesAbove]
      split
      · dsimp only
        split
        · exact List.mem_cons_of_mem _ above
        · have fewer : rest.length < n := size ▸ Nat.lt_succ_of_lt (Nat.lt_succ_self rest.length)
          refine ih rest.length fewer rest ?_ rfl
          cases rest with
          | nil => simp
          | cons e rest => simpa using next
      · exact above

/-- A component logs as the package or below it, unless a second dot stands behind the name of the package. -/
theorem Below.joined {name : Text} (below : Below (loggerName name)) (known : List Text) :
    Joined known (loggerName name) := by
  have start : loggerName name = packageName ∨ packageStart <+: loggerName name := by
    unfold loggerName
    split
    · next inside =>
      rcases Bool.or_eq_true_iff.mp inside with same | start
      · exact .inl (beq_iff_eq.mp same)
      · exact .inr (List.isPrefixOf_iff_prefix.mp start)
    · exact .inr (List.prefix_append _ _)
  rcases start with same | ⟨rest, whole⟩
  · rw [same]
    exact List.mem_cons_self
  · rw [← whole] at below ⊢
    have single : rest.reverse.getLast? ≠ some (.char '.') := by
      rw [List.getLast?_reverse]
      intro dot
      obtain ⟨rest, rfl⟩ := List.head?_eq_some_iff.mp dot
      exact below ⟨rest, rfl⟩
    have backwards : (packageStart ++ rest).reverse = rest.reverse ++ .char '.' :: packageName.reverse :=
      List.reverse_append
    refine List.mem_cons_of_mem _ ?_
    rw [backwards]
    exact package_mem_namesAbove known rest.reverse single

namespace Logger

theorem map_made (package : Logger) {names : List Text} (none : packageName ∉ names) :
    names.map (fun other => if other == packageName then package else {}) =
      List.replicate names.length ({} : Logger) := by
  rw [List.eq_replicate_iff]
  refine ⟨List.length_map _, fun logger member => ?_⟩
  obtain ⟨other, there, rfl⟩ := List.mem_map.mp member
  rw [if_neg]
  intro same
  exact none (beq_iff_eq.mp same ▸ there)

/-- Up to the logger of the package there are loggers as they were made. -/
theorem upFrom_of_joined (package : Logger) {known : List Text} {name : Text} (joined : Joined known name) :
    ∃ count, package.upFrom known name = List.replicate count ({} : Logger) ++ [package, root] := by
  obtain ⟨others, up, once⟩ := joined.namesUp_eq
  refine ⟨others.length, ?_⟩
  rw [upFrom, up, List.map_append, package.map_made once, List.append_assoc]
  rfl

theorem effectiveLevel_made (count : Nat) (loggers : List Logger) :
    effectiveLevel (List.replicate count ({} : Logger) ++ loggers) = effectiveLevel loggers := by
  induction count with
  | zero => rfl
  | succ count ih => exact ih

theorem reached_made (count : Nat) (loggers : List Logger) :
    reached (List.replicate count ({} : Logger) ++ loggers) = reached loggers := by
  induction count with
  | zero => rfl
  | succ count ih => exact ih

theorem reached_package (package : Logger) : reached [package, root] = package.handlers := by
  have nothing : (if package.propagates then reached [root] else []) = [] := by
    split <;> rfl
  rw [reached, nothing, List.append_nil]

end Logger

/-! ## Handlers -/

/-- A logger with the level and the handlers of a set-up. -/
structure Setup.Fits (setup : Setup) (logger : Logger) : Prop where
  level : logger.level = setup.level
  handlers : logger.handlers = setup.handlers

/-- The handlers of a set-up write all records that count. -/
theorem Setup.level_le {setup : Setup} {record : Record} (accepted : setup.accepts record = true) :
    setup.level ≤ record.level := by
  rw [accepts, Bool.and_eq_true, decide_eq_true_iff, decide_eq_true_iff, threshold] at accepted
  obtain ⟨positive, reached⟩ := accepted
  split at reached
  · next unset => exact unset ▸ Int.le_of_lt positive
  · exact reached

/-- What a logger does with a record is what its set-up does. -/
theorem Setup.Fits.emit_eq {world : World} {package : Logger} (fits : world.log.Fits package)
    {known : List Text} {record : Record} (joined : Joined known record.logger) :
    world.emit package known record = world.record record := by
  obtain ⟨count, up⟩ := package.upFrom_of_joined joined
  have threshold : Logger.effectiveLevel [package, Logger.root] = world.log.threshold := by
    rw [Logger.effectiveLevel, fits.level]
    rfl
  have counts : (0 < record.level ∧ world.log.threshold ≤ record.level) ↔
      world.log.accepts record = true := by
    rw [Setup.accepts, Bool.and_eq_true, decide_eq_true_iff, decide_eq_true_iff]
  rw [World.emit, up, Logger.effectiveLevel_made, Logger.reached_made, Logger.reached_package, threshold,
    fits.handlers]
  simp only [counts]
  rw [World.record]
  split
  · next accepted =>
    have severe := Setup.level_le accepted
    cases file : world.log.file with
    | none => simp [Setup.handlers, file, World.handle, Handler.lined, severe, World.printError, Handler.text]
    | some location =>
      simp [Setup.handlers, file, World.handle, Handler.lined, severe, World.printError, Handler.text]
  · rfl

end Log

/-! ## What is written -/

namespace Log

/-- Between two moments, each record that counts was written once to the console, and once to the file of a
set-up, if it has one that can hold the line; if it cannot, that was reported on the console. Nothing else was
written. -/
structure Setup.Adds (setup : Setup) (clock : Text) (origins : Record → Origin) (records : List Record)
    (world after : World) : Prop where
  console : after.stderr = world.stderr ++ setup.shown clock origins records
  file : ∀ place, setup.file = some place →
    after.tree.entry? place = (setup.fileLines clock records).foldl Entry.withText (world.tree.entry? place)
  elsewhere : ∀ location, setup.file ≠ some location → after.tree.entry? location = world.tree.entry? location
  others : after = { world with stderr := after.stderr, tree := after.tree }

namespace Setup

theorem adds_nil (setup : Setup) (clock : Text) (origins : Record → Origin) (world : World) :
    setup.Adds clock origins [] world world where
  console := (List.append_nil _).symm
  file _ _ := rfl
  elsewhere _ _ := rfl
  others := rfl

theorem Adds.trans {setup : Setup} {clock : Text} {origins : Record → Origin} {records later : List Record}
    {world middle after : World} (first : setup.Adds clock origins records world middle)
    (second : setup.Adds clock origins later middle after) :
    setup.Adds clock origins (records ++ later) world after := by
  constructor
  · rw [second.console, first.console, shown_append, List.append_assoc]
  · intro place file
    rw [second.file place file, first.file place file, fileLines, fileLines, fileLines, List.filter_append,
      List.filterMap_append, List.foldl_append]
  · intro location other
    rw [second.elsewhere location other, first.elsewhere location other]
  · rw [second.others, first.others]

theorem adds_record (world : World) (record : Record) :
    world.log.Adds world.clock world.origins [record] world (world.record record) := by
  obtain ⟨tree, _, recorded⟩ := world.record_eq record
  constructor
  · rw [recorded]
    rfl
  · intro place file
    exact world.entry_record_file record file
  · intro location other
    exact world.entry_record record other
  · rw [recorded]

end Setup

/-- A message for the log, under the name of a component. -/
structure Message where
  component : Text
  level : Int
  text : Text

def Message.record (message : Message) : Record :=
  ⟨loggerName message.component, message.level, message.text⟩

end Log

namespace Logging

/-- Logs messages one after another. -/
def emitAll (logging : Logging) (messages : List Log.Message) : Logging :=
  messages.foldl (fun logging message => logging.emit message.record) logging

/-- From now on, the messages of components are written as a set-up says. -/
def Writes (logging : Logging) (clock : Text) (origins : Log.Record → Log.Origin) (setup : Log.Setup) :
    Prop :=
  ∀ messages : List Log.Message, (∀ message ∈ messages, Log.Below message.record.logger) →
    setup.Adds clock origins (messages.map Log.Message.record) logging.world
      (logging.emitAll messages).world

/-- A logger that fits the set-up of its surroundings writes what the set-up says, and still fits it then. -/
theorem writes_of_fits {logging : Logging} {setup : Log.Setup} (fits : setup.Fits logging.logger)
    (log : logging.world.log = setup) :
    logging.Writes logging.world.clock logging.world.origins setup := by
  subst log
  intro messages below
  induction messages generalizing logging with
  | nil => exact logging.world.log.adds_nil _ _ logging.world
  | cons message messages ih =>
    obtain ⟨here, later⟩ := List.forall_mem_cons.mp below
    have first := Log.Setup.adds_record logging.world message.record
    have written : (logging.emit message.record).world = logging.world.record message.record :=
      fits.emit_eq (here.joined logging.known)
    rw [← written] at first
    have log : (logging.emit message.record).world.log = logging.world.log := by rw [first.others]
    have clock : (logging.emit message.record).world.clock = logging.world.clock := by rw [first.others]
    have origins : (logging.emit message.record).world.origins = logging.world.origins := by
      rw [first.others]
    have rest := ih (log.symm ▸ fits) later
    rw [log, clock, origins] at rest
    exact first.trans rest

end Logging

end VariantIter
