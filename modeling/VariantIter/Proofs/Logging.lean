import VariantIter.Proofs.Footprint
import VariantIter.Proofs.Loggers
import VariantIter.Proofs.LogSetup

/-!
Logging, set up again and again.

Setting up logging changes the logger of the package step by step, and may stop on the way. Main statement: only
the last set-up counts. After any others, one that succeeds lets records be written as if it had been the only
one. One without a level changes nothing, and one whose file cannot be opened leaves the console alone, at the
new level.
-/

namespace VariantIter

/-! ## One set-up -/

namespace Log

theorem Logger.foldl_remove (handlers : List Handler) (logger : Logger) (all : logger.handlers = handlers) :
    handlers.foldl remove logger = { logger with handlers := [] } := by
  induction handlers generalizing logger with
  | nil =>
    show logger = _
    rw [← all]
  | cons handler handlers ih =>
    have fewer : (logger.remove handler).handlers = handlers := by
      rw [remove, all, List.erase_cons_head]
    rw [List.foldl_cons, ih _ fewer]
    rfl

/-- Removing the handlers one by one leaves none. -/
theorem Logger.clear_eq (logger : Logger) : logger.clear = { logger with handlers := [] } :=
  foldl_remove logger.handlers logger rfl

namespace SetUp

variable {call : SetUp} {world : World}

/-- The file of a call, once it is open. -/
def opened? (call : SetUp) (world : World) : Option Location :=
  (Action.openLog call.file world).1.toOption.join

/-- Whatever becomes of the file, the logger has the level of the call and its handlers. -/
theorem fits_setUp {level : Int} (known : call.level? world = .ok level) (logger : Logger) :
    Setup.Fits ⟨level, call.opened? world⟩ (logger.setUp call world) := by
  rw [Logger.setUp, known, opened?]
  simp only [Logger.clear_eq]
  rcases (Action.openLog call.file world).1 with fault | _ | location
  · exact ⟨rfl, rfl⟩
  · exact ⟨rfl, rfl⟩
  · exact ⟨rfl, rfl⟩

theorem run_of_fault {fault : Fault} (failed : call.level? world = .error fault) :
    call.run world = (.error fault.reported, world) := by
  rw [run, Action.setUpLogging, Action.view_bind]
  rw [level?] at failed
  rw [failed]
  rfl

/-- Once the level is known, a call ends as opening its file does. -/
theorem run_of_level {level : Int} (known : call.level? world = .ok level) :
    call.run world = ((Action.openLog call.file world).1.map fun _ => (),
      { (Action.openLog call.file world).2 with log := ⟨level, call.opened? world⟩ }) := by
  have levelled : Action.ofExcept (call.level? world) world = (.ok level, world) :=
    Action.ofExcept_eq_ok.mpr ⟨known, rfl⟩
  rw [run, Action.setUpLogging, Action.view_bind]
  rw [level?] at levelled
  rw [Action.bind_of_ok levelled, Action.update_bind, opened?]
  -- The level is set before the file is opened; the file does not depend on it.
  have moved := Action.openLog_log call.file world ⟨level, none⟩
  cases opened : Action.openLog call.file world with
  | mk outcome after =>
    rw [opened] at moved
    cases outcome with
    | error fault =>
      obtain rfl := Action.openLog_eq_error opened
      exact Action.bind_of_error moved
    | ok place =>
      rw [Action.bind_of_ok moved]
      rfl

/-- What a call asks for. -/
inductive Wants (call : SetUp) (world : World) : Setup → Prop
  | console {level : Int} (known : call.level? world = .ok level) (absent : call.file.isGiven = false) :
      Wants call world ⟨level, none⟩
  | file {level : Int} {name : FileName} (known : call.level? world = .ok level)
      (given : call.file.isGiven = true) (named : call.file.name = .ok name) :
      Wants call world ⟨level, some (world.absolute name.toText).names⟩

/-- Why a call has no level: it is given no text, or the text that it goes by names something else. -/
inductive Unlevelled (call : SetUp) (world : World) : Prop
  | kind (given : call.level.content ≠ .null) (other : ∀ name, call.level.content ≠ .text name)
  | name {name : Text}
      (goesBy : call.level.content = .text name ∨
        call.level.content = .null ∧ name = (world.lookUp? "ENUMERANT_LOG_LEVEL").getD "INFO")
      (upper : Text.upper name = "BASIC_FORMAT" ∨ Text.upper name = "_STYLES")

end SetUp

theorem levelOfName_isError (name : Text) :
    (∃ fault, levelOfName name = .error fault) ↔
      Text.upper name = "BASIC_FORMAT" ∨ Text.upper name = "_STYLES" := by
  have ends := levelOfName_ends name
  constructor
  · rintro ⟨fault, failed⟩
    rw [failed] at ends
    cases ends with
    | kind _ other => exact absurd rfl (other name)
    | layout upper => exact .inl upper
    | styles upper => exact .inr upper
  · intro upper
    cases named : levelOfName name with
    | error fault => exact ⟨fault, rfl⟩
    | ok level =>
      rw [named] at ends
      rcases upper with upper | upper
      · exact absurd (.layout upper) (ends _)
      · exact absurd (.styles upper) (ends _)

/-- A call has a level, unless there is a reason. -/
theorem SetUp.level_isError (call : SetUp) (world : World) :
    (∃ fault, call.level? world = .error fault) ↔ call.Unlevelled world := by
  rw [level?]
  constructor
  · rintro ⟨fault, failed⟩
    by_cases null : call.level.content = .null
    · rw [null, levelOfValue] at failed
      exact .name (.inr ⟨null, rfl⟩) ((levelOfName_isError _).mp ⟨fault, failed⟩)
    · by_cases text : ∃ name, call.level.content = .text name
      · obtain ⟨name, named⟩ := text
        rw [named, levelOfValue] at failed
        exact .name (.inl named) ((levelOfName_isError _).mp ⟨fault, failed⟩)
      · exact .kind null fun name named => text ⟨name, named⟩
  · rintro (⟨given, other⟩ | ⟨named | ⟨null, rfl⟩, upper⟩)
    · generalize call.level.content = level at given other
      cases level with
      | null => exact absurd rfl given
      | text name => exact absurd rfl (other name)
      | _ => exact ⟨_, rfl⟩
    · rw [named, levelOfValue]
      exact (levelOfName_isError _).mpr upper
    · rw [null, levelOfValue]
      exact (levelOfName_isError _).mpr upper

end Log

/-! ## Many set-ups -/

theorem FileTree.append_isOk (tree : FileTree) (location : Location) (text : String) :
    (∃ after, tree.append location text = .ok after) ↔ tree.entry? location ≠ some .directory := by
  cases there : tree.entry? location with
  | none =>
    rw [append, there]
    exact ⟨fun _ => by simp, fun _ => ⟨_, rfl⟩⟩
  | some entry =>
    cases entry with
    | directory =>
      rw [append, there]
      refine ⟨?_, fun free => absurd rfl free⟩
      rintro ⟨_, done⟩
      cases done
    | file content =>
      rw [append, there]
      exact ⟨fun _ => by simp, fun _ => ⟨_, rfl⟩⟩

/-- Nothing has changed but files and how the log is set up. -/
structure World.Kept (world after : World) : Prop where
  tree : world.tree.SameDirectories after.tree
  others : after = { world with tree := after.tree, log := after.log }

namespace World.Kept

variable {world middle after : World}

theorem refl (world : World) : world.Kept world :=
  ⟨fun _ => Iff.rfl, rfl⟩

theorem trans (first : world.Kept middle) (second : middle.Kept after) : world.Kept after := by
  refine ⟨first.tree.trans second.tree, ?_⟩
  rw [second.others, first.others]

theorem level_eq (kept : world.Kept after) (call : Log.SetUp) : call.level? after = call.level? world := by
  rw [kept.others]
  rfl

/-- A file that can be opened could be opened before. -/
theorem openLog_eq (kept : world.Kept after) {file : LogFile} {place : Option Location}
    (done : (Action.openLog file after).1 = .ok place) : (Action.openLog file world).1 = .ok place := by
  have opens := Action.openLog_opens file after
  generalize Action.openLog file after = result at done opens
  cases opens with
  | absent absent =>
    cases done
    rw [Action.openLog, absent]
    rfl
  | @file name location tree given named valid located added =>
    cases done
    have back : after.SamePlaces world := ⟨by rw [kept.others], fun place => (kept.tree place).symm⟩
    have path : after.absolute name.toText = world.absolute name.toText := by
      rw [kept.others]
      rfl
    rw [path] at valid located ⊢
    have free := (FileTree.append_isOk _ _ _).mp ⟨tree, added⟩
    obtain ⟨grown, added⟩ := (FileTree.append_isOk world.tree location "").mpr fun there =>
      free ((kept.tree location).mpr there)
    rw [Action.openLog_of_located given named valid (back.locate_eq located) added]
  | nameless _ _ => cases done
  | shut _ _ _ => cases done

end World.Kept

theorem Log.SetUp.run_kept (call : SetUp) (world : World) : world.Kept (call.run world).2 := by
  cases known : call.level? world with
  | error fault =>
    rw [run_of_fault known]
    exact .refl world
  | ok level =>
    rw [run_of_level known]
    obtain ⟨tree, others⟩ := (Action.openLog_opens call.file world).frame
    refine ⟨tree, ?_⟩
    rw [others]

/-- A call that succeeds has what it asks for. -/
theorem Log.SetUp.Wants.of_opened {call : SetUp} {world : World} {level : Int} {place : Option Location}
    (known : call.level? world = .ok level) (done : (Action.openLog call.file world).1 = .ok place) :
    call.Wants world ⟨level, place⟩ := by
  have opens := Action.openLog_opens call.file world
  generalize Action.openLog call.file world = result at done opens
  cases opens with
  | absent absent =>
    cases done
    exact .console known absent
  | file given named _ _ _ =>
    cases done
    exact .file known given named
  | nameless _ _ => cases done
  | shut _ _ _ => cases done

namespace Logging

/-- Sets logging up many times, however that ends. -/
def setUpAll (logging : Logging) (calls : List Log.SetUp) : Logging :=
  calls.foldl (fun logging call => (logging.setUp call).2) logging

theorem setUpAll_kept (logging : Logging) (calls : List Log.SetUp) :
    logging.world.Kept (logging.setUpAll calls).world := by
  induction calls generalizing logging with
  | nil => exact .refl logging.world
  | cons call calls ih => exact (call.run_kept logging.world).trans (ih (logging.setUp call).2)

/-- Whatever there was before, a call with a level lets messages be written at that level, and to its file if
that is open. -/
theorem setUp_writes (logging : Logging) {call : Log.SetUp} {level : Int}
    (known : call.level? logging.world = .ok level) :
    (logging.setUp call).2.Writes logging.world.clock logging.world.origins
      ⟨level, call.opened? logging.world⟩ := by
  have clock : (logging.setUp call).2.world.clock = logging.world.clock := by
    show (call.run logging.world).2.clock = _
    rw [(call.run_kept logging.world).others]
  have origins : (logging.setUp call).2.world.origins = logging.world.origins := by
    show (call.run logging.world).2.origins = _
    rw [(call.run_kept logging.world).others]
  have log : (logging.setUp call).2.world.log = ⟨level, call.opened? logging.world⟩ := by
    show (call.run logging.world).2.log = _
    rw [Log.SetUp.run_of_level known]
  rw [← clock, ← origins]
  exact writes_of_fits (Log.SetUp.fits_setUp known logging.logger) log

theorem setUp_of_fault (logging : Logging) {call : Log.SetUp} {fault : Fault}
    (failed : call.level? logging.world = .error fault) :
    logging.setUp call = (.error fault.reported, logging) := by
  rw [setUp, Log.SetUp.run_of_fault failed, Log.Logger.setUp, failed]

/-- A call that succeeds in surroundings that earlier calls have left would have succeeded before them, and messages
are written in both cases as it wants. -/
theorem setUp_of_kept (logging : Logging) {before : Logging} {last : Log.SetUp}
    (kept : logging.world.Kept before.world) (done : (before.setUp last).1 = .ok ()) :
    (logging.setUp last).1 = .ok () ∧
      ∃ setup, last.Wants logging.world setup ∧
        (before.setUp last).2.Writes logging.world.clock logging.world.origins setup ∧
        (logging.setUp last).2.Writes logging.world.clock logging.world.origins setup := by
  change (last.run before.world).1 = .ok () at done
  cases known : last.level? before.world with
  | error fault =>
    rw [Log.SetUp.run_of_fault known] at done
    cases done
  | ok level =>
    rw [Log.SetUp.run_of_level known] at done
    obtain ⟨opened, here, _⟩ := Outcome.map_eq_ok.mp done
    have alone := kept.openLog_eq here
    have levelled : last.level? logging.world = .ok level := kept.level_eq last ▸ known
    have after := before.setUp_writes known
    have only := logging.setUp_writes levelled
    have clock : before.world.clock = logging.world.clock := by rw [kept.others]
    have origins : before.world.origins = logging.world.origins := by rw [kept.others]
    rw [Log.SetUp.opened?, here, clock, origins] at after
    rw [Log.SetUp.opened?, alone] at only
    refine ⟨?_, ⟨level, opened⟩, .of_opened levelled alone, after, only⟩
    show (last.run logging.world).1 = .ok ()
    rw [Log.SetUp.run_of_level levelled, alone]
    rfl

/-- A call with a level fails only at its file, and leaves the console at that level. -/
theorem setUp_of_level (logging : Logging) {call : Log.SetUp} {level : Int} {fault : Fault}
    (known : call.level? logging.world = .ok level) (failed : (logging.setUp call).1 = .error fault) :
    (logging.setUp call).2.world = { logging.world with log := ⟨level, none⟩ } ∧
      (logging.setUp call).2.Writes logging.world.clock logging.world.origins ⟨level, none⟩ := by
  change (call.run logging.world).1 = .error fault at failed
  have writes := logging.setUp_writes known
  have ran := Log.SetUp.run_of_level known
  rw [ran] at failed
  cases opened : Action.openLog call.file logging.world with
  | mk outcome after =>
    rw [opened] at failed
    cases outcome with
    | ok place => cases failed
    | error cause =>
      obtain rfl := Action.openLog_eq_error opened
      rw [Log.SetUp.opened?, opened] at writes ran
      exact ⟨congrArg Prod.snd ran, writes⟩

/-- A logger with a handler for the console and two for the same file. -/
def stale : Logging where
  logger := ⟨Log.debug, [⟨.console, 0, false⟩, ⟨.file ["a.log"], 0, true⟩, ⟨.file ["a.log"], 0, true⟩], true⟩
  world := {}

/-- A call with a name of a level and a name of a file. -/
def named (level file : Text) : Log.SetUp :=
  ⟨.text level, .value (.text file)⟩

/-- Only the last set-up counts. If it succeeds, messages are written as if it had been the only one. If it has
no level, everything stays as it was; if its file cannot be opened, messages go to the console alone, at the new
level. -/
theorem last_setUp_counts (logging : Logging) :
    (∀ calls last, ((logging.setUpAll calls).setUp last).1 = .ok () →
      (logging.setUp last).1 = .ok () ∧
        ∃ setup, last.Wants logging.world setup ∧
          ((logging.setUpAll calls).setUp last).2.Writes logging.world.clock logging.world.origins setup ∧
          (logging.setUp last).2.Writes logging.world.clock logging.world.origins setup) ∧
    (∀ call, call.Unlevelled logging.world → ∃ fault, logging.setUp call = (.error fault, logging)) ∧
    (∀ call fault, (logging.setUp call).1 = .error fault → ¬ call.Unlevelled logging.world →
      ∃ level, call.level? logging.world = .ok level ∧
        (logging.setUp call).2.world = { logging.world with log := ⟨level, none⟩ } ∧
        (logging.setUp call).2.Writes logging.world.clock logging.world.origins ⟨level, none⟩) := by
  refine ⟨fun calls last done => ?_, fun call unlevelled => ?_, fun call fault failed levelled => ?_⟩
  · exact logging.setUp_of_kept (logging.setUpAll_kept calls) done
  · obtain ⟨fault, failed⟩ := (call.level_isError logging.world).mpr unlevelled
    exact ⟨fault.reported, logging.setUp_of_fault failed⟩
  · cases known : call.level? logging.world with
    | error missing => exact absurd ((call.level_isError logging.world).mp ⟨missing, known⟩) levelled
    | ok level => exact ⟨level, rfl, logging.setUp_of_level known failed⟩

theorem last_setUp_counts_stale :
    ((stale.setUpAll [named "DEBUG" "a.log", ⟨.int 5, .value .null⟩, named "INFO" "missing/c.log"]).setUp
        (named "ERROR" "b.log")).2.Writes [] (fun _ => {}) ⟨Log.error, some ["b.log"]⟩ ∧
      (∃ fault, stale.setUp ⟨.int 5, .value .null⟩ = (.error fault, stale)) ∧
      (stale.setUp (named "INFO" "missing/c.log")).2.Writes [] (fun _ => {}) ⟨Log.info, none⟩ ∧
      Log.Below (Log.Message.mk "shapes" Log.error "m").record.logger := by
  obtain ⟨last, unlevelled, shut⟩ := last_setUp_counts stale
  refine ⟨?_, unlevelled _ (.kind Value.noConfusion fun _ => Value.noConfusion), ?_, by decide⟩
  · obtain ⟨_, setup, wants, after, _⟩ := last
      [named "DEBUG" "a.log", ⟨.int 5, .value .null⟩, named "INFO" "missing/c.log"] (named "ERROR" "b.log") rfl
    cases wants with
    | console _ absent => cases absent
    | file known _ text =>
      cases text
      cases known
      exact after
  · have levelled : ¬ (named "INFO" "missing/c.log").Unlevelled stale.world := by
      rw [← Log.SetUp.level_isError]
      rintro ⟨_, failed⟩
      cases failed
    obtain ⟨level, known, _, writes⟩ := shut _ _ rfl levelled
    cases known
    exact writes

/-- A component whose name starts with a dot is not below the package: a warning of it is written, though the
package logs errors only. -/
theorem warning_of_dotted :
    (stale.setUp ⟨.text "ERROR", .value .null⟩).1 = .ok () ∧
      (Log.SetUp.mk (.text "ERROR") (.value .null)).level? stale.world = .ok Log.error ∧
      (stale.setUp ⟨.text "ERROR", .value .null⟩).2.world.stderr = [] ∧
      ((stale.setUp ⟨.text "ERROR", .value .null⟩).2.emit
        (Log.Message.mk ".x" Log.warning "m").record).world.stderr = "m\n" := by
  refine ⟨rfl, rfl, rfl, rfl⟩

end Logging

end VariantIter
