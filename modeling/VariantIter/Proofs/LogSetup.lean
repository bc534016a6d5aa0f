import VariantIter.Proofs.SavedOptions

/-!
Setting up the log.

The level of the log has to be a text that names a level, or null, and its file a text or bytes that can be a path.
Nothing checks this before the log is set up. Main statement: for values as they are read from JSON, where there are
no bytes, setting the log up ends with another fault than that of a file exactly if one of the two is of the wrong
kind.
-/

namespace VariantIter

open Json (Readable)
open Outcome (Accounted)

/-- A fault of a file. -/
def Fault.isFile : Fault → Bool
  | .file _ _ | .byteFile _ _ => true
  | _ => false

namespace Log

/-- Why a value is no level: it is no text, or a text that names something else. -/
inductive NoLevel : Value → Fault → Prop
  | kind {level : Value} (given : level ≠ .null) (other : ∀ name, level ≠ .text name) :
      NoLevel level (.noAttribute level.qualifiedKind "upper")
  | layout {name : Text} (upper : Text.upper name = "BASIC_FORMAT") :
      NoLevel (.text name) (.range (.unknownLevel lineLayout))
  | styles {name : Text} (upper : Text.upper name = "_STYLES") :
      NoLevel (.text name) (.kind (.notLevel layoutStyles))

theorem levelOfName_ends (name : Text) :
    Outcome.Ends (fun _ => ∀ fault, ¬ NoLevel (.text name) fault) (NoLevel (.text name))
      (levelOfName name) := by
  unfold levelOfName
  simp only
  cases known : levels.lookup (Text.upper name) with
  | some level =>
    intro fault wrong
    cases wrong with
    | kind _ other => exact other name rfl
    | layout upper =>
      rw [upper] at known
      cases known
    | styles upper =>
      rw [upper] at known
      cases known
  | none =>
    simp only
    split
    · next upper => exact .layout (by simpa using upper)
    · next noLayout =>
      split
      · next upper => exact .styles (by simpa using upper)
      · next noStyles =>
        intro fault wrong
        cases wrong with
        | kind _ other => exact other name rfl
        | layout upper => exact noLayout (by simpa using upper)
        | styles upper => exact noStyles (by simpa using upper)

theorem levelOfValue_ends {level : Value} (readable : Readable level ∨ ∃ name, level = .text name)
    {default : Text} {fallback : Int} (known : level = .null → levelOfName default = .ok fallback) :
    Outcome.Ends (fun _ => ∀ fault, ¬ NoLevel level fault) (NoLevel level)
      (levelOfValue default level) := by
  rcases readable with readable | ⟨name, rfl⟩
  · cases readable with
    | null =>
      rw [levelOfValue, known rfl]
      intro fault wrong
      cases wrong with
      | kind given _ => exact given rfl
    | @text name _ => exact levelOfName_ends name
    | _ => exact .kind (by simp) (by simp)
  · exact levelOfName_ends name

end Log

namespace Action

/-- Why a text cannot be a path at all: it holds half of a pair that stands for no byte, or a null
character. -/
inductive NoPath (text : Text) : Fault → Prop
  | half {gap : Text.Utf8.Unencodable} (found : Text.Utf8.nameGap? 0 text = some gap) :
      NoPath text (.unencodable gap)
  | null (encoded : Text.Utf8.nameGap? 0 text = none) (inside : text.contains (.char '\x00') = true) :
      NoPath text (.range .nullInPath)

theorem checkPath_accounted (text : Text) :
    Accounted Fault.isFile (NoPath text) (checkPath text) := by
  unfold checkPath
  cases encoded : Text.Utf8.nameGap? 0 text with
  | some gap => exact .inr ⟨rfl, .half encoded⟩
  | none =>
    refine Outcome.ends_ite (fun inside => .inr ⟨rfl, .null encoded inside⟩) fun outside => ?_
    have fine : ∀ fault, ¬ NoPath text fault := by
      intro fault wrong
      cases wrong with
      | half found => cases encoded.symm.trans found
      | null _ inside => exact outside inside
    exact Outcome.ends_ite (fun _ => .inl ⟨rfl, fine⟩) fun _ => fine

theorem onFiles_accounted {α : Type} (spelling : Text)
    (operation : World → Except FileFault (α × FileTree)) (world : World) :
    Accounted Fault.isFile (NoPath spelling) (onFiles spelling operation world).1 := by
  have accounted := checkPath_accounted spelling
  unfold onFiles
  cases checked : checkPath spelling with
  | error fault =>
    rw [checked] at accounted
    exact accounted
  | ok _ =>
    rw [checked] at accounted
    cases operation world with
    | ok done => exact accounted
    | error cause => exact .inl ⟨rfl, accounted⟩

/-- Why a value names no file: it is neither a text nor bytes, or a text that cannot be a path. -/
inductive NoLogFile (world : World) : Value → Fault → Prop
  | kind {file : Value} (given : file.truthy = true) (other : ∀ name, file ≠ .text name)
      (noBytes : ∀ name, file ≠ .bytes name) : NoLogFile world file (.kind (.notPath file.kindName))
  | path {name : Text} {fault : Fault} (given : name ≠ [])
      (wrong : NoPath (world.absolute name).text fault) : NoLogFile world (.text name) fault

/-- What a level or a file of the wrong kind ends setting up the log with. The level is looked at first. -/
inductive NoLog (world : World) (level file : Value) : Fault → Prop
  | level {fault : Fault} (wrong : Log.NoLevel level fault) : NoLog world level file fault
  | file {fault : Fault} (levelled : ∀ other, ¬ Log.NoLevel level other)
      (wrong : NoLogFile world file fault) : NoLog world level file fault

theorem not_noLogFile {world : World} {file : Value} (absent : file.truthy = false) (fault : Fault) :
    ¬ NoLogFile world file fault := by
  intro wrong
  cases wrong with
  | kind given _ _ => cases absent.symm.trans given
  | path given _ => simp [Value.truthy, given] at absent

theorem noLogFile_text {world : World} {name : Text} (given : name ≠ []) (fault : Fault) :
    NoLogFile world (.text name) fault ↔ NoPath (world.absolute name).text fault := by
  constructor
  · intro wrong
    cases wrong with
    | kind _ other _ => exact absurd rfl (other name)
    | path _ wrong => exact wrong
  · exact .path given

theorem noLogFile_log (world : World) (log : Log.Setup) {file : Value} (fault : Fault) :
    NoLogFile { world with log := log } file fault ↔ NoLogFile world file fault := by
  constructor
  · rintro (⟨given, other, noBytes⟩ | ⟨given, wrong⟩)
    · exact .kind given other noBytes
    · exact .path given wrong
  · rintro (⟨given, other, noBytes⟩ | ⟨given, wrong⟩)
    · exact .kind given other noBytes
    · exact .path given wrong

/-- A file that has a name is a text, if it was read. -/
theorem name_of_readable {file : Value} (readable : Readable file) {name : FileName}
    (named : (LogFile.value file).name = .ok name) : ∃ text, file = .text text ∧ name = .text text := by
  cases readable with
  | @text s _ =>
    cases named
    exact ⟨s, rfl, rfl⟩
  | _ => cases named

/-- The file decides how opening it ends. -/
theorem openLog_accounted {world : World} {file : Value} (readable : Readable file) :
    Accounted Fault.isFile (NoLogFile world file) (openLog (.value file) world).1 := by
  have opens := openLog_opens (.value file) world
  generalize openLog (.value file) world = result at opens
  cases opens with
  | absent absent => exact not_noLogFile absent
  | nameless given unnamed =>
    cases readable with
    | text _ => cases unnamed
    | _ =>
      cases unnamed
      exact .inr ⟨rfl, .kind given (by simp) (by simp)⟩
  | file given named valid _ _ =>
    obtain ⟨text, rfl, rfl⟩ := name_of_readable readable named
    have present : text ≠ [] := by simpa [LogFile.isGiven, Value.truthy] using given
    intro fault wrong
    exact (checkPath_accounted _).ok valid fault ((noLogFile_text present fault).mp wrong)
  | @shut name fault given named failed =>
    obtain ⟨text, rfl, rfl⟩ := name_of_readable readable named
    have present : text ≠ [] := by simpa [LogFile.isGiven, Value.truthy] using given
    have spelled : (FileName.text text).spell fault = fault := by cases fault <;> rfl
    rw [spelled]
    have accounted : Accounted Fault.isFile (NoLogFile world (.text text))
        (touch (world.absolute text) world).1 :=
      (onFiles_accounted _ _ world).congr fun fault => (noLogFile_text present fault).symm
    exact accounted.error (congrArg Prod.fst failed)

/-- Once the level is known, the file decides. -/
theorem setUpLogging_of_level {world : World} {level file : Value} {number : Int}
    (levelled : Log.levelOfValue ((world.lookUp? "ENUMERANT_LOG_LEVEL").getD "INFO") level.content =
      .ok number)
    (readable : Readable file) :
    Accounted Fault.isFile (NoLogFile world file) (setUpLogging level file world).1 := by
  -- The level is set before the file is opened, and the path does not depend on it.
  have opened : Accounted Fault.isFile (NoLogFile world file)
      (openLog (.value file) { world with log := ⟨number, none⟩ }).1 :=
    (openLog_accounted readable).congr (noLogFile_log world ⟨number, none⟩)
  rw [setUpLogging, view_bind, bind_of_ok (ofExcept_eq_ok.mpr ⟨levelled, rfl⟩), update_bind,
    outcome_bind_update, Accounted, Outcome.ends_map]
  exact opened

theorem setUpLogging_accounted {world : World} {level file : Value}
    (ofLevel : Readable level ∨ ∃ name, level = .text name) (ofFile : Readable file)
    (unset : level = .null → world.lookUp? "ENUMERANT_LOG_LEVEL" = none) :
    Accounted Fault.isFile (NoLog world level file) (setUpLogging level file world).1 := by
  have content : level.content = level := by
    rcases ofLevel with readable | ⟨name, rfl⟩
    · exact readable.content_eq
    · rfl
  have fallback : level = .null →
      Log.levelOfName ((world.lookUp? "ENUMERANT_LOG_LEVEL").getD "INFO") = .ok Log.info := by
    intro null
    rw [unset null]
    rfl
  have ends := Log.levelOfValue_ends ofLevel fallback
  cases levelled : Log.levelOfValue ((world.lookUp? "ENUMERANT_LOG_LEVEL").getD "INFO") level with
  | error fault =>
    rw [setUpLogging, view_bind, content, levelled]
    refine .inr ?_
    cases ends.error levelled with
    | kind given other => exact ⟨rfl, .level (.kind given other)⟩
    | layout upper => exact ⟨rfl, .level (.layout upper)⟩
    | styles upper => exact ⟨rfl, .level (.styles upper)⟩
  | ok number =>
    have fine := ends.ok levelled
    refine (setUpLogging_of_level (content.symm ▸ levelled) ofFile).congr fun fault => ?_
    constructor
    · exact .file fine
    · rintro (⟨wrong⟩ | ⟨_, wrong⟩)
      · exact absurd wrong (fine fault)
      · exact wrong

end Action

end VariantIter
