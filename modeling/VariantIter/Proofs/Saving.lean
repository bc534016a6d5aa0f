import Mathlib
import VariantIter.Proofs.SavedOptions

/-!
Settings that are saved and loaded again.

A file that was read can be written at the same place, and so can a file that is not there in a working
directory that is. Saving records what it did, so a file of the log gets a line more; it must not be the
file of the settings. Main statement: settings that were loaded from a file in JSON can be saved, and
loading that file again gives the same settings, whether the variables of the environment are as they
were or unset.
-/

namespace VariantIter

/-! ## Places of files -/

namespace FileTree

theorem walk_append (tree : FileTree) (here : Location) (names more : List Text) :
    tree.walk here (names ++ more) = (tree.walk here names >>= fun there => tree.walk there more) := by
  induction names generalizing here with
  | nil => rfl
  | cons name names ih =>
    rw [List.cons_append, walk, walk]
    cases tree.entry? here with
    | none => rfl
    | some entry =>
      cases entry with
      | file content => rfl
      | directory =>
        simp only
        split
        · exact ih _
        · split
          · exact ih _
          · split
            · rfl
            · exact ih _

end FileTree

namespace World

variable {world after : World} {path : Path} {location : Location}

theorem Writable.write_eq (writable : world.Writable path location) (content : Content) :
    Action.write path content world =
      (.ok (), { world with tree := world.tree.put location (.file content) }) := by
  refine Action.onFiles_eq_ok.mpr ⟨writable.valid, _, ?_, rfl⟩
  rw [writable.located, Outcome.ok_bind, writable.tree_write]
  rfl

theorem Writable.read_eq (writable : world.Writable path location) {content : Content}
    (there : world.tree.entry? location = some (.file content)) :
    Action.read path world = (.ok content, world) := by
  refine Action.onFiles_eq_ok.mpr ⟨writable.valid, world.tree, ?_, rfl⟩
  rw [writable.located, Outcome.ok_bind, FileTree.read, there]
  rfl

/-- The working directory is there, and a file of settings in it has a path. -/
structure Standing (world : World) : Prop where
  located : world.locate world.directoryPath = .ok world.directory
  there : world.tree.entry? world.directory = some .directory
  valid : Action.checkPath (Settings.candidate world Settings.lastFileName).text = .ok ()

theorem Standing.locate_candidate (standing : world.Standing) {name : Text}
    (listed : name ∈ Settings.fileNames) :
    world.locate (Settings.candidate world name) = .ok (world.directory ++ [name]) := by
  have inside : world.tree.walk [] world.directory = .ok world.directory := standing.located
  change world.tree.walk [] (world.directory ++ [name]) = _
  rw [FileTree.walk_append, inside, Outcome.ok_bind, FileTree.walk, standing.there]
  simp only [Settings.fileNames, List.mem_cons, List.not_mem_nil, or_false] at listed
  rcases listed with rfl | rfl | rfl <;> rfl

/-- Where there is nothing yet, a file of settings can be written. -/
theorem Standing.writable (standing : world.Standing)
    (absent : Action.hasEntry (Settings.candidate world Settings.lastFileName) world =
      (.ok false, after)) :
    ∃ location, world.Writable (Settings.candidate world Settings.lastFileName) location := by
  have located := standing.locate_candidate (show Settings.lastFileName ∈ _ by decide)
  refine ⟨_, standing.valid, located, fun there => ?_⟩
  rw [Action.hasEntry, standing.valid] at absent
  simp only at absent
  rw [World.hasEntry, located] at absent
  simp only [there] at absent
  cases absent

/-- A file of settings that was not there is not there as long as nothing is put in its place. -/
theorem Standing.absent (standing : world.Standing) (same : world.SamePlaces after) {name : Text}
    (listed : name ∈ Settings.fileNames)
    (kept : after.tree.entry? (world.directory ++ [name]) =
      world.tree.entry? (world.directory ++ [name]))
    (absent : Action.hasEntry (Settings.candidate world name) world = (.ok false, world)) :
    Action.hasEntry (Settings.candidate world name) after = (.ok false, after) := by
  have located := standing.locate_candidate listed
  rw [Action.hasEntry] at absent ⊢
  cases valid : Action.checkPath (Settings.candidate world name).text with
  | error fault =>
    rw [valid] at absent
    cases fault with
    | file cause text => cases absent
    | _ => rfl
  | ok checked =>
    rw [valid] at absent
    simp only [World.hasEntry, located] at absent
    simp only [World.hasEntry, same.locate_eq located, kept]
    exact congrArg (·, after) (congrArg Prod.fst absent)

end World

/-! ## What was loaded -/

namespace Settings

open Json (ReadableEntries)

/-- The first file is there, or the search goes on after it. -/
theorem firstPresent_cons {path : Path} {paths : List Path} {found : Option Path}
    {world after : World} (done : firstPresent (path :: paths) world = (.ok found, after)) :
    (Action.hasEntry path world = (.ok true, world) ∧ found = some path ∧ after = world) ∨
      (Action.hasEntry path world = (.ok false, world) ∧
        firstPresent paths world = (.ok found, after)) := by
  obtain ⟨present, middle, looked, rest⟩ := Action.bind_eq_ok.mp done
  have same := Action.hasEntry_world path world
  rw [looked] at same
  subst same
  cases present with
  | false => exact .inr ⟨looked, rest⟩
  | true =>
    cases rest
    exact .inl ⟨looked, rfl, rfl⟩

theorem firstPresent_of_absent {path : Path} {paths : List Path} {world : World}
    (absent : Action.hasEntry path world = (.ok false, world)) :
    firstPresent (path :: paths) world = firstPresent paths world := by
  rw [firstPresent, Action.bind_of_ok absent, if_neg Bool.false_ne_true]

theorem firstPresent_single {path : Path} {present : Bool} {world : World}
    (looked : Action.hasEntry path world = (.ok present, world)) :
    firstPresent [path] world = (.ok (if present then some path else none), world) := by
  rw [firstPresent, Action.bind_of_ok looked]
  cases present <;> rfl

/-- Looking for a file changes nothing, and what is found is there. -/
theorem firstPresent_eq_ok {paths : List Path} {found : Option Path} {world after : World}
    (done : firstPresent paths world = (.ok found, after)) :
    after = world ∧ ∀ path, found = some path → Action.hasEntry path world = (.ok true, world) := by
  induction paths with
  | nil =>
    cases done
    exact ⟨rfl, nofun⟩
  | cons path paths ih =>
    rcases firstPresent_cons done with ⟨looked, rfl, rfl⟩ | ⟨_, rest⟩
    · exact ⟨rfl, fun other given => Option.some.inj given ▸ looked⟩
    · exact ih rest

/-- Without a path the search decides. -/
theorem filePath_searched {path : Option Text} {file : Path} {world after : World}
    (unasked : path.getD [] = []) :
    filePath path world = (.ok file, after) ↔
      after = world ∧ ∃ found, firstPresent (fileNames.map (candidate world)) world = (.ok found, world) ∧
        found.getD (candidate world lastFileName) = file := by
  rw [filePath, unasked]
  constructor
  · intro done
    obtain ⟨paths, _, listed, searched⟩ := Action.bind_eq_ok.mp done
    cases listed
    obtain ⟨found, middle, looked, chosen⟩ := Action.bind_eq_ok.mp searched
    obtain ⟨rfl, _⟩ := firstPresent_eq_ok looked
    cases chosen
    exact ⟨rfl, found, looked, rfl⟩
  · rintro ⟨rfl, found, looked, rfl⟩
    exact Action.bind_eq_ok.mpr ⟨_, _, rfl, Action.bind_eq_ok.mpr ⟨_, _, looked, rfl⟩⟩

theorem filePath_asked {path : Option Text} (asked : path.getD [] ≠ []) (world : World) :
    filePath path world = (.ok (Path.ofText (path.getD [])), world) := by
  rw [filePath]
  cases given : path.getD [] with
  | nil => exact absurd given asked
  | cons c text => rfl

theorem filePath_world {path : Option Text} {file : Path} {world after : World}
    (done : filePath path world = (.ok file, after)) : after = world := by
  by_cases unasked : path.getD [] = []
  · exact ((filePath_searched unasked).mp done).1
  · rw [filePath_asked unasked] at done
    cases done
    rfl

/-- The data that a file holds, or none if no file was asked for and none is there. -/
def HasData (path : Option Text) (file : Path) (world : World) (data : Entries) : Prop :=
  (∃ content, Action.read file world = (.ok content, world) ∧
      readDocument file content = .ok data) ∨
    (path = none ∧ Action.hasEntry file world = (.ok false, world) ∧ data = [])

theorem readData_eq_ok {path : Option Text} {file : Path} {world after : World} {data : Entries}
    (done : readData path.isSome file world = (.ok data, after)) :
    HasData path file world data ∧ ∃ record, after = world.record record := by
  obtain ⟨present, middle, looked, rest⟩ := Action.bind_eq_ok.mp done
  have same := Action.hasEntry_world file world
  rw [looked] at same
  subst same
  cases present with
  | true =>
    obtain ⟨content, after', held, opened⟩ := Action.bind_eq_ok.mp rest
    have same := Action.read_world file middle
    rw [held] at same
    subst same
    obtain ⟨_, _, accepted, recorded⟩ := Action.bind_eq_ok.mp opened
    obtain ⟨parsed, rfl⟩ := Action.ofExcept_eq_ok.mp accepted
    cases recorded
    exact ⟨.inl ⟨content, held, parsed⟩, _, rfl⟩
  | false =>
    cases path with
    | some text => cases rest
    | none =>
      cases rest
      exact ⟨.inr ⟨rfl, looked, rfl⟩, _, rfl⟩

theorem load_eq_ok {path : Option Text} {settings : Settings} {world after : World}
    (done : load path world = (.ok settings, after)) :
    ∃ data, filePath path world = (.ok settings.file, world) ∧
      HasData path settings.file world data ∧ (∃ record, after = world.record record) ∧
      generationOptions data (world.lookUp? "ENUMERANT_TARGET") = .ok settings.generation ∧
      loggingOptions data (world.lookUp? "ENUMERANT_LOG_LEVEL") = .ok settings.logging := by
  obtain ⟨file, middle, found, located⟩ := Action.bind_eq_ok.mp done
  obtain rfl := filePath_world found
  obtain ⟨data, middle, read, options⟩ := Action.bind_eq_ok.mp located
  obtain ⟨hasData, record, rfl⟩ := readData_eq_ok read
  rw [Action.view_bind, Action.view_bind, World.lookUp_record, World.lookUp_record] at options
  obtain ⟨generation, _, checked, options⟩ := Action.bind_eq_ok.mp options
  obtain ⟨generated, rfl⟩ := Action.ofExcept_eq_ok.mp checked
  obtain ⟨logging, _, taken, options⟩ := Action.bind_eq_ok.mp options
  obtain ⟨logs, rfl⟩ := Action.ofExcept_eq_ok.mp taken
  cases options
  exact ⟨data, found, hasData, ⟨record, rfl⟩, generated, logs⟩

theorem HasData.readable {path : Option Text} {file : Path} {world : World} {data : Entries}
    (hasData : HasData path file world data) (json : Document.isYaml file = false) :
    ReadableEntries data := by
  rcases hasData with ⟨content, _, parsed⟩ | ⟨_, _, rfl⟩
  · exact readable_of_readDocument json parsed
  · exact nofun

theorem HasData.exists_writable {path : Option Text} {file : Path} {world : World} {data : Entries}
    (hasData : HasData path file world data) (standing : path.getD [] = [] → world.Standing)
    (found : filePath path world = (.ok file, world)) : ∃ location, world.Writable file location := by
  rcases hasData with ⟨content, held, _⟩ | ⟨unasked, absent, _⟩
  · obtain ⟨location, writable, _⟩ := World.exists_writable held
    exact ⟨location, writable⟩
  · have searched : path.getD [] = [] := by rw [unasked]; rfl
    obtain ⟨_, chosen, looked, rfl⟩ := (filePath_searched searched).mp found
    cases chosen with
    | some path =>
      have present := (firstPresent_eq_ok looked).2 path rfl
      rw [Option.getD_some, present] at absent
      cases absent
    | none => exact (standing searched).writable absent

/-! ## Looking for the file again -/

theorem isYaml_candidate (world : World) (name : Text) :
    Document.isYaml (candidate world name) =
      (Text.lower (Path.suffixOf name) == ".yaml" || Text.lower (Path.suffixOf name) == ".yml") := by
  rw [Document.isYaml, Path.suffix, candidate, List.getLast?_concat]

/-- The names of files in YAML come first; a search that ends at a file in JSON has found neither. -/
theorem searched_json {path : Option Text} {file : Path} {world : World}
    (unasked : path.getD [] = []) (found : filePath path world = (.ok file, world))
    (json : Document.isYaml file = false) :
    file = candidate world lastFileName ∧ ∀ name ∈ fileNames, name ≠ lastFileName →
      Action.hasEntry (candidate world name) world = (.ok false, world) := by
  obtain ⟨_, chosen, looked, rfl⟩ := (filePath_searched unasked).mp found
  rcases firstPresent_cons looked with ⟨_, rfl, _⟩ | ⟨noYaml, looked⟩
  · rw [Option.getD_some, isYaml_candidate] at json
    exact absurd json (by decide)
  rcases firstPresent_cons looked with ⟨_, rfl, _⟩ | ⟨noYml, looked⟩
  · rw [Option.getD_some, isYaml_candidate] at json
    exact absurd json (by decide)
  constructor
  · rcases firstPresent_cons looked with ⟨_, rfl, _⟩ | ⟨_, looked⟩
    · rfl
    · cases looked
      rfl
  · simp only [fileNames, List.forall_mem_cons]
    exact ⟨fun _ => noYaml, fun _ => noYml, fun differs => absurd rfl differs, nofun⟩

/-- A file in JSON that was found is found again, unless another file has come to be there. -/
theorem filePath_again {path : Option Text} {file : Path} {world after : World} {location : Location}
    (standing : path.getD [] = [] → world.Standing) (found : filePath path world = (.ok file, world))
    (json : Document.isYaml file = false) (same : world.SamePlaces after)
    (writable : after.Writable file location)
    (kept : path.getD [] = [] → ∀ name ∈ fileNames, name ≠ lastFileName →
      after.tree.entry? (world.directory ++ [name]) = world.tree.entry? (world.directory ++ [name])) :
    filePath path after = (.ok file, after) := by
  by_cases unasked : path.getD [] = []
  · obtain ⟨rfl, absent⟩ := searched_json unasked found json
    have still (name : Text) (listed : name ∈ fileNames) (another : name ≠ lastFileName) :=
      (standing unasked).absent same listed (kept unasked name listed another) (absent name listed another)
    have search : firstPresent (fileNames.map (candidate world)) after =
        (.ok (if (after.tree.entry? location).isSome then some (candidate world lastFileName)
          else none), after) := by
      rw [fileNames, List.map_cons, firstPresent_of_absent (still _ (by decide) (by decide)),
        List.map_cons, firstPresent_of_absent (still _ (by decide) (by decide))]
      exact firstPresent_single writable.hasEntry_eq
    have names : candidate after = candidate world := by
      funext name
      rw [candidate, candidate, same.directory]
    refine (filePath_searched unasked).mpr ⟨rfl, _, names ▸ search, ?_⟩
    rw [names]
    split <;> rfl
  · rw [filePath_asked unasked] at found ⊢
    cases found
    rfl

/-! ## Saving and loading again -/

variable {settings : Settings} {world : World} {location : Location} {text : String}

/-- The surroundings after settings were saved: their file, and a record. -/
def afterSaving (settings : Settings) (world : World) (location : Location) (text : String) : World :=
  World.record { world with tree := world.tree.put location (.file (.text text)) }
    (logged Log.info ("Configuration saved to " ++ settings.file.text))

theorem save_eq (writable : world.Writable settings.file location)
    (written : settings.document = (text, none)) :
    settings.save world = (.ok (), settings.afterSaving world location text) := by
  rw [save, written]
  exact Action.bind_of_ok (writable.write_eq _)

/-- No file changes but that of the settings, and that of the log. -/
theorem entry_afterSaving {other : Location} (differs : other ≠ location)
    (idle : world.log.file ≠ some other) :
    (settings.afterSaving world location text).tree.entry? other = world.tree.entry? other := by
  refine Eq.trans (World.entry_record _ _ ?_) ?_
  · exact idle
  · rw [FileTree.entry_put, if_neg fun here => differs here.1]

/-- The file of the log gets a line more, whatever it holds by then. -/
theorem entry_afterSaving_log {place : Location} {content : Content} {line : String}
    (accepted : world.log.accepts
      (logged Log.info ("Configuration saved to " ++ settings.file.text)) = true)
    (file : world.log.file = some place)
    (there : FileTree.entry? (world.tree.put location (.file (.text text))) place =
      some (.file content))
    (encoded : Text.Utf8.toFile
      ((logged Log.info ("Configuration saved to " ++ settings.file.text)).line world.clock) =
        .ok line) :
    (settings.afterSaving world location text).tree.entry? place =
      some (.file (content.append line)) := by
  have lines : world.log.fileLines world.clock
      [logged Log.info ("Configuration saved to " ++ settings.file.text)] = [line] := by
    rw [Log.Setup.fileLines, List.filter_cons_of_pos accepted,
      List.filterMap_cons_some (by rw [encoded]; rfl)]
    rfl
  have written := World.entry_record_file
    { world with tree := world.tree.put location (.file (.text text)) }
    (logged Log.info ("Configuration saved to " ++ settings.file.text)) file
  simp only [lines, List.foldl_cons, List.foldl_nil, there] at written
  exact written

theorem holds_afterSaving (writable : world.Writable settings.file location)
    (idle : world.log.file ≠ some location) :
    (settings.afterSaving world location text).tree.entry? location = some (.file (.text text)) := by
  have below : location ≠ [] := by
    rintro rfl
    exact writable.free rfl
  refine Eq.trans (World.entry_record _ _ ?_) ?_
  · exact idle
  · rw [FileTree.entry_put, if_pos ⟨rfl, below⟩]

theorem samePlaces_afterSaving (writable : world.Writable settings.file location) :
    world.SamePlaces (settings.afterSaving world location text) := by
  have put : world.SamePlaces { world with tree := world.tree.put location (.file (.text text)) } :=
    ⟨rfl, FileTree.sameDirectories_put writable.free _⟩
  exact put.trans (World.samePlaces_record _ _)

theorem lookUp_afterSaving (name : Text) :
    (settings.afterSaving world location text).lookUp? name = world.lookUp? name :=
  World.lookUp_record _ _ name

end Settings

namespace World

/-- The surroundings with both variables unset that go before a file of settings. -/
def withoutOverrides (world : World) : World :=
  (world.setVariable "ENUMERANT_TARGET" none).setVariable "ENUMERANT_LOG_LEVEL" none

theorem lookUp_setVariable_none (world : World) (name other : Text) :
    (world.setVariable name none).lookUp? other =
      if other = name then none else world.lookUp? other := by
  change (world.environment.filter fun entry => entry.1 != name).lookup other = _
  rw [lookUp?]
  induction world.environment with
  | nil => simp
  | cons entry entries ih =>
    obtain ⟨first, value⟩ := entry
    by_cases removed : first = name
    · subst removed
      rw [List.filter_cons_of_neg (by simp), ih]
      by_cases same : other = first
      · rw [if_pos same, if_pos same]
      · rw [if_neg same, if_neg same, List.lookup_cons, beq_eq_false_iff_ne.mpr same]
    · rw [List.filter_cons_of_pos (by simpa using removed), List.lookup_cons, List.lookup_cons, ih]
      by_cases here : other = first
      · subst here
        simp [removed]
      · simp [beq_eq_false_iff_ne.mpr here]

end World

namespace Settings

/-- The surroundings of settings that are loaded again: as they were left, or without the variables that
go before the file. -/
def LoadsIn (saved later : World) : Prop :=
  later = saved ∨ later = saved.withoutOverrides

theorem LoadsIn.lookUp {saved later : World} (again : LoadsIn saved later) (name : Text)
    (overrides : name = "ENUMERANT_TARGET" ∨ name = "ENUMERANT_LOG_LEVEL") :
    later.lookUp? name = saved.lookUp? name ∨ later.lookUp? name = none := by
  rcases again with rfl | rfl
  · exact .inl rfl
  · right
    rw [World.withoutOverrides, World.lookUp_setVariable_none, World.lookUp_setVariable_none]
    rcases overrides with rfl | rfl
    · rw [if_neg (by decide), if_pos rfl]
    · rw [if_pos rfl]

theorem LoadsIn.files {saved later : World} (again : LoadsIn saved later) :
    later.tree = saved.tree ∧ later.directory = saved.directory := by
  rcases again with rfl | rfl <;> exact ⟨rfl, rfl⟩

variable {settings : Settings} {world : World} {location : Location} {text : String}

/-- After settings were saved, what they were loaded from leads to their file again, and so does all that leads
there. -/
theorem filePath_of_saved {path again : Option Text} {record : Log.Record} {later : World}
    (standing : path.getD [] = [] → world.Standing)
    (found : filePath path world = (.ok settings.file, world))
    (json : Document.isYaml settings.file = false) (writable : world.Writable settings.file location)
    (reopened : LoadsIn (settings.afterSaving (world.record record) location text) later)
    (quiet : path.getD [] = [] → ∀ name ∈ fileNames,
      (world.record record).log.file ≠ some (world.directory ++ [name]))
    (same : again = path ∨ (filePath again later).1 = .ok settings.file) :
    filePath again later = (.ok settings.file, later) := by
  obtain ⟨tree, directory⟩ := reopened.files
  have recorded := world.samePlaces_record record
  have kept := @samePlaces_afterSaving settings _ location text (writable.of_samePlaces recorded)
  have places : world.SamePlaces later :=
    (recorded.trans kept).trans ⟨directory, tree ▸ fun _ => Iff.rfl⟩
  rcases same with rfl | leads
  · refine filePath_again standing found json places (writable.of_samePlaces places) ?_
    intro unasked name listed another
    have elsewhere : world.directory ++ [name] ≠ location := by
      have here := writable.located
      rw [(searched_json unasked found json).1,
        (standing unasked).locate_candidate (show lastFileName ∈ _ by decide)] at here
      cases here
      simpa using another
    rw [tree, entry_afterSaving elsewhere (quiet unasked name listed)]
    exact World.entry_record _ _ (world.log_record record ▸ quiet unasked name listed)
  · cases searched : filePath again later with
    | mk outcome after =>
      rw [searched] at leads
      cases leads
      rw [filePath_world searched]

/-- Settings are loaded from the document that they were saved as. -/
theorem load_of_saved {again : Option Text} {saved later : World}
    (reopened : LoadsIn saved later) (found : filePath again later = (.ok settings.file, later))
    (writable : saved.Writable settings.file location)
    (holds : saved.tree.entry? location = some (.file (.text text)))
    (parsed : readDocument settings.file (.text text) = .ok settings.toEntries)
    (generated : ∀ target, target = saved.lookUp? "ENUMERANT_TARGET" ∨ target = none →
      generationOptions settings.toEntries target = .ok settings.generation)
    (logs : ∀ level, level = saved.lookUp? "ENUMERANT_LOG_LEVEL" ∨ level = none →
      loggingOptions settings.toEntries level = .ok settings.logging) :
    ∃ after, load again later = (.ok settings, after) := by
  obtain ⟨tree, directory⟩ := reopened.files
  have there : later.tree.entry? location = some (.file (.text text)) := tree ▸ holds
  have open' : later.Writable settings.file location :=
    writable.of_samePlaces ⟨directory, tree ▸ fun _ => Iff.rfl⟩
  exact ⟨_, load_of_present found (open'.read_eq there) parsed
    (generated _ (reopened.lookUp _ (.inl rfl))) (logs _ (reopened.lookUp _ (.inr rfl)))⟩

end Settings

/-! ## Inputs -/

/-- Settings with a name of quotes, a backslash and characters beyond ASCII. -/
def Document.quoted : String :=
  "\x7b\"generation\": \x7b\"capability_name\": \"\\\"\\\\\\u00e9\\ud83d\\ude00\"\x7d\x7d"

/-- Surroundings with such settings, both variables, and a log that is written to a file. -/
def World.quoted : World where
  tree := ⟨[(["c.json"], .file (.text Document.quoted))]⟩
  environment := [("ENUMERANT_TARGET", "Python"), ("ENUMERANT_LOG_LEVEL", "")]
  log := ⟨20, some ["run.log"]⟩

/-- The settings, with the target and the level of the environment. -/
def Settings.quoted : Settings where
  file := ⟨[], ["c.json"]⟩
  generation := { capability := .text "\"\\é😀", target := .text "python" }
  logging := { level := .text "" }

/-- Surroundings with settings that say nothing, and a log that is written to a file. -/
def World.loggingTo (place : Location) : World where
  tree := ⟨[(["c.json"], .file (.text "\x7b\x7d")), (["run.log"], .file (.text ""))]⟩
  log := ⟨20, some place⟩

/-- Those surroundings once the settings were loaded. -/
def World.loadedFrom (place : Location) : World :=
  (World.loggingTo place).record (Settings.logged Log.info ("Loaded configuration from " ++ "c.json"))

/-- The settings that apply without any. -/
def Settings.initial : Settings where
  file := ⟨[], ["c.json"]⟩

namespace Settings

theorem load_quoted :
    load (some "c.json") .quoted = (.ok .quoted,
      World.quoted.record (logged Log.info ("Loaded configuration from " ++ "c.json"))) := by
  have parsed : readDocument ⟨[], ["c.json"]⟩ (.text Document.quoted) =
      .ok [(.text "generation", .map [(.text "capability_name", .text "\"\\é😀")])] := by cbv
  exact load_of_present rfl rfl parsed (by cbv) rfl

variable {settings : Settings} {world : World}

/-- Settings that were loaded from a file in JSON, with plain values for logging, can be saved; no file
changes but theirs and that of the log. A file that is looked for needs a directory to be looked for in. If the log writes to neither their file nor another that is
looked for, loading what they were loaded from again, or anything that leads to their file, gives the
same settings, in the same environment or without its two variables. -/
theorem load_save_load {path : Option Text} {middle : World}
    (loaded : load path world = (.ok settings, middle))
    (json : Document.isYaml settings.file = false) (scalar : settings.logging.Scalar)
    (standing : path.getD [] = [] → world.Standing)
    (bytes : ∀ name value : Text, name = "ENUMERANT_TARGET" ∨ name = "ENUMERANT_LOG_LEVEL" →
      world.lookUp? name = some value → Text.Utf8.nameGap? 0 value = none) :
    ∃ location saved, middle.locate settings.file = .ok location ∧
      settings.save middle = (.ok (), saved) ∧
      (∀ other, other ≠ location → middle.log.file ≠ some other →
        saved.tree.entry? other = middle.tree.entry? other) ∧
      (middle.log.file ≠ some location →
        (path.getD [] = [] → ∀ name ∈ fileNames, middle.log.file ≠ some (world.directory ++ [name])) →
        ∀ later, LoadsIn saved later → ∀ again,
          again = path ∨ (filePath again later).1 = .ok settings.file →
          ∃ after, load again later = (.ok settings, after)) := by
  obtain ⟨recipe, checked⟩ := check_of_load loaded
  obtain ⟨data, found, hasData, ⟨record, rfl⟩, generated, logs⟩ := load_eq_ok loaded
  obtain ⟨location, writable⟩ := hasData.exists_writable standing found
  have readable := hasData.readable json
  have unsplit (name : Text) (override : name = "ENUMERANT_TARGET" ∨ name = "ENUMERANT_LOG_LEVEL") :
      ((world.lookUp? name).getD []).Unsplit := by
    cases given : world.lookUp? name with
    | none => exact .nil
    | some value => exact Text.unsplit_of_nameGap (bytes name value override given)
  obtain ⟨worded, dialect, named, agrees⟩ :=
    worded_of_generationOptions readable (unsplit _ (.inl rfl)) generated
  obtain ⟨logsReadable, level⟩ := readable_of_loggingOptions readable (unsplit _ (.inr rfl)) logs
  obtain ⟨text, written, parsed, _⟩ := exists_document json
    (storable_toEntries worded logsReadable scalar 988)
  have recorded := world.samePlaces_record record
  have ready := writable.of_samePlaces recorded
  refine ⟨location, _, ready.located, save_eq ready written,
    fun other differs idle => entry_afterSaving differs idle, ?_⟩
  intro idle quiet later reopened again same
  have kept := @samePlaces_afterSaving settings _ location text ready
  refine load_of_saved reopened ?_ (ready.of_samePlaces kept) (holds_afterSaving ready idle) parsed ?_ ?_
  · exact filePath_of_saved standing found json writable reopened quiet same
  · intro target given
    refine generationOptions_toEntries worded checked named ?_
    rcases given with rfl | rfl
    · rwa [lookUp_afterSaving, World.lookUp_record]
    · exact .inl rfl
  · intro level' given
    refine loggingOptions_toEntries fun value set => ?_
    rcases given with rfl | rfl
    · rw [lookUp_afterSaving, World.lookUp_record] at set
      exact level value set
    · cases set

theorem load_save_load_quoted :
    ∃ middle saved after,
      load (some "c.json") .quoted = (.ok .quoted, middle) ∧
      Settings.quoted.save middle = (.ok (), saved) ∧
      load (some "c.json") saved.withoutOverrides = (.ok .quoted, after) := by
  have scalar : Settings.quoted.logging.Scalar := by
    unfold LoggingOptions.Scalar
    decide
  have bytes (name value : Text) (override : name = "ENUMERANT_TARGET" ∨ name = "ENUMERANT_LOG_LEVEL")
      (set : World.quoted.lookUp? name = some value) : Text.Utf8.nameGap? 0 value = none := by
    rcases override with rfl | rfl <;> cases set <;> decide
  obtain ⟨location, saved, located, done, _, reloads⟩ :=
    load_save_load load_quoted (by decide) scalar (fun unasked => absurd unasked (by decide)) bytes
  have here : (World.quoted.record
      (logged Log.info ("Loaded configuration from " ++ "c.json"))).locate Settings.quoted.file =
        .ok ["c.json"] := rfl
  cases here.symm.trans located
  obtain ⟨after, again⟩ := reloads (by decide) nofun _ (.inr rfl) _ (.inl rfl)
  exact ⟨_, saved, after, load_quoted, done, again⟩

theorem load_loggingTo (place : Location) :
    load (some "c.json") (.loggingTo place) = (.ok .initial, .loadedFrom place) := by
  have parsed : readDocument ⟨[], ["c.json"]⟩ (.text "\x7b\x7d") = .ok [] := by cbv
  exact load_of_present rfl rfl parsed rfl rfl

/-- The line that saving the settings records. -/
def savedLine : List Char :=
  " - enumerant.config.settings - INFO - Configuration saved to c.json\n".toList

theorem storable_initial : Json.Storable Json.maxDepth (.map Settings.initial.toEntries) := by
  have word (s : String) : ∃ t : Text, Value.text s = .text t ∧ t.Unsplit :=
    ⟨s, rfl, (Text.plain_ofString s).unsplit⟩
  have worded : Settings.initial.generation.Worded := by
    simp only [Options.Worded, Options.toEntries, List.forall_mem_cons]
    exact ⟨word _, word _, word _, word _, word _, word _, List.forall_mem_nil _⟩
  have readable : ∀ entry ∈ Settings.initial.logging.toEntries, Json.Readable entry.2 := by
    simp only [LoggingOptions.toEntries, List.forall_mem_cons]
    exact ⟨.text (Text.plain_ofString _).unsplit, .bool false,
      .text (Text.plain_ofString _).unsplit, List.forall_mem_nil _⟩
  have scalar : Settings.initial.logging.Scalar := by
    unfold LoggingOptions.Scalar
    decide
  exact storable_toEntries worded readable scalar 988

theorem writable_initial (place : Location) :
    (World.loadedFrom place).Writable Settings.initial.file ["c.json"] := by
  have ready : (World.loggingTo place).Writable Settings.initial.file ["c.json"] := ⟨rfl, rfl, nofun⟩
  exact ready.of_samePlaces (World.samePlaces_record _ _)

theorem line_initial :
    Text.Utf8.toFile ((logged Log.info ("Configuration saved to " ++ "c.json")).line []) =
      .ok (String.ofList savedLine) := by
  rfl

/-- What is recorded when settings are saved changes the file of the log. -/
theorem log_of_saved (text : String) :
    (afterSaving .initial (.loadedFrom ["run.log"]) ["c.json"] text).tree.entry? ["run.log"] ≠
      (World.loadedFrom ["run.log"]).tree.entry? ["run.log"] := by
  obtain ⟨content, before⟩ : ∃ content,
      (World.loadedFrom ["run.log"]).tree.entry? ["run.log"] = some (.file (.text content)) :=
    ⟨_, rfl⟩
  have there : FileTree.entry?
      ((World.loadedFrom ["run.log"]).tree.put ["c.json"] (.file (.text text))) ["run.log"] =
        some (.file (.text content)) := by
    rw [FileTree.entry_put, if_neg (by decide), before]
  have after := @entry_afterSaving_log .initial _ _ text _ _ _ rfl rfl there line_initial
  rw [after, before]
  intro same
  have shorter := congrArg String.length (Content.text.inj (Entry.file.inj (Option.some.inj same)))
  rw [String.length_append, String.length_ofList] at shorter
  have long : savedLine.length ≠ 0 := by decide
  omega

/-- What is recorded goes behind the settings if their file is that of the log. -/
theorem not_loaded_of_saved {text : String} {fault : Fault}
    (refused : readDocument Settings.initial.file (.text (text ++ String.ofList savedLine)) =
      .error fault)
    (again : Settings) (after : World) :
    load (some "c.json") (afterSaving .initial (.loadedFrom ["c.json"]) ["c.json"] text) ≠
      (.ok again, after) := by
  intro loaded
  obtain ⟨data, found, hasData, _⟩ := load_eq_ok loaded
  rw [filePath_some (by decide)] at found
  have file : Settings.initial.file = again.file := Except.ok.inj (Prod.mk.inj found).1
  rw [← file] at hasData
  have there : FileTree.entry?
      ((World.loadedFrom ["c.json"]).tree.put ["c.json"] (.file (.text text))) ["c.json"] =
        some (.file (.text text)) := by
    rw [FileTree.entry_put, if_pos (by decide)]
  have holds := @entry_afterSaving_log .initial _ _ text _ _ _ rfl rfl there line_initial
  have ready := writable_initial ["c.json"]
  have read := (ready.of_samePlaces (samePlaces_afterSaving ready)).read_eq holds
  rcases hasData with ⟨content, held, parsed⟩ | ⟨unasked, _⟩
  · cases held.symm.trans read
    cases refused.symm.trans parsed
  · cases unasked

/-- Saving settings changes the file of the log as well. If that is the file of the settings, they are not
loaded again. -/
theorem saving_reaches_log :
    (∃ middle saved, load (some "c.json") (.loggingTo ["run.log"]) = (.ok .initial, middle) ∧
      Settings.initial.save middle = (.ok (), saved) ∧
      saved.tree.entry? ["run.log"] ≠ middle.tree.entry? ["run.log"]) ∧
    (∃ middle saved, load (some "c.json") (.loggingTo ["c.json"]) = (.ok .initial, middle) ∧
      Settings.initial.save middle = (.ok (), saved) ∧
      ∀ again after, load (some "c.json") saved ≠ (.ok again, after)) := by
  obtain ⟨text, written, _, trailing⟩ := exists_document (by decide) storable_initial
  have ends : Json.EndsNumber savedLine := by
    intro c first
    cases Option.some.inj first
    decide
  obtain ⟨fault, refused⟩ := trailing savedLine ends (by decide) (by decide)
  have saves (place : Location) := save_eq (writable_initial place) written
  constructor
  · exact ⟨_, _, load_loggingTo _, saves _, log_of_saved text⟩
  · exact ⟨_, _, load_loggingTo _, saves _, not_loaded_of_saved refused⟩

end Settings

end VariantIter
