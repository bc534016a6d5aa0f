import Mathlib.Data.List.Basic
import VariantIter.Proofs.Outcome
import VariantIter.Proofs.Words
import VariantIter.World

/-!
What actions do to their surroundings.

Recording adds lines to the log and changes nothing else: the stream for errors gets the lines that are severe
enough, each with a report if the file of the log cannot hold it, and no directory comes or goes. A file that
could be written before can still be written after it, and at the same place. An action that does no more than
that is said to record.

Writing a text to a file ends in one of two ways. A plain text becomes all that the file holds; a text
with halves of surrogate pairs is a fault.
-/

namespace VariantIter

/-! ## Texts that a file can hold -/

namespace Text

/-- Characters only, without halves of surrogate pairs. -/
def Plain (text : Text) : Prop :=
  ∀ c ∈ text, c.isSurrogate = false

instance : DecidablePred Plain :=
  fun text => inferInstanceAs (Decidable (∀ c ∈ text, c.isSurrogate = false))

@[simp] theorem plain_append {text other : Text} :
    (text ++ other : Text).Plain ↔ text.Plain ∧ other.Plain :=
  List.forall_mem_append

theorem plain_ofChars (cs : List Char) : (ofChars cs).Plain := by
  intro c member
  obtain ⟨_, _, rfl⟩ := List.mem_map.mp member
  rfl

@[simp] theorem plain_ofString (s : String) : (ofString s).Plain :=
  plain_ofChars s.toList

theorem plain_joined {separator : Text} (plain : separator.Plain) {parts : List Text} :
    (joined separator parts).Plain ↔ ∀ part ∈ parts, part.Plain := by
  cases parts with
  | nil => exact ⟨fun _ => nofun, fun _ => nofun⟩
  | cons first others =>
    rw [joined_cons, plain_append, List.forall_mem_cons]
    refine and_congr_right fun _ => ?_
    induction others with
    | nil => exact ⟨fun _ => nofun, fun _ => nofun⟩
    | cons other others ih => simp [plain, ih]

theorem Utf8.charsFrom_of_plain {text : Text} (plain : text.Plain) (position : Nat) :
    ∃ chars, charsFrom position text = .ok chars ∧ ofChars chars = text := by
  induction text generalizing position with
  | nil => exact ⟨[], rfl, rfl⟩
  | cons c text ih =>
    cases c with
    | char c =>
      obtain ⟨chars, read, same⟩ := ih (fun c member => plain c (.tail _ member)) (position + 1)
      refine ⟨c :: chars, ?_, by rw [← same]; rfl⟩
      rw [charsFrom, read]
      rfl
    | surrogate half => cases plain _ List.mem_cons_self

theorem Utf8.toFile_of_plain {text : Text} (plain : text.Plain) :
    ∃ content, toFile text = .ok content ∧ ofString content = text := by
  obtain ⟨chars, read, same⟩ := charsFrom_of_plain plain 0
  refine ⟨String.ofList chars, ?_, ?_⟩
  · rw [toFile, read]
    rfl
  · rw [ofString, String.toList_ofList, same]

theorem Utf8.charsFrom_ne_ok {text : Text} (halves : ¬ text.Plain) (position : Nat)
    (chars : List Char) : charsFrom position text ≠ .ok chars := by
  induction text generalizing position chars with
  | nil => exact absurd nofun halves
  | cons c text ih =>
    cases c with
    | char c =>
      intro read
      obtain ⟨rest, reading, _⟩ := Outcome.map_eq_ok.mp read
      exact ih (fun plain => halves (List.forall_mem_cons.mpr ⟨rfl, plain⟩)) _ rest reading
    | surrogate half => exact nofun

theorem Utf8.exists_gap {text : Text} (halves : ¬ text.Plain) : ∃ gap, toFile text = .error gap := by
  cases encoded : toFile text with
  | error gap => exact ⟨gap, rfl⟩
  | ok content =>
    obtain ⟨chars, read, _⟩ := Outcome.map_eq_ok.mp encoded
    exact absurd read (charsFrom_ne_ok halves 0 chars)

end Text

/-- The console takes plain texts, and any text if it keeps them as they are. -/
theorem Console.gap_eq_none {console : Console} {text : Text} :
    console.gap? text = none ↔ console = .keeping ∨ text.Plain := by
  cases console with
  | keeping => exact ⟨fun _ => .inl rfl, fun _ => rfl⟩
  | encoding =>
    by_cases plain : text.Plain
    · obtain ⟨content, encoded, _⟩ := Text.Utf8.toFile_of_plain plain
      simp [gap?, encoded, plain]
    · obtain ⟨gap, encoded⟩ := Text.Utf8.exists_gap plain
      simp [gap?, encoded, plain]

/-! ## Files -/

/-- What is at a location after a text was added to the file there; a directory stays. -/
def Entry.withText : Option Entry → String → Option Entry
  | none, text => some (.file (.text text))
  | some .directory, _ => some .directory
  | some (.file content), text => some (.file (content.append text))

namespace FileTree

theorem lookup_putIn (location other : Location) (entry : Entry)
    (entries : List (Location × Entry)) :
    (putIn location entry entries).lookup other =
      if other = location then some entry else entries.lookup other := by
  induction entries with
  | nil =>
    by_cases same : other = location
    · simp [putIn, same]
    · simp [putIn, List.lookup_cons, same, beq_eq_false_iff_ne.mpr same]
  | cons head entries ih =>
    obtain ⟨place, there⟩ := head
    rw [putIn]
    by_cases found : place = location
    · subst found
      by_cases same : other = place
      · simp [same]
      · simp [List.lookup_cons, same, beq_eq_false_iff_ne.mpr same]
    · by_cases here : other = place
      · subst here
        simp [found]
      · simp [List.lookup_cons, found, beq_eq_false_iff_ne.mpr here, ih]

/-- The root stays a directory; everywhere else the new entry is found. -/
theorem entry_put (tree : FileTree) {location other : Location} (entry : Entry) :
    FileTree.entry? (tree.put location entry) other =
      if other = location ∧ other ≠ [] then some entry else tree.entry? other := by
  cases other with
  | nil => simp [ entry?]
  | cons name names => simp [ entry?, put, lookup_putIn]

/-- Adding a text to a file leaves all other locations alone. -/
theorem entry_append {tree after : FileTree} {place location : Location} {text : String}
    (appended : tree.append place text = .ok after) (other : location ≠ place) :
    after.entry? location = tree.entry? location := by
  have kept (entry : Entry) :
      FileTree.entry? (tree.put place entry) location = tree.entry? location := by
    rw [entry_put, if_neg fun here => other here.1]
  unfold append at appended
  split at appended
  · cases appended
  · cases appended
    exact kept _
  · cases appended
    exact kept _

/-- At the location itself the text is added, unless there is a directory. -/
theorem entry_append_self (tree : FileTree) (location : Location) (text : String) :
    FileTree.entry? ((tree.append location text).toOption.getD tree) location =
      Entry.withText (tree.entry? location) text := by
  have put (entry : Entry) (free : tree.entry? location ≠ some .directory) :
      FileTree.entry? (tree.put location entry) location = some entry := by
    have below : location ≠ [] := by
      rintro rfl
      exact free rfl
    rw [entry_put, if_pos ⟨rfl, below⟩]
  cases there : tree.entry? location with
  | none =>
    rw [append, there]
    exact put _ (by simp [there])
  | some entry =>
    cases entry with
    | directory =>
      rw [append, there]
      exact there
    | file content =>
      rw [append, there]
      exact put _ (by simp [there])

theorem read_put {tree : FileTree} {location : Location}
    (free : tree.entry? location ≠ some .directory) (content : Content) :
    (tree.put location (.file content)).read location = .ok content := by
  have below : location ≠ [] := by
    rintro rfl
    exact free rfl
  rw [read, entry_put, if_pos ⟨rfl, below⟩]

/-- Directories are in the same places. -/
def SameDirectories (tree after : FileTree) : Prop :=
  ∀ location, after.entry? location = some .directory ↔ tree.entry? location = some .directory

theorem SameDirectories.trans {tree middle after : FileTree} (first : tree.SameDirectories middle)
    (second : middle.SameDirectories after) : tree.SameDirectories after :=
  fun location => (second location).trans (first location)

/-- A file takes the place of a file, or of nothing. -/
theorem sameDirectories_put {tree : FileTree} {location : Location}
    (free : tree.entry? location ≠ some .directory) (content : Content) :
    tree.SameDirectories (tree.put location (.file content)) := by
  intro other
  rw [entry_put]
  split
  · next here =>
    rw [here.1]
    exact ⟨nofun, fun there => absurd there free⟩
  · rfl

theorem sameDirectories_append {tree after : FileTree} {location : Location} {text : String}
    (appended : tree.append location text = .ok after) : tree.SameDirectories after := by
  unfold append at appended
  split at appended
  · cases appended
  · next content there =>
    cases appended
    exact sameDirectories_put (by simp [there]) _
  · next nothing =>
    cases appended
    exact sameDirectories_put (by simp [nothing]) _

/-- Where names lead depends on directories only. -/
theorem walk_of_sameDirectories {tree after : FileTree} (same : tree.SameDirectories after)
    {here location : Location} {names : List Text} (found : tree.walk here names = .ok location) :
    after.walk here names = .ok location := by
  induction names generalizing here with
  | nil => exact found
  | cons name names ih =>
    rw [walk] at found ⊢
    cases entry : tree.entry? here with
    | none => simp [entry] at found
    | some kind =>
      cases kind with
      | file content => simp [entry] at found
      | directory =>
        rw [entry] at found
        rw [(same here).mpr entry]
        simp only at found ⊢
        split at found
        · next dot =>
          rw [if_pos dot]
          exact ih found
        · next noDot =>
          rw [if_neg noDot]
          split at found
          · next dots =>
            rw [if_pos dots]
            exact ih found
          · next noDots =>
            rw [if_neg noDots]
            split at found
            · cases found
            · next short =>
              rw [if_neg short]
              exact ih found

end FileTree

/-! ## Records -/

namespace Log.Setup

/-- The report about a record whose line the file of the log cannot hold. There is none without a file. -/
def report (setup : Setup) (clock : Text) (origins : Record → Origin) (record : Record) : Text :=
  match setup.file, Text.Utf8.toFile (record.line clock) with
  | some _, .error gap => record.report (origins record) gap
  | _, _ => []

/-- What the stream for errors shows of records: the lines of those that are written, and the reports about
them. -/
def shown (setup : Setup) (clock : Text) (origins : Record → Origin) (records : List Record) : Text :=
  (records.filter setup.accepts).flatMap fun record => record.line clock ++ setup.report clock origins record

theorem report_of_plain {setup : Setup} {clock : Text} {record : Record}
    (plain : setup.file = none ∨ (record.line clock).Plain) (origins : Record → Origin) :
    setup.report clock origins record = [] := by
  rcases plain with console | plain
  · rw [report, console]
  · obtain ⟨content, encoded, _⟩ := Text.Utf8.toFile_of_plain plain
    rw [report, encoded]
    cases setup.file <;> rfl

/-- The lines of the records that are written and that a file can hold. -/
def fileLines (setup : Setup) (clock : Text) (records : List Record) : List String :=
  (records.filter setup.accepts).filterMap fun record => (Text.Utf8.toFile (record.line clock)).toOption

theorem shown_append (setup : Setup) (clock : Text) (origins : Record → Origin)
    (records later : List Record) :
    setup.shown clock origins (records ++ later) =
      setup.shown clock origins records ++ setup.shown clock origins later := by
  rw [shown, shown, shown, List.filter_append, List.flatMap_append]

end Log.Setup

namespace World

/-- The surroundings after records were written one after another. -/
def recordAll (world : World) (records : List Log.Record) : World :=
  records.foldl World.record world

theorem recordAll_append (world : World) (records others : List Log.Record) :
    world.recordAll (records ++ others) = (world.recordAll records).recordAll others :=
  List.foldl_append

/-- What the stream for errors shows of records. -/
def logged (world : World) (records : List Log.Record) : Text :=
  world.log.shown world.clock world.origins records

/-- Adding a text to a file changes nothing but the file, or reports the record and changes no file. -/
theorem addText_eq (world : World) (record : Log.Record) (place : Location) (text : Text) :
    (∃ content tree, Text.Utf8.toFile text = .ok content ∧
        (tree = world.tree ∨ world.tree.append place content = .ok tree) ∧
        world.addText record place text = { world with tree := tree }) ∨
      ∃ gap, Text.Utf8.toFile text = .error gap ∧
        world.addText record place text =
          world.printError (record.report (world.origins record) gap) := by
  cases encoded : Text.Utf8.toFile text with
  | error gap => exact .inr ⟨gap, rfl, by rw [addText, encoded]⟩
  | ok content =>
    refine .inl ⟨content, _, rfl, ?_, by rw [addText, encoded]⟩
    cases added : world.tree.append place content with
    | error fault => exact .inl rfl
    | ok tree => exact .inr rfl

/-- A record changes nothing but the stream for errors and the file of the log, and that only if the file can
take the line. -/
theorem record_eq (world : World) (record : Log.Record) :
    ∃ tree,
      (tree = world.tree ∨
        ∃ place text, world.log.file = some place ∧ world.tree.append place text = .ok tree) ∧
      world.record record =
        { world with stderr := world.stderr ++ world.logged [record], tree := tree } := by
  cases accepted : world.log.accepts record with
  | false =>
    have nothing : world.logged [record] = [] := by
      rw [logged, Log.Setup.shown, List.filter_cons_of_neg (by simp [accepted])]
      rfl
    refine ⟨world.tree, .inl rfl, ?_⟩
    rw [World.record, accepted, nothing, List.append_nil]
    rfl
  | true =>
    have line : world.logged [record] =
        record.line world.clock ++ world.log.report world.clock world.origins record := by
      rw [logged, Log.Setup.shown, List.filter_cons_of_pos accepted]
      exact List.append_nil _
    rw [line, Log.Setup.report]
    cases file : world.log.file with
    | none =>
      refine ⟨world.tree, .inl rfl, ?_⟩
      simp only [World.record, accepted, if_true, file, printError, List.append_nil]
    | some place =>
      have recorded : world.record record = (world.printError (record.line world.clock)).addText record
          place (record.line world.clock) := by
        simp only [World.record, accepted, if_true, file]
      rcases (world.printError (record.line world.clock)).addText_eq record place
        (record.line world.clock) with ⟨content, tree, encoded, written, added⟩ | ⟨gap, encoded, added⟩
      · refine ⟨tree, written.imp_right fun done => ⟨place, content, rfl, done⟩, ?_⟩
        rw [recorded, added, encoded, List.append_nil]
        rfl
      · refine ⟨world.tree, .inl rfl, ?_⟩
        rw [recorded, added, encoded, ← List.append_assoc]
        rfl

theorem lookUp_record (world : World) (record : Log.Record) (name : Text) :
    (world.record record).lookUp? name = world.lookUp? name := by
  obtain ⟨tree, _, recorded⟩ := world.record_eq record
  rw [recorded]
  rfl

theorem log_record (world : World) (record : Log.Record) : (world.record record).log = world.log := by
  obtain ⟨tree, _, recorded⟩ := world.record_eq record
  rw [recorded]

/-- A record leaves every location alone that the log does not write to. -/
theorem entry_record (world : World) (record : Log.Record) {location : Location}
    (idle : world.log.file ≠ some location) :
    (world.record record).tree.entry? location = world.tree.entry? location := by
  obtain ⟨tree, written, recorded⟩ := world.record_eq record
  rw [recorded]
  rcases written with rfl | ⟨place, text, file, appended⟩
  · rfl
  · refine FileTree.entry_append appended ?_
    rintro rfl
    exact idle file

/-- The file of the log gets the line of a record that is severe enough, if it can hold the line. -/
theorem entry_record_file (world : World) (record : Log.Record) {place : Location}
    (file : world.log.file = some place) :
    (world.record record).tree.entry? place =
      (world.log.fileLines world.clock [record]).foldl Entry.withText (world.tree.entry? place) := by
  cases accepted : world.log.accepts record with
  | false =>
    have nothing : world.log.fileLines world.clock [record] = [] := by
      rw [Log.Setup.fileLines, List.filter_cons_of_neg (by simp [accepted])]
      rfl
    rw [World.record, accepted, nothing]
    rfl
  | true =>
    rw [Log.Setup.fileLines, List.filter_cons_of_pos accepted]
    simp only [World.record, accepted, if_true, file, addText]
    cases encoded : Text.Utf8.toFile (record.line world.clock) with
    | error gap =>
      rw [List.filterMap_cons_none (by rw [encoded]; rfl)]
      rfl
    | ok line =>
      rw [List.filterMap_cons_some (by rw [encoded]; rfl)]
      exact world.tree.entry_append_self place line

theorem sameDirectories_record (world : World) (record : Log.Record) :
    world.tree.SameDirectories (world.record record).tree := by
  obtain ⟨tree, written, recorded⟩ := world.record_eq record
  rw [recorded]
  rcases written with rfl | ⟨place, text, _, appended⟩
  · exact fun _ => Iff.rfl
  · exact FileTree.sameDirectories_append appended

theorem recordAll_eq (world : World) (records : List Log.Record) :
    ∃ tree, world.tree.SameDirectories tree ∧
      world.recordAll records =
        { world with stderr := world.stderr ++ world.logged records, tree := tree } := by
  induction records generalizing world with
  | nil =>
    refine ⟨world.tree, fun _ => Iff.rfl, ?_⟩
    show world = { world with stderr := world.stderr ++ [] }
    rw [List.append_nil]
  | cons record records ih =>
    obtain ⟨middle, _, recorded⟩ := world.record_eq record
    obtain ⟨tree, rest, all⟩ := ih (world.record record)
    refine ⟨tree, (world.sameDirectories_record record).trans rest, ?_⟩
    rw [recordAll, List.foldl_cons]
    rw [recordAll] at all
    have both : world.logged (record :: records) = world.logged [record] ++ world.logged records :=
      Log.Setup.shown_append _ _ _ [record] records
    rw [all, recorded, both, ← List.append_assoc]
    rfl

/-- Without a file of the log, records change no file. -/
theorem recordAll_tree {world : World} (console : world.log.file = none) (records : List Log.Record) :
    (world.recordAll records).tree = world.tree := by
  induction records generalizing world with
  | nil => rfl
  | cons record records ih =>
    have rest := ih (world.log_record record ▸ console)
    obtain ⟨tree, written, recorded⟩ := world.record_eq record
    rw [recorded] at rest
    rw [recordAll, List.foldl_cons, recorded]
    rcases written with rfl | ⟨place, _, file, _⟩
    · exact rest
    · cases console.symm.trans file

/-- A file can be written at a path, however it is spelled, and the path leads to a location. -/
structure Writable (world : World) (path : Path) (location : Location)
    (spelling : Text := path.text) : Prop where
  valid : Action.checkPath spelling = .ok ()
  located : world.locate path = .ok location
  free : world.tree.entry? location ≠ some .directory

/-- A file can be written at the path that a text spells. -/
structure WritableAt (world : World) (spelling : Text) (location : Location) : Prop
    extends world.Writable (Path.spelled spelling) location spelling where
  file : spelling.getLast? ≠ some Path.slash

/-- Neither the working directory nor a directory of the tree has moved. -/
structure SamePlaces (world after : World) : Prop where
  directory : after.directory = world.directory
  tree : world.tree.SameDirectories after.tree

theorem SamePlaces.trans {world middle after : World} (first : world.SamePlaces middle)
    (second : middle.SamePlaces after) : world.SamePlaces after :=
  ⟨second.directory.trans first.directory, first.tree.trans second.tree⟩

/-- Nothing was put out between two moments, and what could be put out still can. -/
structure Undisturbed (world after : World) : Prop extends world.SamePlaces after where
  console : after.console = world.console
  stdout : after.stdout = world.stdout

theorem Undisturbed.refl (world : World) : world.Undisturbed world :=
  ⟨⟨rfl, fun _ => Iff.rfl⟩, rfl, rfl⟩

theorem samePlaces_record (world : World) (record : Log.Record) :
    world.SamePlaces (world.record record) := by
  refine ⟨?_, world.sameDirectories_record record⟩
  obtain ⟨tree, _, recorded⟩ := world.record_eq record
  rw [recorded]

theorem SamePlaces.locate_eq {world after : World} (same : world.SamePlaces after) {path : Path}
    {location : Location} (located : world.locate path = .ok location) :
    after.locate path = .ok location := by
  have start : after.startOf path = world.startOf path := by
    rw [startOf, startOf, same.directory]
  rw [locate, start]
  exact FileTree.walk_of_sameDirectories same.tree located

theorem Writable.of_samePlaces {world after : World} {path : Path} {location : Location}
    {spelling : Text} (writable : world.Writable path location spelling)
    (same : world.SamePlaces after) : after.Writable path location spelling where
  valid := writable.valid
  located := same.locate_eq writable.located
  free := fun there => writable.free ((same.tree location).mp there)

theorem Writable.tree_write {world : World} {path : Path} {location : Location} {spelling : Text}
    (writable : world.Writable path location spelling) (content : Content) :
    world.tree.write location content = .ok (world.tree.put location (.file content)) := by
  unfold FileTree.write
  split
  · next there => exact absurd there writable.free
  · rfl

theorem WritableAt.of_samePlaces {world after : World} {spelling : Text} {location : Location}
    (writable : world.WritableAt spelling location) (same : world.SamePlaces after) :
    after.WritableAt spelling location :=
  ⟨writable.toWritable.of_samePlaces same, writable.file⟩

/-- The path that is looked up to write at a spelling; a slash at the end asks for a directory. -/
def openedPath (spelling : Text) : Path :=
  if spelling.getLast? = some Path.slash then
    { Path.spelled spelling with names := (Path.spelled spelling).names.dropLast.concat "." }
  else Path.spelled spelling

/-- Why no file can be written at a spelling: it cannot be a path, it leads nowhere, or it leads to a
directory. -/
inductive ShutAt (world : World) (spelling : Text) : Fault → Prop
  | invalid {fault : Fault} (refused : Action.checkPath spelling = .error fault) :
      ShutAt world spelling fault
  | lost {cause : FileFault} (valid : Action.checkPath spelling = .ok ())
      (lost : world.locate (openedPath spelling) = .error cause) :
      ShutAt world spelling (.file cause spelling)
  | directory {location : Location} (valid : Action.checkPath spelling = .ok ())
      (located : world.locate (openedPath spelling) = .ok location)
      (there : spelling.getLast? = some Path.slash ∨ world.tree.entry? location = some .directory) :
      ShutAt world spelling (.file .isDirectory spelling)

/-- A file can be written at a spelling, or there is a reason why not. -/
theorem writable_or_shut (world : World) (spelling : Text) :
    (∃ location, world.WritableAt spelling location) ∨ ∃ fault, world.ShutAt spelling fault := by
  cases valid : Action.checkPath spelling with
  | error fault => exact .inr ⟨fault, .invalid valid⟩
  | ok _ =>
    cases found : world.locate (openedPath spelling) with
    | error cause => exact .inr ⟨_, .lost valid found⟩
    | ok location =>
      by_cases taken :
          spelling.getLast? = some Path.slash ∨ world.tree.entry? location = some .directory
      · exact .inr ⟨_, .directory valid found taken⟩
      · obtain ⟨file, free⟩ := not_or.mp taken
        rw [openedPath, if_neg file] at found
        exact .inl ⟨location, ⟨valid, found, free⟩, file⟩

end World

/-! ## Actions -/

namespace Action

variable {α β : Type}

theorem bind_of_ok {action : Action α} {next : α → Action β} {a : α} {world after : World}
    (done : action world = (.ok a, after)) : (action >>= next) world = next a after := by
  change Action.bind action next world = next a after
  rw [Action.bind, done]

theorem bind_of_error {action : Action α} {next : α → Action β} {fault : Fault} {world after : World}
    (failed : action world = (.error fault, after)) :
    (action >>= next) world = (.error fault, after) := by
  change Action.bind action next world = (.error fault, after)
  rw [Action.bind, failed]

theorem bind_eq_ok {action : Action α} {next : α → Action β} {b : β} {world after : World} :
    (action >>= next) world = (.ok b, after) ↔
      ∃ a middle, action world = (.ok a, middle) ∧ next a middle = (.ok b, after) := by
  constructor
  · intro done
    change Action.bind action next world = (.ok b, after) at done
    rw [Action.bind] at done
    split at done
    · next a middle first => exact ⟨a, middle, first, done⟩
    · cases done
  · rintro ⟨a, middle, first, second⟩
    rw [bind_of_ok first, second]

theorem view_bind (f : World → α) (next : α → Action β) (world : World) :
    (view f >>= next) world = next (f world) world := rfl

theorem update_bind (f : World → World) (next : Unit → Action β) (world : World) :
    (update f >>= next) world = next () (f world) := rfl

/-- A change at the end has no part in how an action ends. -/
theorem outcome_bind_update (action : Action α) (f : α → World → World) (world : World) :
    ((action >>= fun a => update (f a)) world).1 = (action world).1.map fun _ => () := by
  cases done : action world with
  | mk outcome after =>
    cases outcome with
    | ok a => rw [bind_of_ok done]; rfl
    | error fault => rw [bind_of_error done]; rfl

theorem ofExcept_eq_ok {outcome : Except Fault α} {a : α} {world after : World} :
    ofExcept outcome world = (.ok a, after) ↔ outcome = .ok a ∧ after = world := by
  cases outcome <;> simp [ofExcept, Except.mapError, eq_comm]

theorem print_of_free {text : Text} {world : World} (free : world.console.gap? text = none) :
    print text world = (.ok (), { world with stdout := world.stdout ++ text }) := by
  rw [print, World.print, free]

theorem print_of_gap {text : Text} {gap : Text.Utf8.Unencodable} {world : World}
    (refused : world.console.gap? text = some gap) :
    print text world = (.error (.unencodable gap), world) := by
  rw [print, World.print, refused]

/-- An action changes nothing but what records change. -/
def Records (action : Action α) : Prop :=
  ∀ world, ∃ records, (action world).2 = world.recordAll records

/-- An action that leaves everything as it is records nothing. -/
theorem records_of_same {action : Action α} (same : ∀ world, (action world).2 = world) :
    action.Records :=
  fun world => ⟨[], same world⟩

theorem records_record (record : Log.Record) : (Action.record record).Records :=
  fun _ => ⟨[record], rfl⟩

theorem Records.bind {action : Action α} {next : α → Action β} (first : action.Records)
    (rest : ∀ a, (next a).Records) : (action >>= next).Records := by
  intro world
  change ∃ records, (Action.bind action next world).2 = world.recordAll records
  obtain ⟨earlier, before⟩ := first world
  rw [Action.bind]
  split
  · next a middle done =>
    rw [done] at before
    simp only at before
    obtain ⟨later, after⟩ := rest a middle
    exact ⟨earlier ++ later, by rw [after, before, World.recordAll_append]⟩
  · next fault middle done =>
    rw [done] at before
    exact ⟨earlier, before⟩

/-- Looking for an entry leaves everything as it is. -/
theorem hasEntry_world (path : Path) (world : World) : (hasEntry path world).2 = world := by
  rw [hasEntry]
  split <;> rfl

theorem records_hasEntry (path : Path) : (hasEntry path).Records :=
  records_of_same (hasEntry_world path)

/-- Reading leaves everything as it is. -/
theorem read_world (path : Path) (world : World) : (read path world).2 = world := by
  rw [read, onFiles]
  split
  · rfl
  · next content tree _ done =>
    obtain ⟨location, _, done⟩ := Outcome.bind_eq_ok.mp done
    obtain ⟨content, _, done⟩ := Outcome.bind_eq_ok.mp done
    cases done
    rfl
  · rfl

theorem onFiles_eq_ok {spelling : Text} {operation : World → Except FileFault (α × FileTree)} {a : α}
    {world after : World} :
    onFiles spelling operation world = (.ok a, after) ↔
      checkPath spelling = .ok () ∧
        ∃ tree, operation world = .ok (a, tree) ∧ after = { world with tree := tree } := by
  rw [onFiles]
  split
  · next fault failed => simp [failed]
  · next result tree valid done =>
    simp only [Prod.mk.injEq, Except.ok.injEq, valid, done, true_and]
    constructor
    · rintro ⟨rfl, rfl⟩
      exact ⟨tree, ⟨rfl, rfl⟩, rfl⟩
    · rintro ⟨_, ⟨rfl, rfl⟩, rfl⟩
      exact ⟨rfl, rfl⟩
  · next cause valid failed => simp [failed]

/-- An operation on files that fails changes nothing. -/
theorem onFiles_of_error {spelling : Text} {operation : World → Except FileFault (α × FileTree)}
    {cause : FileFault} {world : World} (valid : checkPath spelling = .ok ())
    (failed : operation world = .error cause) :
    onFiles spelling operation world = (.error (.file cause spelling), world) := by
  rw [onFiles, valid, failed]

end Action

namespace World

variable {world after : World} {path : Path} {location : Location} {content : Content}

theorem Writable.hasEntry_eq (writable : world.Writable path location) :
    Action.hasEntry path world = (.ok (world.tree.entry? location).isSome, world) := by
  rw [Action.hasEntry, writable.valid]
  simp only
  rw [World.hasEntry, writable.located]

/-- A file that was read is there, and can be written. -/
theorem exists_writable (held : Action.read path world = (.ok content, after)) :
    ∃ location, world.Writable path location ∧
      world.tree.entry? location = some (.file content) := by
  obtain ⟨valid, tree, done, _⟩ := Action.onFiles_eq_ok.mp held
  obtain ⟨location, located, done⟩ := Outcome.bind_eq_ok.mp done
  obtain ⟨found, read, done⟩ := Outcome.bind_eq_ok.mp done
  cases done
  have there : world.tree.entry? location = some (.file content) := by
    rw [FileTree.read] at read
    split at read
    · cases read
    · cases read
    · next entry =>
      cases read
      exact entry
  exact ⟨location, ⟨valid, located, by simp [there]⟩, there⟩

theorem hasEntry_of_read (held : Action.read path world = (.ok content, after)) :
    Action.hasEntry path world = (.ok true, world) := by
  obtain ⟨location, writable, there⟩ := exists_writable held
  rw [writable.hasEntry_eq, there]
  rfl

end World

namespace Action

variable {α β : Type}

/-- A text that a file can hold becomes all that it holds. -/
theorem writeSpelled_of_writable {world : World} {spelling text : Text} {location : Location}
    {content : String} (writable : world.WritableAt spelling location)
    (encoded : Text.Utf8.toFile text = .ok content) :
    writeSpelled spelling text world =
      (.ok (), { world with tree := world.tree.put location (.file (.text content)) }) := by
  rw [writeSpelled, encoded]
  refine onFiles_eq_ok.mpr ⟨writable.valid, _, ?_, rfl⟩
  simp only [writable.file, beq_iff_eq, if_false, writable.located, Outcome.ok_bind,
    writable.tree_write]
  rfl

theorem writeSpelled_eq {world : World} {spelling text : Text} {location : Location}
    (writable : world.WritableAt spelling location) (plain : text.Plain) :
    ∃ content, Text.ofString content = text ∧
      writeSpelled spelling text world =
        (.ok (), { world with tree := world.tree.put location (.file (.text content)) }) := by
  obtain ⟨content, encoded, same⟩ := Text.Utf8.toFile_of_plain plain
  exact ⟨content, same, writeSpelled_of_writable writable encoded⟩

/-- A text that no file can hold empties the file, and is a fault after that. -/
theorem writeSpelled_of_gap {spelling text : Text} {gap : Text.Utf8.Unencodable}
    (encoded : Text.Utf8.toFile text = .error gap) :
    writeSpelled spelling text =
      (do writeSpelled spelling []; Action.fail (.unencodable gap)) := by
  unfold writeSpelled
  rw [encoded]
  rfl

/-- Where no file can be written, nothing is, whatever the text. -/
theorem writeSpelled_of_shut {world : World} {spelling : Text} {fault : Fault}
    (shut : world.ShutAt spelling fault) (text : Text) :
    writeSpelled spelling text world = (.error fault, world) := by
  have stuck (text : Text) (content : String) (encoded : Text.Utf8.toFile text = .ok content) :
      writeSpelled spelling text world = (.error fault, world) := by
    unfold writeSpelled
    rw [encoded]
    cases shut with
    | invalid refused => simp only [onFiles, refused]
    | @lost cause valid lost =>
      refine onFiles_of_error valid ?_
      by_cases slash : spelling.getLast? = some Path.slash
      · rw [World.openedPath, if_pos slash] at lost
        simp only [slash, beq_self_eq_true, if_true, lost]
        rfl
      · rw [World.openedPath, if_neg slash] at lost
        simp only [slash, beq_iff_eq, if_false, lost]
        rfl
    | @directory location valid located there =>
      refine onFiles_of_error valid ?_
      by_cases slash : spelling.getLast? = some Path.slash
      · rw [World.openedPath, if_pos slash] at located
        simp only [slash, beq_self_eq_true, if_true, located]
        rfl
      · rw [World.openedPath, if_neg slash] at located
        simp only [slash, beq_iff_eq, if_false, located, Outcome.ok_bind, FileTree.write,
          there.resolve_left slash]
        rfl
  cases encoded : Text.Utf8.toFile text with
  | ok content => exact stuck text content encoded
  | error gap =>
    rw [writeSpelled_of_gap encoded]
    exact bind_of_error (stuck [] "" rfl)

/-- An operation on files that fails changes nothing. -/
theorem onFiles_eq_error {spelling : Text} {operation : World → Except FileFault (α × FileTree)}
    {fault : Fault} {world after : World}
    (failed : onFiles spelling operation world = (.error fault, after)) : after = world := by
  rw [onFiles] at failed
  split at failed
  · cases failed
    rfl
  · cases failed
  · cases failed
    rfl

theorem touch_eq_ok {path : Path} {world after : World} :
    touch path world = (.ok (), after) ↔
      checkPath path.text = .ok () ∧ ∃ location tree, world.locate path = .ok location ∧
        world.tree.append location "" = .ok tree ∧ after = { world with tree := tree } := by
  rw [touch, onFiles_eq_ok]
  refine and_congr_right fun _ => ?_
  constructor
  · rintro ⟨tree, done, rfl⟩
    obtain ⟨location, located, done⟩ := Outcome.bind_eq_ok.mp done
    obtain ⟨_, added, done⟩ := Outcome.bind_eq_ok.mp done
    cases done
    exact ⟨location, tree, located, added, rfl⟩
  · rintro ⟨location, tree, located, added, rfl⟩
    refine ⟨tree, ?_, rfl⟩
    rw [located, Outcome.ok_bind, added]
    rfl

theorem mapFault_of_ok {action : Action α} {f : Fault → Fault} {a : α} {world after : World}
    (done : action world = (.ok a, after)) : mapFault f action world = (.ok a, after) := by
  rw [mapFault, done]
  rfl

theorem mapFault_of_error {action : Action α} {f : Fault → Fault} {fault : Fault} {world after : World}
    (failed : action world = (.error fault, after)) :
    mapFault f action world = (.error (f fault), after) := by
  rw [mapFault, failed]
  rfl

/-- An operation that does not look at the log ends in the same way however it is set up. -/
theorem onFiles_log {spelling : Text} {operation : World → Except FileFault (α × FileTree)}
    {world : World} {log : Log.Setup} (same : operation { world with log := log } = operation world) :
    onFiles spelling operation { world with log := log } =
      ((onFiles spelling operation world).1,
        { (onFiles spelling operation world).2 with log := log }) := by
  rw [onFiles, onFiles, same]
  cases checkPath spelling with
  | error fault => rfl
  | ok _ =>
    cases operation world with
    | error cause => rfl
    | ok done => rfl

/-! ## The file of the log -/

/-- The ways in which the file of the log is opened, or not. -/
inductive Opens (file : LogFile) (world : World) : Except Fault (Option Location) × World → Prop
  | absent (absent : file.isGiven = false) : Opens file world (.ok none, world)
  | file {name : FileName} {location : Location} {tree : FileTree} (given : file.isGiven = true)
      (named : file.name = .ok name)
      (valid : checkPath (world.absolute name.toText).text = .ok ())
      (located : world.locate (world.absolute name.toText) = .ok location)
      (added : world.tree.append location "" = .ok tree) :
      Opens file world (.ok (some (world.absolute name.toText).names), { world with tree := tree })
  | nameless {fault : Fault} (given : file.isGiven = true) (unnamed : file.name = .error fault) :
      Opens file world (.error fault.reported, world)
  | shut {name : FileName} {fault : Fault} (given : file.isGiven = true) (named : file.name = .ok name)
      (failed : touch (world.absolute name.toText) world = (.error fault, world)) :
      Opens file world (.error (name.spell fault), world)

theorem openLog_of_name {file : LogFile} {name : FileName} (given : file.isGiven = true)
    (named : file.name = .ok name) (world : World) :
    openLog file world = (mapFault name.spell (touch (world.absolute name.toText)) >>= fun _ =>
      pure (some (world.absolute name.toText).names)) world := by
  rw [openLog, if_pos given, named, bind_of_ok (ofExcept_eq_ok.mpr ⟨rfl, rfl⟩), view_bind]

theorem openLog_opens (file : LogFile) (world : World) : Opens file world (openLog file world) := by
  cases given : file.isGiven with
  | false =>
    rw [openLog, given]
    exact .absent given
  | true =>
    cases named : file.name with
    | error fault =>
      rw [openLog, given, named]
      exact .nameless given named
    | ok name =>
      rw [openLog_of_name given named]
      cases touched : touch (world.absolute name.toText) world with
      | mk outcome after =>
        cases outcome with
        | error fault =>
          obtain rfl := onFiles_eq_error touched
          rw [bind_of_error (mapFault_of_error touched)]
          exact .shut given named touched
        | ok _ =>
          obtain ⟨valid, location, tree, located, added, rfl⟩ := touch_eq_ok.mp touched
          rw [bind_of_ok (mapFault_of_ok touched)]
          exact .file given named valid located added

theorem openLog_of_located {file : LogFile} {name : FileName} {location : Location} {tree : FileTree}
    {world : World} (given : file.isGiven = true) (named : file.name = .ok name)
    (valid : checkPath (world.absolute name.toText).text = .ok ())
    (located : world.locate (world.absolute name.toText) = .ok location)
    (added : world.tree.append location "" = .ok tree) :
    openLog file world =
      (.ok (some (world.absolute name.toText).names), { world with tree := tree }) := by
  have touched := touch_eq_ok.mpr ⟨valid, location, tree, located, added, rfl⟩
  rw [openLog_of_name given named, bind_of_ok (mapFault_of_ok touched)]
  rfl

/-- A file that cannot be opened leaves everything as it was. -/
theorem openLog_eq_error {file : LogFile} {fault : Fault} {world after : World}
    (failed : openLog file world = (.error fault, after)) : after = world := by
  have opens := openLog_opens file world
  rw [failed] at opens
  cases opens with
  | nameless _ _ => rfl
  | shut _ _ _ => rfl

/-- Opening a file does not depend on how the log is set up. -/
theorem openLog_log (file : LogFile) (world : World) (log : Log.Setup) :
    openLog file { world with log := log } =
      ((openLog file world).1, { (openLog file world).2 with log := log }) := by
  have opens := openLog_opens file world
  generalize openLog file world = result at opens
  cases opens with
  | absent absent =>
    rw [openLog, absent]
    rfl
  | file given named valid located added =>
    exact @openLog_of_located _ _ _ _ { world with log := log } given named valid located added
  | nameless given unnamed =>
    rw [openLog, given, unnamed]
    rfl
  | @shut name fault given named failed =>
    have moved : touch (world.absolute name.toText) { world with log := log } =
        (.error fault, { world with log := log }) := by
      rw [touch, onFiles_log rfl, ← touch, failed]
    rw [openLog_of_name given named]
    exact bind_of_error (mapFault_of_error moved)

/-- Opening a file moves no directory, and changes nothing but files. -/
theorem Opens.frame {file : LogFile} {world : World} {result : Except Fault (Option Location) × World}
    (opens : Opens file world result) :
    world.tree.SameDirectories result.2.tree ∧ result.2 = { world with tree := result.2.tree } := by
  cases opens with
  | file _ _ _ _ added => exact ⟨FileTree.sameDirectories_append added, rfl⟩
  | _ => exact ⟨fun _ => Iff.rfl, rfl⟩

/-- Setting up logging changes the log, which is then at the level that was given, and creates its file at
most. There is none if none was given. -/
theorem setUpLogging_eq_ok {level : Value} {file : LogFile} {world after : World}
    (done : setUpLogging level file world = (.ok (), after)) :
    ∃ tree log, world.tree.SameDirectories tree ∧
      Log.levelOfValue ((world.lookUp? "ENUMERANT_LOG_LEVEL").getD "INFO") level.content =
        .ok log.level ∧
      (file.isGiven = false → log.file = none) ∧
      after = { world with tree := tree, log := log } := by
  rw [setUpLogging, view_bind, bind_eq_ok] at done
  obtain ⟨number, start, accepted, done⟩ := done
  obtain ⟨known, rfl⟩ := ofExcept_eq_ok.mp accepted
  rw [update_bind, bind_eq_ok] at done
  obtain ⟨place, opened, done, updated⟩ := done
  cases updated
  have opens := openLog_opens file { start with log := ⟨number, none⟩ }
  rw [done] at opens
  obtain ⟨same, others⟩ := opens.frame
  refine ⟨opened.tree, ⟨number, place⟩, same, known, fun absent => ?_, ?_⟩
  · cases opens with
    | absent _ => rfl
    | file given _ _ _ _ => cases absent.symm.trans given
  · simp only at others
    rw [others]

end Action

end VariantIter
