import VariantIter.Command
import VariantIter.Proofs.Attribution
import VariantIter.Proofs.Batch
import VariantIter.Proofs.Configuration

/-!
What the command puts out.

Once settings are loaded, logging is set up and descriptors are decoded, nothing that happens afterwards
depends on more than the descriptors and the settings. Main statement: the command puts out the blocks of
all sum types in order, one blank line between them, and complains about every other type on a line of
its own. A run that stops at failures complains about the first such type only, and puts out nothing.

Neither a file nor a console that encodes can take halves of surrogate pairs. A type may have them in the text of
a field type, and its block can then not be put out.
-/

namespace VariantIter

/-! ## Listings -/

/-- A text is a block with any number of line feeds after it. -/
structure Text.Ends (text block : Text) : Prop where
  feeds : ∃ count, text = block ++ List.replicate count (.char '\n')
  bare : block.getLast? ≠ some (.char '\n')

theorem Text.ends_withoutLineEnd (text : Text) : text.Ends (Batch.withoutLineEnd text) := by
  constructor
  · refine ⟨(text.reverse.takeWhile (· == .char '\n')).length, ?_⟩
    have feeds : text.reverse.takeWhile (· == .char '\n') =
        List.replicate (text.reverse.takeWhile (· == .char '\n')).length (.char '\n') :=
      List.eq_replicate_of_mem fun c member => by simpa using List.mem_takeWhile_imp member
    rw [← List.reverse_inj, List.reverse_append, List.reverse_replicate, ← feeds,
      Batch.withoutLineEnd, Text.dropRight, List.reverse_reverse, List.takeWhile_append_dropWhile]
  · rw [Batch.withoutLineEnd, Text.dropRight, List.getLast?_reverse]
    intro last
    have kept := List.head?_dropWhile_not (· == CodePoint.char '\n') text.reverse
    rw [last] at kept
    cases kept

theorem Text.Ends.plain_iff {text block : Text} (ends : text.Ends block) :
    text.Plain ↔ block.Plain := by
  obtain ⟨count, rfl⟩ := ends.feeds
  have feeds : Text.Plain (List.replicate count (.char '\n')) := fun c member => by
    rw [List.eq_of_mem_replicate member]
    rfl
  simp [feeds]

/-- Blocks with a blank line between them and a line feed at the end; nothing if there are none. -/
def Batch.listing : List Text → Text
  | [] => []
  | blocks => Text.joined "\n\n" blocks ++ "\n"

theorem Batch.plain_listing {blocks : List Text} :
    (listing blocks).Plain ↔ ∀ block ∈ blocks, block.Plain := by
  cases blocks with
  | nil => exact ⟨fun _ => nofun, fun _ => nofun⟩
  | cons block blocks =>
    rw [listing, Text.plain_append, Text.plain_joined (Text.plain_ofString _)]
    · exact and_iff_left (Text.plain_ofString _)
    · exact nofun

theorem Batch.render_eq (batch : Batch) :
    batch.render separator = listing (batch.outputs.map fun output => withoutLineEnd output.text) := by
  unfold render
  cases batch.outputs <;> rfl

/-- The block of a sum type: what is generated and printed for it on its own, without line feeds at the
end. -/
def Descriptor.HasBlock (generator : Generator) (dialect : Dialect) (descriptor : Descriptor)
    (block : Text) : Prop :=
  ∃ f text, (generator.generate descriptor).outcome = .ok f ∧
    ((Printer.ofDialect dialect).render f).outcome = .ok text ∧ text.Ends block

theorem Descriptor.HasBlock.plain_iff {generator : Generator} {dialect : Dialect}
    {descriptor : Descriptor} {block : Text} (has : descriptor.HasBlock generator dialect block)
    {f : Fragment} (generated : (generator.generate descriptor).outcome = .ok f)
    (showable : f.isShowable = true) :
    block.Plain ↔ (f.code dialect f.capability.display).Plain := by
  obtain ⟨_, text, again, printed, ends⟩ := has
  cases again.symm.trans generated
  rw [Printer.render_outcome, Printer.layOut_ofDialect, if_pos showable] at printed
  cases printed
  exact ends.plain_iff.symm

theorem Batch.Divides.blocks {generator : Generator} {dialect : Dialect}
    {descriptors : List Descriptor} {batch : Batch}
    (divides : batch.Divides generator (.ofDialect dialect) descriptors) :
    List.Forall₂ (Descriptor.HasBlock generator dialect)
      (descriptors.filter fun descriptor => descriptor.kind = .sum)
      (batch.outputs.map fun output => withoutLineEnd output.text) := by
  rw [List.forall₂_map_right_iff]
  exact divides.outputs.imp fun descriptor output isOf =>
    ⟨output.fragment, output.text, isOf.generated, (Printer.render_outcome _ _).trans isOf.printed,
      Text.ends_withoutLineEnd _⟩

/-! ## Decoded types -/

theorem Descriptor.wellFormed_of_decodeDocument {document : Value} {descriptors : List Descriptor}
    (decoded : decodeDocument document = .ok descriptors) {descriptor : Descriptor}
    (member : descriptor ∈ descriptors) : descriptor.WellFormed := by
  cases found : entries? document with
  | none =>
    obtain ⟨fault, failed, _⟩ := decodeDocument_without_entries found
    rw [failed] at decoded
    cases decoded
  | some entries =>
    rw [decodeDocument_of_entries found, Outcome.mapM_eq_ok] at decoded
    obtain ⟨entry, _, each⟩ := Outcome.exists_of_mem_right decoded member
    exact wellFormed_of_decode each

theorem Descriptor.WellFormed.shaped {descriptor : Descriptor} (wellFormed : descriptor.WellFormed) :
    ∀ variant ∈ descriptor.variants, ∃ shape, variant.payload.classify = .ok shape := by
  intro variant member
  have payload := (wellFormed.variants variant member).payload
  cases given : variant.payload with
  | shape known => exact ⟨known, rfl⟩
  | foreign value =>
    rw [given] at payload
    cases payload

/-- The options of settings are texts, and the field types of decoded types are references. -/
theorem Settings.canShow_of_load {path : Option Text} {settings : Settings} {world after : World}
    (loaded : load path world = (.ok settings, after)) {generator : Generator}
    (made : Generator.make settings.generation none = .ok generator) {descriptor : Descriptor}
    (wellFormed : descriptor.WellFormed) : generator.CanShow descriptor := by
  obtain ⟨capability, named⟩ := capability_of_load loaded
  refine ⟨?_, fun _ => wellFormed.isShowable⟩
  rw [Generator.make_capability made, named]
  rfl

/-! ## Inputs -/

/-- Surroundings with one file. -/
def World.holding (document : String) : World where
  tree := ⟨[(["types.json"], .file (.text document))]⟩
  clock := "12:00:00"

/-- The settings where none are given. -/
def Settings.unset : Settings where
  file := ⟨[Path.slash], [lastFileName]⟩

/-- A type with one variant. -/
def Descriptor.flag : Descriptor where
  name := "Flag"
  variants := [⟨"On", .shape .none⟩]

/-- A type with half of a surrogate pair in a field type. -/
def Descriptor.halfPair : Descriptor where
  name := "Pair"
  variants := [⟨"Half", .shape (.positional [.ref [.surrogate 0]])⟩]

/-- The document of a type and a record. -/
def Document.flagAndPoint : String :=
  "[\x7b\"name\": \"Flag\", \"variants\": [\"On\"]\x7d, \x7b\"name\": \"Point\", \"kind\": \"record\"\x7d]"

/-- The document of a type that no file can hold the block of. -/
def Document.onlyHalfPair : String :=
  "\x7b\"name\": \"Pair\", \"variants\": [\x7b\"name\": \"Half\", \"positional\": [\"\\ud800\"]\x7d]\x7d"

namespace Command

variable {words : List Text} {world ready : World} {arguments : Arguments} {settings : Settings}
  {descriptors : List Descriptor}

/-! ## Up to the run -/

/-- All that has to go well before the run: the words are understood, settings are loaded, logging is set
up, and the descriptors are read and decoded. -/
structure Prepared (words : List Text) (world : World) (arguments : Arguments) (settings : Settings)
    (ready : World) (descriptors : List Descriptor) : Prop where
  parsed : Arguments.parse words = .ok arguments
  settled : ∃ configured, Settings.load arguments.config world = (.ok settings, configured) ∧
    Action.setUpLogging (logLevel arguments settings) (logFile settings) configured = (.ok (), ready)
  described : ∃ content document,
    (Action.read (Path.ofText arguments.descriptors) ready).1 = .ok content ∧
    Descriptor.readDocument (Path.ofText arguments.descriptors) content = .ok document ∧
    Descriptor.decodeDocument document = .ok descriptors

/-- The pipeline of a command: its target comes from the arguments or from the settings. -/
def pipeline (arguments : Arguments) (generator : Generator) : Pipeline :=
  ⟨generator, .ofDialect (arguments.target.getD generator.recipe.target), arguments.failFast⟩

section Shaped

variable (generator : Generator)
  (shaped : ∀ descriptor ∈ descriptors,
    ∀ variant ∈ descriptor.variants, ∃ shape, variant.payload.classify = .ok shape)
  (canShow : ∀ descriptor ∈ descriptors, generator.CanShow descriptor)
include shaped canShow

/-- A run that meets no failure to stop at divides the types. -/
theorem pipeline_going
    (going : arguments.failFast = false ∨ ∀ descriptor ∈ descriptors, descriptor.kind = .sum) :
    ∃ batch, ((pipeline arguments generator).run descriptors).outcome = .ok batch ∧
      batch.Divides generator (.ofDialect (arguments.target.getD generator.recipe.target))
        descriptors := by
  have shows := Printer.shows_ofDialect (arguments.target.getD generator.recipe.target)
  obtain ⟨batch, returned, divides⟩ := Pipeline.run_divides shows fun descriptor member =>
    Generator.verdict_fine (shaped descriptor member) (canShow descriptor member)
  refine ⟨batch, ?_, divides⟩
  unfold pipeline
  cases stops : arguments.failFast with
  | false => exact returned
  | true =>
    have sums := going.resolve_left (by simp [stops])
    rw [Pipeline.run_failFast_eq shows, returned]
    intro descriptor member
    rw [Generator.verdict_of_canShow (shaped descriptor member) (canShow descriptor member),
      if_pos (sums descriptor member)]

/-- A run that stops at failures ends with the first type that is not a sum type. -/
theorem pipeline_stopping (stopping : arguments.failFast = true) {descriptor : Descriptor}
    (first : Outcome.First (fun descriptor => descriptor.kind ≠ .sum) descriptors descriptor) :
    ((pipeline arguments generator).run descriptors).outcome =
      .error (.rejected (generator.rejection descriptor)) := by
  have judged {item : Descriptor} (member : item ∈ descriptors) :=
    Generator.verdict_of_canShow (shaped item member) (canShow item member)
  rw [pipeline, stopping, Pipeline.run_failFast_eq_error (Printer.shows_ofDialect _)]
  refine ⟨descriptor, first.congr fun item member => ?_, .inl ⟨?_, rfl⟩⟩
  · rw [judged member]
    split
    · next isSum => simp [isSum]
    · next other => simp [other]
  · rw [judged first.mem, if_neg first.holds]

end Shaped

/-- What is recorded while types are read and generated. -/
def records (arguments : Arguments) (generator : Generator) (descriptors : List Descriptor) :
    List Log.Record :=
  Descriptor.loaded descriptors.length (Path.ofText arguments.descriptors) ::
    ((pipeline arguments generator).run descriptors).records

theorem printer_of_check {recipe : Recipe} (checked : settings.generation.check = .ok recipe)
    (arguments : Arguments) :
    Printer.ofValue (target arguments settings) =
      .ok (.ofDialect (arguments.target.getD recipe.target)) := by
  unfold target
  cases arguments.target with
  | none =>
    exact Printer.ofValue_of_checkTarget (Options.check_eq_ok.mp checked).2.2.2.2.2.2
  | some dialect => cases dialect <;> rfl

theorem Prepared.shaped (prepared : Prepared words world arguments settings ready descriptors) :
    ∀ descriptor ∈ descriptors, ∀ variant ∈ descriptor.variants,
      ∃ shape, variant.payload.classify = .ok shape := by
  obtain ⟨_, document, _, _, decoded⟩ := prepared.described
  exact fun descriptor member => (Descriptor.wellFormed_of_decodeDocument decoded member).shaped

theorem Prepared.canShow (prepared : Prepared words world arguments settings ready descriptors)
    {generator : Generator} (made : Generator.make settings.generation none = .ok generator) :
    ∀ descriptor ∈ descriptors, generator.CanShow descriptor := by
  obtain ⟨_, loaded, _⟩ := prepared.settled
  obtain ⟨_, document, _, _, decoded⟩ := prepared.described
  exact fun descriptor member => Settings.canShow_of_load loaded made
    (Descriptor.wellFormed_of_decodeDocument decoded member)

theorem Prepared.load_eq (prepared : Prepared words world arguments settings ready descriptors) :
    Descriptor.load arguments.descriptors ready =
      (.ok descriptors,
        ready.record (Descriptor.loaded descriptors.length (Path.ofText arguments.descriptors))) := by
  obtain ⟨content, document, found, parsed, decoded⟩ := prepared.described
  have read : Action.read (Path.ofText arguments.descriptors) ready = (.ok content, ready) :=
    Prod.ext found (Action.read_world _ ready)
  rw [Descriptor.load, Action.bind_of_ok read,
    Action.bind_of_ok (Action.ofExcept_eq_ok.mpr ⟨parsed, rfl⟩),
    Action.bind_of_ok (Action.ofExcept_eq_ok.mpr ⟨decoded, rfl⟩)]
  rfl

theorem Prepared.exists_generator
    (prepared : Prepared words world arguments settings ready descriptors) :
    ∃ generator, Generator.make settings.generation none = .ok generator := by
  obtain ⟨_, loaded, _⟩ := prepared.settled
  obtain ⟨recipe, checked⟩ := Settings.check_of_load loaded
  exact ⟨_, Generator.make_of_check checked⟩

/-- Everything up to the output comes down to the run of the pipeline. -/
theorem Prepared.generate_eq (prepared : Prepared words world arguments settings ready descriptors)
    {generator : Generator} (made : Generator.make settings.generation none = .ok generator) :
    generate arguments world =
      (((pipeline arguments generator).run descriptors).outcome,
        ready.recordAll (records arguments generator descriptors)) := by
  obtain ⟨configured, loaded, logging⟩ := prepared.settled
  obtain ⟨recipe, checked⟩ := Settings.check_of_load loaded
  have printer := printer_of_check checked arguments
  cases made.symm.trans (Generator.make_of_check checked)
  rw [generate, Action.bind_of_ok loaded, Action.bind_of_ok logging,
    Action.bind_of_ok (Action.ofExcept_eq_ok.mpr ⟨made, rfl⟩),
    Action.bind_of_ok (Action.ofExcept_eq_ok.mpr ⟨printer, rfl⟩),
    Action.bind_of_ok prepared.load_eq]
  rfl

/-- Up to the end of the run, nothing but the log was written. -/
theorem Prepared.surroundings (prepared : Prepared words world arguments settings ready descriptors) :
    ∃ earlier, ∀ records,
      world.Undisturbed (ready.recordAll records) ∧
      (ready.recordAll records).stderr =
        world.stderr ++ world.logged earlier ++ ready.logged records := by
  obtain ⟨configured, loaded, logging⟩ := prepared.settled
  obtain ⟨earlier, recorded⟩ := Settings.records_load arguments.config world
  rw [loaded] at recorded
  obtain ⟨first, same, afterLoading⟩ := world.recordAll_eq earlier
  obtain ⟨second, log, touched, _, _, afterSetup⟩ := Action.setUpLogging_eq_ok logging
  refine ⟨earlier, fun records => ?_⟩
  -- The tree changes in three stretches: loading, setting up the log, and the records given here.
  obtain ⟨third, kept, after⟩ := ready.recordAll_eq records
  simp only at recorded
  rw [after, afterSetup, recorded, afterLoading]
  rw [recorded, afterLoading] at touched
  rw [afterSetup] at kept
  exact ⟨⟨⟨rfl, same.trans (touched.trans kept)⟩, rfl, rfl⟩, rfl⟩

/-! ## After the run -/

/-- The output can take a text: it is the console or a file that can be written, and the text is plain. Only a
console that keeps texts as they are takes any other. -/
def CanPutOut (world : World) (out text : Text) : Prop :=
  (out = [] ∨ ∃ location, world.WritableAt out location) ∧
    (text.Plain ∨ out = [] ∧ world.console = .keeping)

/-- A text was put out: added to the console, or as all that a file holds. -/
def PutOut (world after : World) (out text : Text) : Prop :=
  if out = [] then after.stdout = world.stdout ++ text
  else after.stdout = world.stdout ∧ ∃ location content,
    world.locate (Path.spelled out) = .ok location ∧
    after.tree.read location = .ok (.text content) ∧ Text.ofString content = text

/-- The line that is written about a message. -/
def errorLine (message : Text) : Text :=
  "error: " ++ message ++ "\n"

/-- The lines that are written about failures. -/
def complaints (failures : List Failure) : Text :=
  failures.flatMap fun failure => errorLine (failure.typeName ++ ": " ++ failure.rejection.message)

/-- All types but the sum types are complained about. -/
theorem complaints_of_divides {generator : Generator} {printer : Printer} {batch : Batch}
    (divides : batch.Divides generator printer descriptors) :
    complaints batch.failures =
      (descriptors.filter fun descriptor => descriptor.kind ≠ .sum).flatMap fun descriptor =>
        errorLine (descriptor.name ++ ": " ++ (generator.rejection descriptor).message) := by
  rw [complaints, divides.failures, List.flatMap_map]
  rfl

theorem emit_eq {start : World} {text : Text} (quiet : start.Undisturbed world)
    (can : CanPutOut start (arguments.out.getD []) text) :
    ∃ after, emit arguments text world = (.ok (), after) ∧
      PutOut start after (arguments.out.getD []) text ∧ after.stderr = world.stderr := by
  obtain ⟨open_, takes⟩ := can
  unfold emit
  cases out : arguments.out.getD [] with
  | nil =>
    have free : world.console.gap? text = none := by
      rw [Console.gap_eq_none, quiet.console]
      exact takes.symm.imp_left And.right
    refine ⟨{ world with stdout := world.stdout ++ text }, Action.print_of_free free, ?_, rfl⟩
    rw [PutOut, if_pos rfl, quiet.stdout]
  | cons c rest =>
    rw [out] at open_ takes
    -- The file was writable at the start, and records since then have moved no directory.
    obtain ⟨location, writable⟩ := open_.resolve_left (List.cons_ne_nil c rest)
    have plain := takes.resolve_right fun console => List.cons_ne_nil c rest console.1
    have ready := writable.of_samePlaces quiet.toSamePlaces
    obtain ⟨content, held, written⟩ := Action.writeSpelled_eq ready plain
    refine ⟨_, written, ?_, rfl⟩
    rw [PutOut, if_neg (List.cons_ne_nil c rest)]
    exact ⟨quiet.stdout, location, content, writable.located, FileTree.read_put ready.free _, held⟩

/-- How a command ends whose output cannot take the text: the console refuses it, no file can be written there, or
one can that is not able to hold the text, and is left empty. -/
inductive Undelivered (world : World) (out text : Text) : Fault → World → Prop
  | console {gap : Text.Utf8.Unencodable} (console : out = [])
      (refused : world.console.gap? text = some gap) : Undelivered world out text (.unencodable gap) world
  | shut {fault : Fault} (file : out ≠ []) (shut : world.ShutAt out fault) :
      Undelivered world out text fault world
  | halves {location : Location} {gap : Text.Utf8.Unencodable} (file : out ≠ [])
      (writable : world.WritableAt out location) (encoded : Text.Utf8.toFile text = .error gap) :
      Undelivered world out text (.unencodable gap)
        { world with tree := world.tree.put location (.file (.text "")) }

theorem exists_undelivered {out text : Text} (cannot : ¬ CanPutOut world out text) :
    ∃ fault after, Undelivered world out text fault after := by
  by_cases console : out = []
  · cases refused : world.console.gap? text with
    | some gap => exact ⟨_, _, .console console refused⟩
    | none =>
      have takes := (Console.gap_eq_none.mp refused).symm.imp_right (And.intro console)
      exact absurd ⟨.inl console, takes⟩ cannot
  · rcases world.writable_or_shut out with ⟨location, writable⟩ | ⟨fault, shut⟩
    · obtain ⟨gap, encoded⟩ := Text.Utf8.exists_gap fun plain =>
        cannot ⟨.inr ⟨location, writable⟩, .inl plain⟩
      exact ⟨_, _, .halves console writable encoded⟩
    · exact ⟨_, _, .shut console shut⟩

theorem Undelivered.emit_eq {text : Text} {fault : Fault} {after : World}
    (undelivered : Undelivered world (arguments.out.getD []) text fault after) :
    emit arguments text world = (.error fault, after) := by
  unfold emit
  generalize arguments.out.getD [] = out at undelivered
  cases undelivered with
  | console console refused =>
    subst console
    exact Action.print_of_gap refused
  | shut file shut =>
    cases out with
    | nil => exact absurd rfl file
    | cons c rest => exact Action.writeSpelled_of_shut shut text
  | halves file writable encoded =>
    cases out with
    | nil => exact absurd rfl file
    | cons c rest =>
      -- The file is opened before the text is encoded, so it is there, and empty.
      simp only
      rw [Action.writeSpelled_of_gap encoded,
        Action.bind_of_ok (Action.writeSpelled_of_writable writable rfl)]
      rfl

theorem report_eq (failures : List Failure) (world : World) :
    report failures world = (.ok (), world.printError (complaints failures)) := by
  induction failures generalizing world with
  | nil =>
    rw [complaints, List.flatMap_nil, World.printError, List.append_nil]
    rfl
  | cons failure failures ih =>
    let line := errorLine (failure.typeName ++ ": " ++ failure.rejection.message)
    calc report (failure :: failures) world
      _ = report failures (world.printError line) := rfl
      _ = (.ok (), (world.printError line).printError (complaints failures)) := ih _
      _ = (.ok (), world.printError (complaints (failure :: failures))) := by
        simp [World.printError, complaints, line]

theorem finish_eq {start : World} {batch : Batch} (quiet : start.Undisturbed world)
    (can : CanPutOut start (arguments.out.getD []) (batch.render Batch.separator)) :
    ∃ after, finish arguments batch world = (.ok (if batch.succeeded then 0 else 1), after) ∧
      PutOut start after (arguments.out.getD []) (batch.render Batch.separator) ∧
      after.stderr = world.stderr ++ complaints batch.failures := by
  obtain ⟨middle, emitted, put, unchanged⟩ := emit_eq quiet can
  refine ⟨middle.printError (complaints batch.failures), ?_, put, ?_⟩
  · rw [finish, Action.bind_of_ok emitted, Action.bind_of_ok (report_eq batch.failures middle)]
    rfl
  · rw [World.printError, unchanged]

/-- A command whose output cannot take the text ends there. -/
theorem Undelivered.finish_eq {batch : Batch} {fault : Fault} {after : World}
    (undelivered :
      Undelivered world (arguments.out.getD []) (batch.render Batch.separator) fault after) :
    finish arguments batch world = (.error fault, after) :=
  Action.bind_of_error undelivered.emit_eq

theorem execute_of_ok {batch : Batch} {middle : World}
    (done : generate arguments world = (.ok batch, middle)) :
    execute arguments world = finish arguments batch middle := by
  have attempted : Action.attempt (generate arguments) world = (.ok (.ok batch), middle) := by
    rw [Action.attempt, done]
  rw [execute, Action.bind_of_ok attempted]

theorem execute_of_rejected {rejection : Rejection} {middle : World}
    (done : generate arguments world = (.error (.rejected rejection), middle)) :
    execute arguments world = (.ok 1, middle.printError (errorLine rejection.message)) := by
  have attempted : Action.attempt (generate arguments) world =
      (.ok (.error (.rejected rejection)), middle) := by
    rw [Action.attempt, done]
  rw [execute, Action.bind_of_ok attempted]
  rfl

/-! ## The whole command -/

section Ends

variable (prepared : Prepared words world arguments settings ready descriptors)
  {generator : Generator} (made : Generator.make settings.generation none = .ok generator)
include prepared made

/-- Without a failure to stop at, what is left is to put out the batch. -/
theorem Prepared.run_going
    (going : arguments.failFast = false ∨ ∀ descriptor ∈ descriptors, descriptor.kind = .sum) :
    ∃ batch,
      run words world =
        finish arguments batch (ready.recordAll (records arguments generator descriptors)) ∧
      batch.Divides generator (.ofDialect (arguments.target.getD generator.recipe.target))
        descriptors := by
  obtain ⟨batch, returned, divides⟩ := pipeline_going generator prepared.shaped (prepared.canShow made) going
  have generated := prepared.generate_eq made
  rw [returned] at generated
  refine ⟨batch, ?_, divides⟩
  rw [run, prepared.parsed]
  exact execute_of_ok generated

theorem Prepared.run_stopping (stopping : arguments.failFast = true) {descriptor : Descriptor}
    (first : Outcome.First (fun descriptor => descriptor.kind ≠ .sum) descriptors descriptor) :
    run words world =
      (.ok 1, (ready.recordAll (records arguments generator descriptors)).printError
        (errorLine (generator.rejection descriptor).message)) := by
  have generated := prepared.generate_eq made
  rw [pipeline_stopping generator prepared.shaped (prepared.canShow made) stopping first] at generated
  rw [run, prepared.parsed]
  exact execute_of_rejected generated

end Ends

/-- Without settings, a command gets as far as the descriptors of a file that decodes. -/
theorem prepared_holding {words : List Text} {document : String} {out : Option Text}
    {descriptors : List Descriptor}
    (parsed : Arguments.parse words = .ok { descriptors := "types.json", out := out })
    (decoded : (Descriptor.readDocument (Path.ofText "types.json") (.text document) >>=
      Descriptor.decodeDocument) = .ok descriptors) :
    Prepared words (.holding document) { descriptors := "types.json", out := out } .unset
      (.holding document) descriptors where
  parsed := parsed
  settled := ⟨.holding document, rfl, rfl⟩
  described := by
    obtain ⟨value, read, decoded⟩ := Outcome.bind_eq_ok.mp decoded
    exact ⟨.text document, value, rfl, read, decoded⟩

theorem plain_flag :
    (Fragment.code .rust "EnumIterator" (Generator.standard.assemble .flag
      (Branch.numbered 0 [.ofShape "Flag" "On" .none]))).Plain := by
  have small : (Fragment.qualified "").Plain ∧ (Text.ofNat 0).Plain ∧
      Generator.fallback.enclose.Plain ∧ (Text.ofNat 1).Plain := by decide +kernel
  simpa [Fragment.code, Fragment.stateParts, Fragment.mappingParts, Fragment.branchParts,
    Fragment.tailParts, Generator.assemble, Generator.standard, Descriptor.flag, Naming.strategy,
    Naming.iteratorName, Naming.defaultStem, Branch.numbered, Construction.ofShape, Dialect.construct] using small

theorem halves_halfPair :
    ¬ (Fragment.code .rust "EnumIterator" (Generator.standard.assemble .halfPair
      (Branch.numbered 0 [.ofShape "Pair" "Half" (.positional [.ref [.surrogate 0]])]))).Plain := by
  intro plain
  have half : CodePoint.surrogate 0 ∈ Dialect.rust.construct
      (.ofShape "Pair" "Half" (.positional [.ref [.surrogate 0]])) := by
    simp [Dialect.construct, Construction.ofShape, Dialect.arguments, Text.joined,
      Dialect.defaultValue, TypeRef.text, TypeRef.wrapped]
  have held := plain (.surrogate 0) (by
    simp [Fragment.code, Fragment.branchParts, Generator.assemble, Branch.numbered, half])
  cases held

/-- A command that got as far as its descriptors ends with 0 or 1. Unless it stops at failures and there
is one, it puts out the blocks of the sum types and complains about each of the others, in the order of
the document; if it does, it complains about the first of them and puts out nothing. Everything else on
the error stream is what the log shows there: its lines, and reports of those that its file cannot hold. -/
theorem run_prepared {words : List Text} {world ready : World} {arguments : Arguments}
    {settings : Settings} {descriptors : List Descriptor}
    (prepared : Prepared words world arguments settings ready descriptors) :
    ∃ generator earlier, Generator.make settings.generation none = .ok generator ∧
      (arguments.failFast = false ∨ (∀ descriptor ∈ descriptors, descriptor.kind = .sum) →
        ∃ blocks,
          List.Forall₂
            (Descriptor.HasBlock generator (arguments.target.getD generator.recipe.target))
            (descriptors.filter fun descriptor => descriptor.kind = .sum) blocks ∧
          (CanPutOut world (arguments.out.getD []) (Batch.listing blocks) →
            ∃ after,
              run words world =
                (.ok (if ∀ descriptor ∈ descriptors, descriptor.kind = .sum then 0 else 1),
                  after) ∧
              PutOut world after (arguments.out.getD []) (Batch.listing blocks) ∧
              after.stderr = world.stderr ++ world.logged earlier ++
                ready.logged (records arguments generator descriptors) ++
                (descriptors.filter fun descriptor => descriptor.kind ≠ .sum).flatMap
                  fun descriptor => errorLine
                    (descriptor.name ++ ": " ++ (generator.rejection descriptor).message))) ∧
      (arguments.failFast = true → (∃ descriptor ∈ descriptors, descriptor.kind ≠ .sum) →
        ∃ descriptor after,
          Outcome.First (fun descriptor => descriptor.kind ≠ .sum) descriptors descriptor ∧
          run words world = (.ok 1, after) ∧
          after.stdout = world.stdout ∧
          after.tree = (ready.recordAll (records arguments generator descriptors)).tree ∧
          after.stderr = world.stderr ++ world.logged earlier ++
            ready.logged (records arguments generator descriptors) ++
            errorLine (generator.rejection descriptor).message) := by
  obtain ⟨generator, made⟩ := prepared.exists_generator
  obtain ⟨earlier, surroundings⟩ := prepared.surroundings
  obtain ⟨quiet, logged⟩ := surroundings (records arguments generator descriptors)
  refine ⟨generator, earlier, made, fun going => ?_, fun stopping other => ?_⟩
  · obtain ⟨batch, returned, divides⟩ := prepared.run_going made going
    refine ⟨_, divides.blocks, fun can => ?_⟩
    rw [← batch.render_eq] at can ⊢
    obtain ⟨after, finished, put, written⟩ := finish_eq quiet can
    refine ⟨after, ?_, put, ?_⟩
    · rw [returned, finished]
      simp only [divides.succeeded_iff]
    · rw [written, logged, complaints_of_divides divides]
  · obtain ⟨descriptor, first⟩ := Outcome.exists_first.mpr other
    refine ⟨descriptor, _, first, prepared.run_stopping made stopping first, quiet.stdout,
      rfl, ?_⟩
    rw [World.printError, logged]

/-- A type is put out and a record is complained about. -/
theorem run_prepared_flag :
    ∃ block content logged after,
      run ["types.json", "--out", "flag.rs"] (.holding Document.flagAndPoint) = (.ok 1, after) ∧
      Descriptor.HasBlock .standard .rust .flag block ∧
      after.stdout = [] ∧
      after.tree.read ["flag.rs"] = .ok (.text content) ∧
      Text.ofString content = Batch.listing [block] ∧
      after.stderr = logged ++ errorLine ("Point" ++ ": " ++
        ("EnumIterator" ++ " is only defined for sum types, not " ++ "records")) := by
  have prepared : Prepared ["types.json", "--out", "flag.rs"] (.holding Document.flagAndPoint)
      { descriptors := "types.json", out := some "flag.rs" } .unset
      (.holding Document.flagAndPoint) [.flag, .point] :=
    prepared_holding (by cbv) (by cbv)
  obtain ⟨generator, earlier, made, going, _⟩ := run_prepared prepared
  cases made.symm.trans Generator.make_default
  obtain ⟨blocks, each, put⟩ := going (.inl rfl)
  obtain ⟨block, _, has, rest, rfl⟩ := List.forall₂_cons_left_iff.mp each
  cases rest
  have plain : block.Plain := (has.plain_iff rfl rfl).mpr plain_flag
  have writable : (World.holding Document.flagAndPoint).WritableAt "flag.rs" ["flag.rs"] :=
    ⟨⟨rfl, rfl, by decide⟩, by decide⟩
  obtain ⟨after, done, ⟨silent, location, content, located, held, same⟩, written⟩ :=
    put ⟨.inr ⟨_, writable⟩, .inl (Batch.plain_listing.mpr (by simpa using plain))⟩
  cases writable.located.symm.trans located
  exact ⟨block, content, _, after, done, has, silent, held, same, by rw [written]; rfl⟩

theorem prepared_halfPair {words : List Text} {out : Option Text}
    (parsed : Arguments.parse words = .ok { descriptors := "types.json", out := out }) :
    Prepared words (.holding Document.onlyHalfPair) { descriptors := "types.json", out := out } .unset
      (.holding Document.onlyHalfPair) [.halfPair] :=
  prepared_holding parsed (by cbv)

/-- A text with halves of surrogate pairs cannot be put out, be it to a file or on the console. -/
theorem run_halfPair_ne_ok {words : List Text} {out : Option Text}
    (parsed : Arguments.parse words = .ok { descriptors := "types.json", out := out })
    (code : Nat) (after : World) : run words (.holding Document.onlyHalfPair) ≠ (.ok code, after) := by
  have prepared := prepared_halfPair parsed
  obtain ⟨batch, returned, divides⟩ := prepared.run_going Generator.make_default (.inl rfl)
  obtain ⟨block, _, has, _, blocks⟩ := List.forall₂_cons_left_iff.mp divides.blocks
  obtain ⟨_, surroundings⟩ := prepared.surroundings
  obtain ⟨quiet, _⟩ := surroundings
    (records { descriptors := "types.json", out := out } .standard [.halfPair])
  have halves : ¬ (batch.render Batch.separator).Plain := by
    rw [batch.render_eq, blocks, Batch.plain_listing]
    intro plain
    exact absurd ((has.plain_iff rfl rfl).mp (plain block List.mem_cons_self)) halves_halfPair
  obtain ⟨fault, last, undelivered⟩ := exists_undelivered fun can => by
    obtain ⟨_, keeping⟩ := can.2.resolve_left halves
    cases quiet.console.symm.trans keeping
  rw [returned, undelivered.finish_eq]
  exact nofun

/-- Half of a surrogate pair in a field type gets into the block of the type, which can then be put out neither to
a file nor on the console. -/
theorem run_halfPair :
    Prepared ["types.json", "--out", "pair.rs"] (.holding Document.onlyHalfPair)
      { descriptors := "types.json", out := some "pair.rs" } .unset
      (.holding Document.onlyHalfPair) [.halfPair] ∧
    Prepared ["types.json"] (.holding Document.onlyHalfPair) { descriptors := "types.json" } .unset
      (.holding Document.onlyHalfPair) [.halfPair] ∧
    Descriptor.halfPair.kind = .sum ∧
    (World.holding Document.onlyHalfPair).WritableAt "pair.rs" ["pair.rs"] ∧
    (∀ code after,
      run ["types.json", "--out", "pair.rs"] (.holding Document.onlyHalfPair) ≠ (.ok code, after)) ∧
    ∀ code after, run ["types.json"] (.holding Document.onlyHalfPair) ≠ (.ok code, after) := by
  have toFile : Arguments.parse ["types.json", "--out", "pair.rs"] =
      .ok { descriptors := "types.json", out := some "pair.rs" } := by cbv
  have toConsole : Arguments.parse ["types.json"] = .ok { descriptors := "types.json" } := by cbv
  exact ⟨prepared_halfPair toFile, prepared_halfPair toConsole, rfl,
    ⟨⟨rfl, rfl, by decide⟩, by decide⟩, run_halfPair_ne_ok toFile, run_halfPair_ne_ok toConsole⟩

end Command

end VariantIter
