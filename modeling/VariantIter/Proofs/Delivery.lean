import VariantIter.Proofs.Footprint

/-!
Whether a command delivers what it generated.

Once all types are generated, what is left is to open the output, to write the text and to complain about
the failures. Main statement: the command then ends with 0 or 1, exactly if its output can take the text;
it has put out all of it, and has complained about every type that is not a sum type. Otherwise the fault
of the output goes out as it is, and the command ends without an exit code and without a complaint.
-/

namespace VariantIter.Command

variable {words : List Text} {world middle : World} {arguments : Arguments} {batch : Batch}

/-! ## Before the output -/

/-- A command that has generated its types was prepared. -/
theorem prepared_of_generate (parsed : Arguments.parse words = .ok arguments)
    (returned : generate arguments world = (.ok batch, middle)) :
    ∃ settings ready descriptors,
      Prepared words world arguments settings ready descriptors := by
  obtain ⟨settings, configured, loaded, afterLoading⟩ := Action.bind_eq_ok.mp returned
  obtain ⟨_, ready, logging, afterSetup⟩ := Action.bind_eq_ok.mp afterLoading
  obtain ⟨_, _, made, afterMaking⟩ := Action.bind_eq_ok.mp afterSetup
  obtain ⟨_, rfl⟩ := Action.ofExcept_eq_ok.mp made
  obtain ⟨_, _, aimed, afterAiming⟩ := Action.bind_eq_ok.mp afterMaking
  obtain ⟨_, rfl⟩ := Action.ofExcept_eq_ok.mp aimed
  obtain ⟨descriptors, _, described, _⟩ := Action.bind_eq_ok.mp afterAiming
  obtain ⟨content, _, held, afterReading⟩ := Action.bind_eq_ok.mp described
  obtain ⟨document, _, read, afterParsing⟩ := Action.bind_eq_ok.mp afterReading
  obtain ⟨_, _, decoded, afterDecoding⟩ := Action.bind_eq_ok.mp afterParsing
  obtain ⟨_, _, _, done⟩ := Action.bind_eq_ok.mp afterDecoding
  cases done
  exact ⟨settings, _, descriptors, parsed, ⟨configured, loaded, logging⟩, content, document,
    congrArg Prod.fst held, (Action.ofExcept_eq_ok.mp read).1, (Action.ofExcept_eq_ok.mp decoded).1⟩

/-- What was generated divides the types of the document. -/
theorem Prepared.divides_of_generate {settings : Settings} {ready : World}
    {descriptors : List Descriptor} {generator : Generator}
    (prepared : Prepared words world arguments settings ready descriptors)
    (made : Generator.make settings.generation none = .ok generator)
    (returned : generate arguments world = (.ok batch, middle)) :
    batch.Divides generator (.ofDialect (arguments.target.getD generator.recipe.target))
      descriptors := by
  have outcome : ((pipeline arguments generator).run descriptors).outcome = .ok batch :=
    congrArg Prod.fst ((prepared.generate_eq made).symm.trans returned)
  by_cases going : arguments.failFast = false ∨ ∀ descriptor ∈ descriptors, descriptor.kind = .sum
  · obtain ⟨other, ended, divides⟩ :=
      pipeline_going generator prepared.shaped (prepared.canShow made) going
    cases ended.symm.trans outcome
    exact divides
  · -- A run that stops at failures and has met one has returned nothing.
    obtain ⟨stopping, others⟩ := not_or.mp going
    push Not at others
    obtain ⟨descriptor, first⟩ := Outcome.exists_first.mpr others
    cases (pipeline_stopping generator prepared.shaped (prepared.canShow made)
      (by simpa using stopping) first).symm.trans outcome

/-! ## At the output -/

theorem Undelivered.silent {out text : Text} {fault : Fault} {after : World}
    (undelivered : Undelivered world out text fault after) :
    after.stdout = world.stdout ∧ after.stderr = world.stderr := by
  cases undelivered with
  | _ => exact ⟨rfl, rfl⟩

theorem run_of_generate (parsed : Arguments.parse words = .ok arguments)
    (returned : generate arguments world = (.ok batch, middle)) :
    run words world = finish arguments batch middle := by
  rw [run, parsed]
  exact execute_of_ok returned

/-! ## The whole command -/

/-- Once all types are generated, a command ends with an exit code exactly if its output can take the text.
It ends with 0 if every type is a sum type and with 1 otherwise, it has put out the whole text, and it has
complained about each of the other types in order. A command whose output cannot take the text ends with
the fault of the output and complains about nothing. -/
theorem run_delivers {words : List Text} {world middle : World} {arguments : Arguments} {batch : Batch}
    (parsed : Arguments.parse words = .ok arguments)
    (returned : generate arguments world = (.ok batch, middle)) :
    ∃ settings ready descriptors generator,
      Prepared words world arguments settings ready descriptors ∧
      Generator.make settings.generation none = .ok generator ∧
      batch.Divides generator (.ofDialect (arguments.target.getD generator.recipe.target))
        descriptors ∧
      ((∃ code after, run words world = (.ok code, after)) ↔
        CanPutOut middle (arguments.out.getD []) (batch.render Batch.separator)) ∧
      (∀ code after, run words world = (.ok code, after) →
        (code = if ∀ descriptor ∈ descriptors, descriptor.kind = .sum then 0 else 1) ∧
        PutOut middle after (arguments.out.getD []) (batch.render Batch.separator) ∧
        after.stderr = middle.stderr ++
          (descriptors.filter fun descriptor => descriptor.kind ≠ .sum).flatMap fun descriptor =>
            errorLine (descriptor.name ++ ": " ++ (generator.rejection descriptor).message)) ∧
      ∀ fault after, run words world = (.error fault, after) →
        Undelivered middle (arguments.out.getD []) (batch.render Batch.separator) fault after ∧
        after.stdout = middle.stdout ∧ after.stderr = middle.stderr := by
  obtain ⟨settings, ready, descriptors, prepared⟩ := prepared_of_generate parsed returned
  obtain ⟨generator, made⟩ := prepared.exists_generator
  have divides := prepared.divides_of_generate made returned
  have ran := run_of_generate parsed returned
  refine ⟨settings, ready, descriptors, generator, prepared, made, divides, ?_⟩
  rw [ran]
  by_cases can : CanPutOut middle (arguments.out.getD []) (batch.render Batch.separator)
  · obtain ⟨after, finished, put, written⟩ := finish_eq (.refl middle) can
    rw [finished]
    refine ⟨iff_of_true ⟨_, _, rfl⟩ can, fun code last ended => ?_, fun fault last ended => ?_⟩
    · cases ended
      refine ⟨by simp only [divides.succeeded_iff], put, ?_⟩
      rw [written, complaints_of_divides divides]
    · cases ended
  · obtain ⟨fault, after, undelivered⟩ := exists_undelivered can
    rw [undelivered.finish_eq]
    refine ⟨iff_of_false ?_ can, fun code last ended => ?_, fun other last ended => ?_⟩
    · rintro ⟨code, last, ended⟩
      cases ended
    · cases ended
    · cases ended
      exact ⟨undelivered, undelivered.silent⟩

/-- A type and a record are generated, and what there is to be seen of it are lines on the console. -/
theorem generate_flagAndPoint {words : List Text} {out : Option Text}
    (parsed : Arguments.parse words = .ok { descriptors := "types.json", out := out }) :
    ∃ batch middle,
      generate { descriptors := "types.json", out := out } (.holding Document.flagAndPoint) =
        (.ok batch, middle) ∧
      batch.Divides .standard (.ofDialect .rust) [.flag, .point] ∧
      middle.directory = [] ∧ middle.tree = (World.holding Document.flagAndPoint).tree := by
  have prepared : Prepared words (.holding Document.flagAndPoint)
      { descriptors := "types.json", out := out } .unset (.holding Document.flagAndPoint)
      [.flag, .point] := prepared_holding parsed (by cbv)
  obtain ⟨batch, returned, divides⟩ := @pipeline_going { descriptors := "types.json", out := out } _
    .standard prepared.shaped (prepared.canShow Generator.make_default) (.inl rfl)
  have generated := prepared.generate_eq Generator.make_default
  rw [returned] at generated
  refine ⟨batch, _, generated, divides, ?_, World.recordAll_tree rfl _⟩
  obtain ⟨_, _, recorded⟩ := World.recordAll_eq (.holding Document.flagAndPoint)
    (records { descriptors := "types.json", out := out } .standard [.flag, .point])
  rw [recorded]
  rfl

/-- A type and a record, put out to a file. -/
theorem run_delivers_flag :
    ∃ batch middle after,
      generate { descriptors := "types.json", out := some "flag.rs" }
        (.holding Document.flagAndPoint) = (.ok batch, middle) ∧
      run ["types.json", "--out", "flag.rs"] (.holding Document.flagAndPoint) = (.ok 1, after) ∧
      after.stderr = middle.stderr ++ errorLine ("Point" ++ ": " ++
        ("EnumIterator" ++ " is only defined for sum types, not " ++ "records")) := by
  have parsed : Arguments.parse ["types.json", "--out", "flag.rs"] =
      .ok { descriptors := "types.json", out := some "flag.rs" } := by cbv
  obtain ⟨batch, middle, generated, divides, here, same⟩ := generate_flagAndPoint parsed
  have writable : middle.WritableAt "flag.rs" ["flag.rs"] := by
    refine ⟨⟨rfl, ?_, ?_⟩, by decide⟩
    · rw [World.locate, World.startOf, here, same]
      rfl
    · rw [same]
      decide
  have plain : (batch.render Batch.separator).Plain := by
    obtain ⟨block, _, has, none, blocks⟩ := List.forall₂_cons_left_iff.mp divides.blocks
    cases none
    rw [batch.render_eq, blocks, Batch.plain_listing, List.forall_mem_singleton]
    exact (has.plain_iff rfl rfl).mpr plain_flag
  obtain ⟨_, _, descriptors, generator, _, _, again, ends, ended, _⟩ := run_delivers parsed generated
  obtain ⟨code, after, ran⟩ := ends.mpr ⟨.inr ⟨_, writable⟩, .inl plain⟩
  obtain ⟨coded, _, written⟩ := ended code after ran
  have failed : ¬ ∀ descriptor ∈ descriptors, descriptor.kind = .sum := by
    rw [← again.succeeded_iff, divides.succeeded_iff]
    decide
  rw [if_neg failed] at coded
  rw [← complaints_of_divides again, divides.failures] at written
  cases coded
  exact ⟨batch, middle, after, generated, ran, written⟩

/-- Without the directory of the output, a command that has generated its types ends with a fault. The
record among the types is not complained about. -/
theorem run_missingDirectory :
    ∃ batch middle,
      generate { descriptors := "types.json", out := some "missing/flag.rs" }
        (.holding Document.flagAndPoint) = (.ok batch, middle) ∧
      batch.failures = [Failure.ofType .standard .point] ∧
      run ["types.json", "--out", "missing/flag.rs"] (.holding Document.flagAndPoint) =
        (.error (.file .notFound "missing/flag.rs"), middle) := by
  have parsed : Arguments.parse ["types.json", "--out", "missing/flag.rs"] =
      .ok { descriptors := "types.json", out := some "missing/flag.rs" } := by cbv
  obtain ⟨batch, middle, generated, divides, here, same⟩ := generate_flagAndPoint parsed
  have shut : middle.ShutAt "missing/flag.rs" (.file .notFound "missing/flag.rs") := by
    refine .lost rfl ?_
    rw [World.locate, World.startOf, here, same]
    rfl
  refine ⟨batch, middle, generated, divides.failures, ?_⟩
  rw [run_of_generate parsed generated]
  exact (Undelivered.shut (by decide) shut).finish_eq

end VariantIter.Command
