import VariantIter.Proofs.Listing

/-!
Joining the outputs of a run.

What is joined are the texts of the outputs without the line feeds at their ends. Main statement: nothing else is lost,
the parts of a list of outputs can be joined one after another, and what a run with the printer of a dialect returns is
joined as if nothing was taken off: every text ends in exactly one line feed, and one more stands between two of them.
-/

namespace VariantIter

/-! ## Line feeds at the end -/

/-- Two texts are the same up to line feeds at their ends. -/
def Text.SameButFeeds (text text' : Text) : Prop :=
  ∃ body count count', text = body ++ List.replicate count (.char '\n') ∧
    text' = body ++ List.replicate count' (.char '\n')

namespace Batch

theorem withoutLineEnd_append (text : Text) (count : Nat) :
    withoutLineEnd (text ++ List.replicate count (.char '\n')) = withoutLineEnd text := by
  rw [withoutLineEnd, withoutLineEnd, Text.dropRight, Text.dropRight, List.reverse_append,
    List.reverse_replicate, List.dropWhile_append_of_pos fun c member => ?_]
  rw [List.eq_of_mem_replicate member, beq_self_eq_true]

theorem withoutLineEnd_of_bare {text : Text} (bare : text.getLast? ≠ some (.char '\n')) :
    withoutLineEnd text = text := by
  obtain ⟨⟨count, feeds⟩, _⟩ := text.ends_withoutLineEnd
  cases count with
  | zero =>
    rw [List.replicate_zero, List.append_nil] at feeds
    exact feeds.symm
  | succ count =>
    rw [feeds, List.replicate_succ', ← List.append_assoc, List.getLast?_concat] at bare
    exact absurd rfl bare

theorem withoutLineEnd_eq_iff {text text' : Text} :
    withoutLineEnd text = withoutLineEnd text' ↔ text.SameButFeeds text' := by
  constructor
  · intro same
    obtain ⟨⟨count, feeds⟩, _⟩ := text.ends_withoutLineEnd
    obtain ⟨⟨count', feeds'⟩, _⟩ := text'.ends_withoutLineEnd
    exact ⟨withoutLineEnd text, count, count', feeds, same ▸ feeds'⟩
  · rintro ⟨body, count, count', rfl, rfl⟩
    rw [withoutLineEnd_append, withoutLineEnd_append]

end Batch

/-! ## Joining -/

namespace Text

/-- One part among others has a fixed place. -/
theorem exists_joined_eq (separator : Text) (before after : List Text) :
    ∃ front back, ∀ part, joined separator (before ++ part :: after) = front ++ (part ++ back) := by
  cases before with
  | nil => exact ⟨[], _, fun part => joined_cons separator part after⟩
  | cons first others =>
    refine ⟨first ++ (others.flatMap fun other => separator ++ other) ++ separator,
      after.flatMap fun other => separator ++ other, fun part => ?_⟩
    rw [List.cons_append, joined_cons, List.flatMap_append, List.flatMap_cons]
    simp only [List.append_assoc]

theorem joined_append {separator : Text} {parts others : List Text} (filled : parts ≠ [])
    (filled' : others ≠ []) :
    joined separator (parts ++ others) = joined separator parts ++ (separator ++ joined separator others) := by
  obtain ⟨first, rest, rfl⟩ := List.exists_cons_of_ne_nil filled
  obtain ⟨first', rest', rfl⟩ := List.exists_cons_of_ne_nil filled'
  rw [List.cons_append, joined_cons, joined_cons, joined_cons, List.flatMap_append, List.flatMap_cons]
  simp only [List.append_assoc]

/-- A line feed after every part and one between them are two between them and one at the end. -/
theorem joined_fed {bodies : List Text} (filled : bodies ≠ []) :
    joined "\n" (bodies.map fun body => body ++ "\n") = joined "\n\n" bodies ++ "\n" := by
  obtain ⟨first, others, rfl⟩ := List.exists_cons_of_ne_nil filled
  rw [List.map_cons, joined_cons, joined_cons, List.flatMap_map, List.append_assoc, List.append_assoc]
  congr 1
  -- The line feed in front goes through the others one by one.
  induction others with
  | nil => rfl
  | cons other others ih =>
    rw [List.flatMap_cons, List.flatMap_cons, List.append_assoc _ _ (Text.ofString "\n"), ← ih (List.cons_ne_nil _ _)]
    simp only [List.append_assoc]
    rfl

end Text

namespace Batch

variable {separator : Text}

theorem render_of_outputs {batch : Batch} (filled : batch.outputs ≠ []) :
    batch.render separator =
      Text.joined separator (batch.outputs.map fun output => withoutLineEnd output.text) ++ "\n" := by
  rw [render, if_neg (by simpa using filled)]

theorem render_replaced (before after : List Output) (output output' : Output) (failures : List Failure) :
    render ⟨before ++ output :: after, failures⟩ separator =
        render ⟨before ++ output' :: after, failures⟩ separator ↔
      output.text.SameButFeeds output'.text := by
  obtain ⟨front, back, placed⟩ := Text.exists_joined_eq separator
    (before.map fun output => withoutLineEnd output.text) (after.map fun output => withoutLineEnd output.text)
  rw [render_of_outputs (by simp), render_of_outputs (by simp), List.map_append, List.map_append, List.map_cons,
    List.map_cons, placed, placed, List.append_left_inj, List.append_right_inj, List.append_left_inj,
    withoutLineEnd_eq_iff]

theorem render_append {xs ys : List Output} (filled : xs ≠ []) (filled' : ys ≠ []) (failures : List Failure) :
    ∃ body, render ⟨xs, failures⟩ separator = body ++ "\n" ∧
      render ⟨xs ++ ys, failures⟩ separator = body ++ (separator ++ render ⟨ys, failures⟩ separator) := by
  refine ⟨_, render_of_outputs filled, ?_⟩
  rw [render_of_outputs (by simp [filled]), render_of_outputs filled', List.map_append,
    Text.joined_append (by simpa using filled) (by simpa using filled')]
  simp only [List.append_assoc]

end Batch

/-! ## What a printer of a dialect leaves -/

theorem Text.exists_flatten_eq {parts : List Text} (last : Text) (final : parts.getLast? = some last)
    {stop : Text} (ends : stop <:+ last) : ∃ front, parts.flatten = front ++ stop := by
  obtain ⟨front, rfl⟩ := ends
  refine ⟨parts.dropLast.flatten ++ front, ?_⟩
  conv_lhs => rw [← List.dropLast_append_getLast? _ final, List.flatten_concat]
  rw [List.append_assoc]

/-- The character before the line feed at the end of the code. -/
def Fragment.closing : Dialect → CodePoint
  | .rust => .char '\x7d'
  | .python => .char ')'

/-- The code of a fragment ends in exactly one line feed. -/
theorem Fragment.exists_code_eq (dialect : Dialect) (capability : Text) (f : Fragment) :
    ∃ front, f.code dialect capability = front ++ [closing dialect] ++ "\n" := by
  have ended : ∃ front, (f.tailParts dialect).flatten = front ++ [closing dialect, .char '\n'] := by
    cases dialect with
    | rust =>
      exact Text.exists_flatten_eq
        " += 1;\n        ::core::option::Option::Some(output)\n    \x7d\n\x7d\n" rfl (by decide)
    | python => exact Text.exists_flatten_eq "())\n" rfl (by decide)
  obtain ⟨front, tail⟩ := ended
  rw [code, tail, ← List.append_assoc]
  exact ⟨_, List.append_cons _ _ _⟩

theorem Fragment.code_eq (dialect : Dialect) (capability : Text) (f : Fragment) :
    f.code dialect capability = Batch.withoutLineEnd (f.code dialect capability) ++ "\n" := by
  obtain ⟨front, coded⟩ := f.exists_code_eq dialect capability
  have bare : (front ++ [closing dialect]).getLast? ≠ some (.char '\n') := by
    rw [List.getLast?_concat]
    cases dialect <;> decide
  have stripped := Batch.withoutLineEnd_append (front ++ [closing dialect]) 1
  rw [Batch.withoutLineEnd_of_bare bare] at stripped
  rw [coded]
  exact congrArg (· ++ _) stripped.symm

namespace Pipeline

variable {generator : Generator} {printer : Printer} {failFast : Bool}

/-- Whether or not a run stops at failures, an output belongs to its type. -/
theorem isOf_of_process (shows : printer.Shows) {descriptor : Descriptor} {output : Output}
    (processed : ((Pipeline.mk generator printer failFast).process descriptor).outcome = .ok (.inl output)) :
    output.IsOf generator printer descriptor := by
  cases verdict : generator.verdict descriptor with
  | good =>
    obtain ⟨other, isOf, same⟩ := process_good shows verdict
    cases (same failFast).symm.trans processed
    exact isOf
  | rejected =>
    cases failFast with
    | false => cases (process_rejected verdict).symm.trans processed
    | true => cases (process_rejected_failFast verdict).symm.trans processed
  | broken payload => cases (process_broken verdict).symm.trans processed
  | unshowable => cases (process_unshowable shows verdict).symm.trans processed

theorem printed_of_run (shows : printer.Shows) {descriptors : List Descriptor} {batch : Batch}
    (returned : ((Pipeline.mk generator printer failFast).run descriptors).outcome = .ok batch) :
    ∀ output ∈ batch.outputs, printer.layOut output.fragment = .ok output.text := by
  intro output member
  rw [run_outcome] at returned
  obtain ⟨results, mapped, rfl⟩ := Outcome.map_eq_ok.mp returned
  obtain ⟨result, among, left⟩ := List.mem_filterMap.mp member
  obtain rfl := Sum.getLeft?_eq_some_iff.mp left
  obtain ⟨descriptor, _, processed⟩ := Outcome.exists_of_mem_right (Outcome.mapM_eq_ok.mp mapped) among
  exact (isOf_of_process shows processed).printed

/-- The texts of a run with the printer of a dialect are joined as they are. -/
theorem render_of_run {dialect : Dialect} {descriptors : List Descriptor} {batch : Batch}
    (returned : ((Pipeline.mk generator (.ofDialect dialect) failFast).run descriptors).outcome = .ok batch) :
    batch.render Batch.separator = Text.joined "\n" (batch.outputs.map Output.text) := by
  have fed : ∀ output ∈ batch.outputs, output.text = Batch.withoutLineEnd output.text ++ "\n" := by
    intro output member
    have printed := printed_of_run (Printer.shows_ofDialect dialect) returned output member
    rw [Printer.layOut_ofDialect] at printed
    split at printed
    · rw [← Except.ok.inj printed]
      exact output.fragment.code_eq dialect _
    · cases printed
  by_cases filled : batch.outputs = []
  · rw [Batch.render, filled]
    rfl
  · rw [Batch.render_of_outputs filled, List.map_congr_left fed]
    have joined := @Text.joined_fed (batch.outputs.map fun output => Batch.withoutLineEnd output.text)
      (by simpa using filled)
    rw [List.map_map] at joined
    exact joined.symm

end Pipeline

/-! ## The joined text -/

/-- The joined text of outputs is the same for another text in place of one of them exactly if the two are the same up
to line feeds at their ends. The outputs of two lists are joined by joining each list and leaving out the line feed
that ends the first. What a run with the printer of a dialect returns has its texts joined as they are, with a line
feed between them. -/
theorem Batch.render_composes (separator : Text) (failures : List Failure) :
    (∀ before after output output',
      render ⟨before ++ output :: after, failures⟩ separator =
          render ⟨before ++ output' :: after, failures⟩ separator ↔
        output.text.SameButFeeds output'.text) ∧
    (∀ xs ys, xs ≠ [] → ys ≠ [] →
      ∃ body, render ⟨xs, failures⟩ separator = body ++ "\n" ∧
        render ⟨xs ++ ys, failures⟩ separator = body ++ (separator ++ render ⟨ys, failures⟩ separator)) ∧
    ∀ generator dialect failFast descriptors batch,
      ((Pipeline.mk generator (.ofDialect dialect) failFast).run descriptors).outcome = .ok batch →
      batch.render Batch.separator = Text.joined "\n" (batch.outputs.map Output.text) :=
  ⟨fun before after output output' => render_replaced before after output output' failures,
    fun _ _ filled filled' => render_append filled filled' failures,
    fun _ _ _ _ _ returned => Pipeline.render_of_run returned⟩

/-- The text of a type is what a run over it and a record is joined to, and line feeds after it are lost. -/
theorem Batch.render_composes_flag :
    ∃ batch output,
      ((Pipeline.mk .standard (.ofDialect .python) false).run [.flag, .point]).outcome = .ok batch ∧
      batch.outputs = [output] ∧ batch.render separator = output.text ∧
      ∃ body, batch.render "" = body ++ "\n" ∧
        render ⟨[output] ++ [{ output with text := output.text ++ "\n\n" }], batch.failures⟩ "" =
          body ++ batch.render "" := by
  have fine : ∀ descriptor ∈ [Descriptor.flag, .point], Generator.standard.verdict descriptor = .good ∨
      Generator.standard.verdict descriptor = .rejected := by
    simp only [List.forall_mem_cons]
    exact ⟨.inl rfl, .inr rfl, List.forall_mem_nil _⟩
  obtain ⟨batch, returned, divides⟩ := Pipeline.run_divides (Printer.shows_ofDialect .python) fine
  obtain ⟨output, none, _, nothing, only⟩ := List.forall₂_cons_left_iff.mp divides.outputs
  cases nothing
  obtain ⟨replaced, composed, joined⟩ := render_composes "" batch.failures
  obtain ⟨body, ended, extended⟩ := composed [output] [output] (by simp) (by simp)
  have same : batch = ⟨[output], batch.failures⟩ := by rw [← only]
  refine ⟨batch, output, returned, only, ?_, body, ?_, ?_⟩
  · rw [joined _ _ _ _ _ returned, only]
    simp [Text.joined]
  · rw [same]
    exact ended
  · rw [(replaced [output] [] _ output).mpr ⟨output.text, 2, 0, rfl, by simp⟩, same]
    exact extended

end VariantIter
