import VariantIter.Proofs.Configuration
import VariantIter.Proofs.WellFormed

/-!
Which texts are names.

An ASCII identifier is not empty, holds letters, digits and underscores only, and does not start with a digit.
Main statement: a text is accepted as a name exactly if it is such an identifier up to one line feed at its
end. So a name can break a line, and where the stem of an iterator ends in a line feed, the name of the
iterator is none that would be accepted.
-/

namespace VariantIter

namespace Identifier

/-! ## Identifiers -/

/-- An ASCII letter, an ASCII digit or an underscore. -/
def IsWord (c : CodePoint) : Prop :=
  ∃ letter : Char, c = .char letter ∧ (letter.isAlphanum = true ∨ letter = '_')

/-- An ASCII digit. -/
def IsDigit (c : CodePoint) : Prop :=
  ∃ digit : Char, c = .char digit ∧ digit.isDigit = true

/-- A plain ASCII identifier. -/
structure Ascii (s : Text) : Prop where
  filled : s ≠ []
  word : ∀ c ∈ s, IsWord c
  start : ∀ c, s.head? = some c → ¬ IsDigit c

/-- A text without the line feed at its end, if there is one. -/
def withoutLineFeed (s : Text) : Text :=
  if s.getLast? = some (.char '\n') then s.dropLast else s

theorem isPart_iff {c : CodePoint} : isPart c = true ↔ IsWord c := by
  cases c with
  | surrogate half =>
    constructor
    · intro part
      cases part
    · rintro ⟨letter, same, _⟩
      cases same
  | char c =>
    have ranges : c.isAlphanum = ((decide ('A' ≤ c ∧ c ≤ 'Z') || decide ('a' ≤ c) && decide (c ≤ 'z')) ||
        decide ('0' ≤ c) && decide (c ≤ '9')) := rfl
    have classes : isPart (.char c) = true ↔ c.isAlphanum = true ∨ c = '_' := by
      simp only [isPart, isStart, ranges, Bool.or_eq_true, Bool.and_eq_true, decide_eq_true_eq, beq_iff_eq]
      tauto
    rw [classes]
    constructor
    · intro letter
      exact ⟨c, rfl, letter⟩
    · rintro ⟨letter, same, word⟩
      cases same
      exact word

theorem not_isDigit_of_isStart {c : CodePoint} (start : isStart c = true) : ¬ IsDigit c := by
  rintro ⟨digit, rfl, isDigit⟩
  simp only [isStart, Char.isDigit, Bool.or_eq_true, Bool.and_eq_true, decide_eq_true_eq, beq_iff_eq,
    Char.le_def, UInt32.le_iff_toNat_le, ge_iff_le] at start isDigit
  have last : digit.val.toNat ≤ 57 := isDigit.2
  rcases start with (⟨low, _⟩ | ⟨low, _⟩) | rfl
  · have first : 97 ≤ digit.val.toNat := low
    omega
  · have first : 65 ≤ digit.val.toNat := low
    omega
  · revert last
    decide

/-- A name starts with any part of a name but a digit. -/
theorem isStart_iff {c : CodePoint} : isStart c = true ↔ IsWord c ∧ ¬ IsDigit c := by
  constructor
  · intro start
    exact ⟨isPart_iff.mp (isPart_of_isStart start), not_isDigit_of_isStart start⟩
  · rintro ⟨word, noDigit⟩
    obtain ⟨letter, rfl, _⟩ := id word
    have part : isPart (.char letter) = true := isPart_iff.mpr word
    rcases Bool.or_eq_true _ _ ▸ part with start | digit
    · exact start
    · exact absurd ⟨letter, rfl, digit⟩ noDigit

theorem isPlain_iff {s : Text} : isPlain s = true ↔ Ascii s := by
  cases s with
  | nil =>
    constructor
    · intro plain
      cases plain
    · intro ascii
      exact absurd rfl ascii.filled
  | cons c cs =>
    rw [isPlain, Bool.and_eq_true, List.all_eq_true, isStart_iff]
    constructor
    · rintro ⟨⟨word, noDigit⟩, parts⟩
      refine ⟨List.cons_ne_nil c cs, ?_, ?_⟩
      · exact List.forall_mem_cons.mpr ⟨word, fun d member => isPart_iff.mp (parts d member)⟩
      · intro d first
        cases first
        exact noDigit
    · intro ascii
      obtain ⟨word, words⟩ := List.forall_mem_cons.mp ascii.word
      exact ⟨⟨word, ascii.start c rfl⟩, fun d member => isPart_iff.mpr (words d member)⟩

/-! ## Names -/

theorem not_isWord_lineFeed : ¬ IsWord (.char '\n') := by
  intro word
  cases isPart_iff.mpr word

theorem withoutLineFeed_append (name : Text) : withoutLineFeed (name ++ "\n") = name := by
  have last : (name ++ "\n" : Text).getLast? = some (.char '\n') := List.getLast?_concat
  rw [withoutLineFeed, if_pos last]
  exact List.dropLast_concat

/-- An identifier does not end in a line feed. -/
theorem Ascii.withoutLineFeed_eq {name : Text} (ascii : Ascii name) : withoutLineFeed name = name := by
  rw [withoutLineFeed, if_neg]
  intro last
  exact not_isWord_lineFeed (ascii.word _ (List.mem_of_getLast? last))

/-- What is an identifier without the line feed at its end is one, or one and a line feed. -/
theorem ascii_withoutLineFeed_iff {s : Text} :
    Ascii (withoutLineFeed s) ↔ Ascii s ∨ ∃ name, Ascii name ∧ s = name ++ "\n" := by
  constructor
  · intro ascii
    by_cases last : s.getLast? = some (.char '\n')
    · obtain ⟨name, rfl⟩ := List.getLast?_eq_some_iff.mp last
      exact .inr ⟨name, withoutLineFeed_append name ▸ ascii, rfl⟩
    · rw [withoutLineFeed, if_neg last] at ascii
      exact .inl ascii
  · rintro (ascii | ⟨name, ascii, rfl⟩)
    · rw [ascii.withoutLineFeed_eq]
      exact ascii
    · rw [withoutLineFeed_append]
      exact ascii

theorem isName_iff {s : Text} : isName s = true ↔ Ascii (withoutLineFeed s) := by
  rw [isName, Bool.or_eq_true, Bool.and_eq_true, beq_iff_eq, isPlain_iff, isPlain_iff]
  constructor
  · rintro (ascii | ⟨last, ascii⟩)
    · rw [ascii.withoutLineFeed_eq]
      exact ascii
    · rw [withoutLineFeed, if_pos last]
      exact ascii
  · intro ascii
    rw [withoutLineFeed] at ascii
    split at ascii
    · next last => exact .inr ⟨last, ascii⟩
    · exact .inl ascii

/-- A value is accepted as a name if it is a text that is one. -/
theorem admits_iff {value : Value} :
    admits value = .ok true ↔ ∃ name, value.content = .text name ∧ Ascii (withoutLineFeed name) := by
  unfold admits
  generalize value.content = content
  cases content with
  | text name => simp [← isName_iff]
  | _ => simp [ite_eq_iff]

theorem admits_text {s : Text} : admits (.text s) = .ok true ↔ Ascii (withoutLineFeed s) := by
  rw [admits_iff]
  constructor
  · rintro ⟨name, same, ascii⟩
    cases same
    exact ascii
  · intro ascii
    exact ⟨s, rfl, ascii⟩

/-! ## One name after another -/

theorem ascii_append_iff {stem rest : Text} (filled : stem ≠ []) :
    Ascii (stem ++ rest) ↔ Ascii stem ∧ ∀ c ∈ rest, IsWord c := by
  have first : (stem ++ rest : Text).head? = stem.head? := List.head?_append_of_ne_nil stem filled
  constructor
  · intro ascii
    obtain ⟨word, rest⟩ := List.forall_mem_append.mp ascii.word
    exact ⟨⟨filled, word, first ▸ ascii.start⟩, rest⟩
  · rintro ⟨ascii, rest⟩
    exact ⟨List.append_ne_nil_of_left_ne_nil filled _, List.forall_mem_append.mpr ⟨ascii.word, rest⟩,
      first.symm ▸ ascii.start⟩

theorem withoutLineFeed_append_right {stem type : Text} (filled : type ≠ []) :
    withoutLineFeed (stem ++ type) = stem ++ withoutLineFeed type := by
  rw [withoutLineFeed, withoutLineFeed, List.getLast?_append_of_ne_nil stem filled,
    List.dropLast_append_of_ne_nil filled]
  split <;> rfl

/-- An accepted name without line feeds is an identifier. -/
theorem ascii_of_words {name : Text} (accepted : Ascii (withoutLineFeed name))
    (words : ∀ c ∈ name, IsWord c) : Ascii name := by
  rcases ascii_withoutLineFeed_iff.mp accepted with ascii | ⟨start, _, rfl⟩
  · exact ascii
  · exact absurd (words (.char '\n') (List.mem_append_right start List.mem_cons_self)) not_isWord_lineFeed

end Identifier

open Identifier

/-- The stem of a naming is a name. -/
theorem Naming.ascii_of_ofValue {value : Value} {naming : Naming}
    (made : Naming.ofValue value = .ok naming) : Ascii (withoutLineFeed naming.stem) := by
  unfold Naming.ofValue at made
  generalize value.content = content at made
  cases content with
  | text s =>
    simp only at made
    split at made
    · next named =>
      cases made
      exact isName_iff.mp named
    · cases made
  | _ =>
    simp only at made
    split at made <;> cases made

/-- The name of an iterator is an identifier if both parts of it are. It is accepted as a name if its stem
does not end in a line feed. -/
theorem Naming.iteratorName_iff {naming : Naming} {type : Text}
    (stem : Ascii (withoutLineFeed naming.stem)) (accepted : Ascii (withoutLineFeed type)) :
    (Ascii (naming.iteratorName type) ↔ Ascii naming.stem ∧ Ascii type) ∧
    (Ascii (withoutLineFeed (naming.iteratorName type)) ↔ Ascii naming.stem) := by
  have nonempty {name : Text} (accepted : Ascii (withoutLineFeed name)) : name ≠ [] := by
    rintro rfl
    exact accepted.filled rfl
  rw [Naming.iteratorName, withoutLineFeed_append_right (nonempty accepted),
    ascii_append_iff (nonempty stem), ascii_append_iff (nonempty stem)]
  constructor
  · constructor
    · rintro ⟨ascii, words⟩
      exact ⟨ascii, ascii_of_words accepted words⟩
    · rintro ⟨ascii, ascii'⟩
      exact ⟨ascii, ascii'.word⟩
  · constructor
    · rintro ⟨ascii, _⟩
      exact ascii
    · intro ascii
      exact ⟨ascii, accepted.word⟩

/-! ## Options -/

theorem Options.admits_of_checkStem {value : Value} {stem : Text}
    (checked : checkStem value = .ok stem) : admits value = .ok true := by
  unfold checkStem at checked
  cases content : value.content with
  | text s =>
    simp only [content] at checked
    split at checked
    · next named => exact admits_iff.mpr ⟨s, content, isName_iff.mp named⟩
    · cases checked
  | _ =>
    rw [content] at checked
    cases checked

theorem Options.admits_of_checkName {option name : Text} {value : Value}
    (checked : checkName option value = .ok name) : admits value = .ok true := by
  obtain ⟨admitted, asked, rest⟩ := Outcome.bind_eq_ok.mp checked
  cases admitted with
  | true => exact asked
  | false => cases rest

/-- The names in options that pass the check are accepted as names. -/
theorem Options.admits_of_check {options : Options} {recipe : Recipe}
    (checked : options.check = .ok recipe) :
    ∀ value ∈ [options.stem, options.entry, options.mapping, options.counter],
      admits value = .ok true := by
  obtain ⟨_, _, stem, entry, mapping, counter, _⟩ := Options.check_eq_ok.mp checked
  have listed := And.intro (admits_of_checkStem stem) (And.intro (admits_of_checkName entry)
    (And.intro (admits_of_checkName mapping) (admits_of_checkName counter)))
  simpa only [List.forall_mem_cons, List.not_mem_nil, false_implies, implies_true, and_true] using listed

/-! ## What is accepted -/

/-- A text is accepted as a name exactly if it is an identifier up to a line feed at its end; so the texts on
which this differs from being an identifier are those with the line feed. The same holds of the names of a
type, its variants and fields, and of the names in options. The name of an iterator is an identifier exactly
if its stem and the name of its type are, and accepted exactly if its stem is an identifier. -/
theorem Identifier.names_up_to_lineFeed (s : Text) :
    (admits (.text s) = .ok true ↔ Ascii (withoutLineFeed s)) ∧
    ((admits (.text s) = .ok true ↔ Ascii s) ↔ ¬ ∃ name, Ascii name ∧ s = name ++ "\n") ∧
    (∀ value type, require value type = .ok s ↔ value = .text s ∧ Ascii (withoutLineFeed s)) ∧
    (∀ (options : Options) (recipe : Recipe), options.check = .ok recipe →
      ∀ value ∈ [options.stem, options.entry, options.mapping, options.counter],
        ∃ name, value.content = .text name ∧ Ascii (withoutLineFeed name)) ∧
    ∀ (value : Value) (naming : Naming),
      Naming.ofValue value = .ok naming → admits (.text s) = .ok true →
        (Ascii (naming.iteratorName s) ↔ Ascii naming.stem ∧ Ascii s) ∧
        (admits (.text (naming.iteratorName s)) = .ok true ↔ Ascii naming.stem) := by
  refine ⟨admits_text, ?_, ?_, ?_, ?_⟩
  · rw [admits_text, ascii_withoutLineFeed_iff]
    constructor
    · rintro agree ⟨name, ascii, rfl⟩
      have ascii' := agree.mp (.inr ⟨name, ascii, rfl⟩)
      exact not_isWord_lineFeed (ascii'.word _ (List.mem_append_right name List.mem_cons_self))
    · intro clear
      exact or_iff_left clear
  · intro value type
    rw [Descriptor.require_eq_ok, isName_iff]
  · intro options recipe checked value member
    exact admits_iff.mp (Options.admits_of_check checked value member)
  · intro value naming made accepted
    rw [admits_text] at accepted ⊢
    exact Naming.iteratorName_iff (Naming.ascii_of_ofValue made) accepted

/-- The default options, and an iterator whose stem and type end in line feeds. -/
theorem Identifier.names_up_to_lineFeed_default :
    Options.check {} = .ok Generator.standard.recipe ∧
    (∃ name, Value.content (.text "enum_iter") = .text name ∧ Ascii (withoutLineFeed name)) ∧
    Naming.ofValue (.text "A\n") = .ok ⟨"A\n"⟩ ∧ admits (.text "T\n") = .ok true ∧
    (admits (.text (Naming.iteratorName ⟨"A\n"⟩ "T\n")) = .ok true ↔ Ascii "A\n") := by
  obtain ⟨_, _, _, ofOptions, ofIterators⟩ := names_up_to_lineFeed "T\n"
  refine ⟨rfl, ofOptions {} Generator.standard.recipe rfl (.text "enum_iter") (by simp), rfl, rfl, ?_⟩
  exact (ofIterators (.text "A\n") ⟨"A\n"⟩ rfl rfl).2

/-- A line feed at the end of a name is accepted, and breaks the name of an iterator in two. -/
theorem Identifier.admits_lineFeed :
    admits (.text "A\n") = .ok true ∧ ¬ Ascii "A\n" ∧
    Naming.ofValue (.text "A\n") = .ok ⟨"A\n"⟩ ∧ admits (.text "T") = .ok true ∧
    Naming.iteratorName ⟨"A\n"⟩ "T" = "A\nT" ∧ admits (.text "A\nT") = .ok false := by
  refine ⟨rfl, ?_, rfl, rfl, rfl, rfl⟩
  intro ascii
  exact not_isWord_lineFeed (ascii.word _ (by decide))

end VariantIter
