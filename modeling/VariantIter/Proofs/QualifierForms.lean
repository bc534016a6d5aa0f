import VariantIter.Proofs.Names

/-!
How a visibility qualifier can be written.

Blanks can stand around a qualifier, and between `in` and the path of a module there have to be some; nowhere
else. Main statement: exactly these texts are accepted, and each becomes the qualifier without the blanks
around it and with one space before the path. So what is accepted depends on the words of a text only.
-/

namespace VariantIter

namespace Text

/-! ## Words between blanks -/

/-- Nothing but blanks. -/
def Blank (text : Text) : Prop :=
  ∀ c ∈ text, isBlank c = true

instance : DecidablePred Blank :=
  fun text => inferInstanceAs (Decidable (∀ c ∈ text, isBlank c = true))

theorem wordsFrom_eq_splitOnP (word text : Text) :
    wordsFrom word text =
      ((text.splitOnP isBlank).modifyHead (word.reverse ++ ·)).filter (!·.isEmpty) := by
  induction text generalizing word with
  | nil => cases word <;> simp [wordsFrom]
  | cons c cs ih =>
    rw [wordsFrom, List.splitOnP_cons_eq_if_modifyHead]
    split
    · next blank =>
      have rest : wordsFrom [] cs = (cs.splitOnP isBlank).filter (!·.isEmpty) := by
        rw [ih]
        cases cs.splitOnP isBlank <;> rfl
      cases word <;> simp [rest]
    · next solid =>
      rw [ih, List.modifyHead_modifyHead]
      simp [Function.comp_def]

/-- The words of a text are what stands between its blanks, where anything does. -/
theorem words_eq_splitOnP (text : Text) : words text = (text.splitOnP isBlank).filter (!·.isEmpty) := by
  rw [words, wordsFrom_eq_splitOnP]
  cases text.splitOnP isBlank <;> rfl

/-- No word goes on beyond a blank. -/
theorem words_append_cons {c : CodePoint} (blank : isBlank c = true) (text rest : Text) :
    words (text ++ c :: rest) = words text ++ words rest := by
  rw [words_eq_splitOnP, words_eq_splitOnP, words_eq_splitOnP, List.splitOnP_append_cons text rest blank,
    List.filter_append]

theorem words_cons_of_blank {c : CodePoint} (blank : isBlank c = true) (rest : Text) :
    words (c :: rest) = words rest :=
  words_append_cons blank [] rest

theorem words_blank_append {lead : Text} (blank : Blank lead) (rest : Text) :
    words (lead ++ rest) = words rest := by
  induction lead with
  | nil => rfl
  | cons c cs ih =>
    obtain ⟨first, others⟩ := List.forall_mem_cons.mp blank
    rw [List.cons_append, words_cons_of_blank first, ih others]

theorem words_of_blank {text : Text} (blank : Blank text) : words text = [] := by
  have read := words_blank_append blank []
  rw [List.append_nil] at read
  exact read

theorem words_append_of_blank (text : Text) {trail : Text} (blank : Blank trail) :
    words (text ++ trail) = words text := by
  cases trail with
  | nil => rw [List.append_nil]
  | cons c cs =>
    obtain ⟨first, others⟩ := List.forall_mem_cons.mp blank
    rw [words_append_cons first, words_of_blank others, List.append_nil]

/-! ## Texts from their words -/

/-- A word and what follows it: a blank, if anything does. -/
structure StartsWith (word rest : Text) : Prop where
  filled : word ≠ []
  solid : ∀ c ∈ word, isBlank c = false
  ended : ∀ c, rest.head? = some c → isBlank c = true

theorem StartsWith.words_eq {word rest : Text} (start : StartsWith word rest) :
    words (word ++ rest) = word :: words rest := by
  obtain ⟨filled, solid, ended⟩ := start
  cases rest with
  | nil =>
    rw [List.append_nil, words_of_solid filled solid]
    rfl
  | cons c cs => rw [words_append_blank filled solid (ended c rfl), words_cons_of_blank (ended c rfl)]

/-- A text that does not start with a blank starts with a word. -/
theorem startsWith_of_solid {c : CodePoint} (solid : isBlank c = false) (cs : Text) :
    StartsWith ((c :: cs).takeWhile (!isBlank ·)) ((c :: cs).dropWhile (!isBlank ·)) where
  filled := by simp [solid]
  solid d member := by simpa using List.mem_takeWhile_imp member
  ended d next := by
    have stopped := List.head?_dropWhile_not (!isBlank ·) (c :: cs)
    rw [next] at stopped
    simpa using stopped

/-- Up to its first word, a text is blank. -/
theorem exists_of_words_cons {text word : Text} {others : List Text}
    (read : words text = word :: others) :
    ∃ lead rest, Blank lead ∧ StartsWith word rest ∧ text = lead ++ (word ++ rest) ∧
      words rest = others := by
  induction text with
  | nil => cases read
  | cons c cs ih =>
    cases first : isBlank c with
    | true =>
      rw [words_cons_of_blank first] at read
      obtain ⟨lead, rest, blank, start, rfl, others⟩ := ih read
      exact ⟨c :: lead, rest, List.forall_mem_cons.mpr ⟨first, blank⟩, start, rfl, others⟩
    | false =>
      have start := startsWith_of_solid first cs
      have split := start.words_eq
      rw [List.takeWhile_append_dropWhile, read] at split
      obtain ⟨rfl, rfl⟩ := List.cons.inj split
      exact ⟨[], _, List.forall_mem_nil _, start, List.takeWhile_append_dropWhile.symm, rfl⟩

/-- A text without words is blank. -/
theorem blank_of_words {text : Text} (read : words text = []) : Blank text := by
  induction text with
  | nil => exact List.forall_mem_nil _
  | cons c cs ih =>
    cases first : isBlank c with
    | true =>
      rw [words_cons_of_blank first] at read
      exact List.forall_mem_cons.mpr ⟨first, ih read⟩
    | false =>
      have split := (startsWith_of_solid first cs).words_eq
      rw [List.takeWhile_append_dropWhile, read] at split
      cases split

/-- Unifying the blanks of a text leaves its words as they are. -/
theorem words_unifyBlanks (text : Text) : words (unifyBlanks text) = words text := by
  rw [unifyBlanks]
  generalize read : words text = parts
  induction parts generalizing text with
  | nil => rfl
  | cons word others ih =>
    obtain ⟨_, rest, _, start, _, after⟩ := exists_of_words_cons read
    cases others with
    | nil =>
      have alone : joined " " [word] = word := List.intercalate_singleton
      rw [alone, words_of_solid start.filled start.solid]
    | cons other others =>
      have joining : joined " " (word :: other :: others) =
          word ++ .char ' ' :: joined " " (other :: others) := by
        rw [joined, List.intercalate_cons_cons, List.append_assoc]
        rfl
      rw [joining, words_append_blank start.filled start.solid (by decide), ih rest after]

end Text

namespace Visibility

/-! ## Written qualifiers -/

/-- How a qualifier is written when nothing stands around it: the restriction to a path has some blanks before
the path, the other qualifiers have none. -/
inductive Writes : Text → Text → Prop
  | hidden : Writes "" ""
  | everywhere : Writes "pub" "pub"
  | crate : Writes "pub(crate)" "pub(crate)"
  | parent : Writes "pub(super)" "pub(super)"
  | itself : Writes "pub(self)" "pub(self)"
  | within {gap : Text} {names : List Text} (apart : gap ≠ []) (blank : Text.Blank gap)
      (filled : names ≠ []) (ascii : ∀ name ∈ names, Identifier.Ascii name) :
      Writes ("pub(in" ++ gap ++ Text.joined "::" names ++ ")") ("pub(in " ++ Text.joined "::" names ++ ")")

/-- How a qualifier can be written: with blanks around it. -/
def Spells (text q : Text) : Prop :=
  ∃ lead core trail, Text.Blank lead ∧ Text.Blank trail ∧ Writes core q ∧ text = lead ++ core ++ trail

theorem plain_of_ascii {names : List Text} (ascii : ∀ name ∈ names, Identifier.Ascii name) :
    ∀ name ∈ names, Identifier.isPlain name = true :=
  fun name member => Identifier.isPlain_iff.mpr (ascii name member)

theorem Writes.qualifier {core q : Text} (writes : Writes core q) : Qualifier q := by
  cases writes with
  | hidden => exact .hidden
  | everywhere => exact .everywhere
  | crate => exact .crate
  | parent => exact .parent
  | itself => exact .itself
  | within _ _ filled ascii => exact .within filled (plain_of_ascii ascii)

/-- The restriction to a path has two words. -/
theorem words_within {gap : Text} {names : List Text} (apart : gap ≠ []) (blank : Text.Blank gap)
    (filled : names ≠ []) (plain : ∀ name ∈ names, Identifier.isPlain name = true) :
    Text.words ("pub(in" ++ gap ++ (Text.joined "::" names ++ ")")) =
      [Text.ofString "pub(in", Text.joined "::" names ++ ")"] := by
  obtain ⟨name, names, rfl⟩ := List.exists_cons_of_ne_nil filled
  obtain ⟨first, others⟩ := List.forall_mem_cons.mp plain
  obtain ⟨c, cs, rfl⟩ := List.exists_cons_of_ne_nil apart
  obtain ⟨ended, more⟩ := List.forall_mem_cons.mp blank
  rw [joined_pathTail]
  have solid : ∀ c ∈ name ++ pathTail names, Text.isBlank c = false := by
    intro c member
    rcases List.mem_append.mp member with inside | tail
    · exact Identifier.isBlank_of_isPart (Identifier.isPart_of_isPlain first c inside)
    · exact solid_pathTail others c tail
  have tailed : name ++ pathTail names ≠ [] := by
    intro empty
    rw [(List.append_eq_nil_iff.mp empty).1] at first
    cases first
  rw [List.append_assoc, List.cons_append, Text.words_append_blank (by decide) (by decide) ended,
    Text.words_blank_append more, Text.words_of_solid tailed solid]

theorem words_within_space {names : List Text} (filled : names ≠ [])
    (plain : ∀ name ∈ names, Identifier.isPlain name = true) :
    Text.words ("pub(in " ++ Text.joined "::" names ++ ")") =
      [Text.ofString "pub(in", Text.joined "::" names ++ ")"] := by
  rw [List.append_assoc]
  exact words_within (List.cons_ne_nil (CodePoint.char ' ') []) (by decide) filled plain

theorem Spells.words_eq {text q : Text} (spells : Spells text q) : Text.words text = Text.words q := by
  obtain ⟨lead, core, trail, before, after, writes, rfl⟩ := spells
  rw [Text.words_append_of_blank _ after, Text.words_blank_append before]
  cases writes with
  | hidden => rfl
  | everywhere => rfl
  | crate => rfl
  | parent => rfl
  | itself => rfl
  | within apart blank filled ascii =>
    have plain := plain_of_ascii ascii
    rw [List.append_assoc, words_within apart blank filled plain, words_within_space filled plain]

/-- A text with the words of a qualifier spells it. -/
theorem Qualifier.spells {text q : Text} (qualifier : Qualifier q)
    (read : Text.words text = Text.words q) : Spells text q := by
  have single {word : Text} (read : Text.words text = [word]) (writes : Writes word word) :
      Spells text word := by
    obtain ⟨lead, rest, blank, _, rfl, after⟩ := Text.exists_of_words_cons read
    exact ⟨lead, word, rest, blank, Text.blank_of_words after, writes, by rw [List.append_assoc]⟩
  cases qualifier with
  | hidden =>
    refine ⟨text, "", [], Text.blank_of_words read, List.forall_mem_nil _, .hidden, ?_⟩
    rw [List.append_nil]
    exact (List.append_nil text).symm
  | everywhere => exact single read .everywhere
  | crate => exact single read .crate
  | parent => exact single read .parent
  | itself => exact single read .itself
  | @within names filled plain =>
    rw [words_within_space filled plain] at read
    obtain ⟨lead, rest, before, start, rfl, second⟩ := Text.exists_of_words_cons read
    obtain ⟨gap, trail, blank, path, rfl, after⟩ := Text.exists_of_words_cons second
    have apart : gap ≠ [] := by
      rintro rfl
      -- Without a gap, the path would go on with the word before it.
      obtain ⟨c, cs, shape⟩ := List.exists_cons_of_ne_nil path.filled
      have solid := path.solid c (shape ▸ List.mem_cons_self)
      rw [start.ended c (by rw [shape]; rfl)] at solid
      cases solid
    have ascii : ∀ name ∈ names, Identifier.Ascii name :=
      fun name member => Identifier.isPlain_iff.mp (plain name member)
    refine ⟨lead, _, trail, before, Text.blank_of_words after, .within apart blank filled ascii, ?_⟩
    simp only [List.append_assoc]

/-! ## What is accepted -/

/-- Exactly the texts that spell a qualifier are accepted, and the qualifier is returned. -/
theorem require_text_iff {text q : Text} {type : Option Value} :
    require (.text text) type = .ok q ↔ Spells text q := by
  rw [require_eq_ok]
  constructor
  · rintro ⟨s, same, rfl, qualifier⟩
    cases same
    exact qualifier.spells (Text.words_unifyBlanks text).symm
  · intro spells
    obtain ⟨_, _, _, _, _, writes, _⟩ := id spells
    refine ⟨text, rfl, ?_, writes.qualifier⟩
    rw [← writes.qualifier.unifyBlanks_eq, Text.unifyBlanks, spells.words_eq, ← Text.unifyBlanks]

/-- Every other text is refused. -/
theorem require_text_cases (text : Text) (type : Option Value) :
    (∃ q, require (.text text) type = .ok q) ∨
      require (.text text) type = .error (.descriptor (.invalidVisibility (.text text)) type) := by
  unfold require
  simp only
  split
  · exact .inl ⟨_, rfl⟩
  · exact .inr rfl

/-- A text is accepted exactly if it spells a qualifier, and becomes that qualifier; the qualifier is accepted
and stays as it is; and two texts with the same words between their blanks are both refused, or become the
same. -/
theorem require_normalizes (type : Option Value) :
    (∀ text q, require (.text text) type = .ok q ↔ Spells text q) ∧
    (∀ text q, require (.text text) type = .ok q → require (.text q) type = .ok q) ∧
    ∀ text other,
      (text.splitOnP Text.isBlank).filter (!·.isEmpty) =
        (other.splitOnP Text.isBlank).filter (!·.isEmpty) →
      (∃ q, require (.text text) type = .ok q ∧ require (.text other) type = .ok q) ∨
      (require (.text text) type = .error (.descriptor (.invalidVisibility (.text text)) type) ∧
        require (.text other) type = .error (.descriptor (.invalidVisibility (.text other)) type)) := by
  refine ⟨fun text q => require_text_iff, ?_, ?_⟩
  · intro text q accepted
    obtain ⟨s, _, _, qualifier⟩ := require_eq_ok.mp accepted
    exact require_eq_ok.mpr ⟨q, rfl, qualifier.unifyBlanks_eq, qualifier⟩
  · intro text other same
    rw [← Text.words_eq_splitOnP, ← Text.words_eq_splitOnP] at same
    have carried {text other : Text} (same : Text.words text = Text.words other) {q : Text}
        (accepted : require (.text text) type = .ok q) : require (.text other) type = .ok q := by
      rw [require_text_iff] at accepted ⊢
      obtain ⟨_, _, _, _, _, writes, _⟩ := id accepted
      exact writes.qualifier.spells (same.symm.trans accepted.words_eq)
    rcases require_text_cases text type with ⟨q, accepted⟩ | refused
    · exact .inl ⟨q, accepted, carried same accepted⟩
    · rcases require_text_cases other type with ⟨q, accepted⟩ | refused'
      · exact .inl ⟨q, carried same.symm accepted, accepted⟩
      · exact .inr ⟨refused, refused'⟩

/-- An em space and a line feed before the path are as good as one space. -/
theorem require_normalizes_spaced :
    require (.text " pub(in\u2003\ncrate::a)") none = .ok "pub(in crate::a)" ∧
    Spells " pub(in\u2003\ncrate::a)" "pub(in crate::a)" ∧
    require (.text "pub(in crate::a)") none = .ok "pub(in crate::a)" ∧
    ∃ q, require (.text "pub(in\tcrate::a) ") none = .ok q ∧
      require (.text " pub(in\u2003\ncrate::a)") none = .ok q := by
  obtain ⟨spelled, kept, alike⟩ := require_normalizes none
  have accepted : require (.text " pub(in\u2003\ncrate::a)") none = .ok "pub(in crate::a)" :=
    require_eq_ok.mpr ⟨_, rfl, by decide +kernel, by decide +kernel⟩
  refine ⟨accepted, (spelled _ _).mp accepted, kept _ _ accepted, ?_⟩
  rcases alike "pub(in\tcrate::a) " " pub(in\u2003\ncrate::a)" (by decide +kernel) with both | ⟨_, refused⟩
  · exact both
  · cases accepted.symm.trans refused

end Visibility

end VariantIter
