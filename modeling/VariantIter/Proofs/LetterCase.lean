import Mathlib
import VariantIter.Proofs.GivenOptions
import VariantIter.Proofs.Revisions

/-!
Words that are matched in any letter case.

Kinds and dialects are matched after the whole text of a value is put in small letters, and small letters are those of
Unicode: a dotted capital I becomes an i with a dot, and the Kelvin sign becomes a k. Main statement: what is accepted
are the names in ASCII capitals and small letters, and nothing else. A code point beyond ASCII leaves one beyond ASCII
or a k, and there is no k in the names; the text of a value that is not a text begins like none of them.
-/

namespace VariantIter

/-! ## ASCII letters -/

namespace CodePoint

/-- A code point with a small letter in place of an ASCII capital. -/
def fold : CodePoint → CodePoint
  | .char c => .char c.toLower
  | .surrogate half => .surrogate half

/-- An ASCII code point that nothing beyond ASCII has as its small letter. The Kelvin sign has a k. -/
def IsSafe (c : CodePoint) : Prop :=
  c.code < 0x80 ∧ c ≠ .char 'k'

instance (c : CodePoint) : Decidable c.IsSafe :=
  inferInstanceAs (Decidable (_ ∧ _))

theorem exists_char_of_ascii {c : CodePoint} (ascii : c.code < 0x80) : ∃ letter, c = .char letter := by
  cases c with
  | char letter => exact ⟨letter, rfl⟩
  | surrogate half =>
    rw [code] at ascii
    omega

theorem isUpper_iff {letter : Char} : letter.isUpper = true ↔ 0x41 ≤ letter.toNat ∧ letter.toNat ≤ 0x5A := by
  simp only [Char.isUpper, decide_eq_true_eq, UInt32.le_iff_toNat_le, ge_iff_le]
  exact Iff.rfl

theorem fold_of_upper {letter : Char} (upper : letter.isUpper = true) :
    fold (.char letter) = .char (Char.ofNat (letter.toNat + 32)) := by
  rw [fold, Char.toLower_eq_of_isUpper upper]

theorem fold_of_not_upper {letter : Char} (other : ¬ letter.isUpper = true) :
    fold (.char letter) = .char letter := by
  rw [fold, Char.toLower_eq_of_not_isUpper other]

theorem code_fold_lt {c : CodePoint} : c.fold.code < 0x80 ↔ c.code < 0x80 := by
  cases c with
  | surrogate half => rfl
  | char letter =>
    by_cases upper : letter.isUpper = true
    · obtain ⟨_, last⟩ := isUpper_iff.mp upper
      have valid : (letter.toNat + 32).isValidChar := .inl (by omega)
      rw [fold_of_upper upper, code, code, Char.toNat_ofNat, if_pos valid]
      omega
    · rw [fold_of_not_upper upper]

end CodePoint

namespace Text

/-- A text with small letters in place of ASCII capitals. -/
def fold (s : Text) : Text :=
  s.map CodePoint.fold

/-! ## Small letters of one code point -/

/-- The capitals of ASCII are the only ones below 0x80. -/
theorem run_of_ascii : ∀ run ∈ lowerRuns, run.first < 0x80 → run = ⟨0x41, 0x5A, 1, 0x61⟩ := by
  decide +kernel

/-- A run that reaches beyond ASCII is that of the Kelvin sign, or leads to characters beyond ASCII. -/
theorem run_beyond : ∀ run ∈ lowerRuns, 0x80 ≤ run.last →
    run = ⟨0x212A, 0x212A, 1, 0x6B⟩ ∨
      0x80 ≤ run.small ∧ (run.small + (run.last - run.first) < 0xD800 ∨
        0xDFFF < run.small ∧ run.small + (run.last - run.first) < 0x110000) := by
  decide +kernel

theorem covers_iff {run : CaseRun} {code : Nat} :
    run.covers code = true ↔
      run.first ≤ code ∧ code ≤ run.last ∧ (code - run.first) % run.step = 0 := by
  simp [CaseRun.covers, and_assoc]

theorem lowerPoint_of_ascii {c : CodePoint} (ascii : c.code < 0x80) : lowerPoint c = [c.fold] := by
  obtain ⟨letter, rfl⟩ := CodePoint.exists_char_of_ascii ascii
  rw [CodePoint.code] at ascii
  have dotless : ¬ (CodePoint.char letter).code = 0x130 := by
    rw [CodePoint.code]
    omega
  rw [lowerPoint, if_neg dotless, CodePoint.code]
  by_cases upper : letter.isUpper = true
  · obtain ⟨first, last⟩ := CodePoint.isUpper_iff.mp upper
    have found : lowerRuns.find? (·.covers letter.toNat) = some ⟨0x41, 0x5A, 1, 0x61⟩ :=
      List.find?_cons_of_pos (covers_iff.mpr ⟨first, last, Nat.mod_one _⟩)
    have shifted : 0x61 + (letter.toNat - 0x41) = letter.toNat + 32 := by omega
    simp only [found]
    rw [shifted, CodePoint.fold_of_upper upper]
  · have missed : lowerRuns.find? (·.covers letter.toNat) = none := by
      rw [List.find?_eq_none]
      intro run member covered
      obtain ⟨first, last, _⟩ := covers_iff.mp covered
      cases run_of_ascii run member (by omega)
      exact upper (CodePoint.isUpper_iff.mpr ⟨first, last⟩)
    simp only [missed]
    rw [CodePoint.fold_of_not_upper upper]

/-- A code point beyond ASCII leaves another one beyond ASCII, or a k. -/
theorem exists_exposed_lowerPoint {c : CodePoint} (beyond : 0x80 ≤ c.code) : ∃ d ∈ lowerPoint c, ¬ d.IsSafe := by
  by_cases dotted : c.code = 0x130
  · rw [lowerPoint, if_pos dotted]
    exact ⟨.char (Char.ofNat 0x307), by simp, by decide⟩
  · rw [lowerPoint, if_neg dotted]
    cases found : lowerRuns.find? (·.covers c.code) with
    | none => exact ⟨c, List.mem_singleton_self c, fun safe => Nat.not_lt.mpr beyond safe.1⟩
    | some run =>
      refine ⟨_, List.mem_singleton_self _, fun safe => ?_⟩
      have covered : run.covers c.code = true := by simpa using List.find?_some found
      obtain ⟨first, last, _⟩ := covers_iff.mp covered
      rcases run_beyond run (List.mem_of_find?_eq_some found) (by omega) with rfl | ⟨small, valid⟩
      · have kelvin : c.code = 0x212A := le_antisymm last first
        rw [kelvin] at safe
        exact safe.2 rfl
      · have isValid : (run.small + (c.code - run.first)).isValidChar := by
          rw [Nat.isValidChar]
          omega
        have ascii := safe.1
        rw [CodePoint.code, Char.toNat_ofNat, if_pos isValid] at ascii
        omega

/-! ## Small letters of a text -/

/-- A text is put in small letters from its front. -/
theorem exists_lowerFrom_cons (before : Text) (c : CodePoint) (cs : Text) :
    ∃ small, lowerFrom before (c :: cs) = small ++ lowerFrom (c :: before) cs ∧
      (c.code < 0x80 → small = [c.fold]) ∧ (0x80 ≤ c.code → ∃ d ∈ small, ¬ d.IsSafe) := by
  refine ⟨_, rfl, fun ascii => ?_, fun beyond => ?_⟩
  · have other : ¬ c.code = 0x3A3 := by omega
    simp only [other, if_false]
    exact lowerPoint_of_ascii ascii
  · by_cases sigma : c.code = 0x3A3
    · -- Either form of a small sigma is beyond ASCII.
      simp only [sigma, if_true]
      split
      · exact ⟨_, List.mem_singleton_self _, by decide⟩
      · exact ⟨_, List.mem_singleton_self _, by decide⟩
    · simp only [sigma, if_false]
      exact exists_exposed_lowerPoint beyond

theorem lowerFrom_of_ascii {s : Text} (ascii : ∀ c ∈ s, c.code < 0x80) (before : Text) :
    lowerFrom before s = fold s := by
  induction s generalizing before with
  | nil => rfl
  | cons c cs ih =>
    obtain ⟨now, later⟩ := List.forall_mem_cons.mp ascii
    obtain ⟨small, lowered, same, _⟩ := exists_lowerFrom_cons before c cs
    rw [lowered, same now, ih later]
    rfl

/-- Only ASCII has a text of safe code points in small letters. -/
theorem ascii_of_lowerFrom {s before : Text} (safe : ∀ d ∈ lowerFrom before s, d.IsSafe) :
    ∀ c ∈ s, c.code < 0x80 := by
  induction s generalizing before with
  | nil => exact List.forall_mem_nil _
  | cons c cs ih =>
    obtain ⟨small, lowered, _, leaves⟩ := exists_lowerFrom_cons before c cs
    rw [lowered] at safe
    obtain ⟨now, later⟩ := List.forall_mem_append.mp safe
    refine List.forall_mem_cons.mpr ⟨?_, ih later⟩
    by_contra beyond
    obtain ⟨d, member, exposed⟩ := leaves (Nat.not_lt.mp beyond)
    exact exposed (now d member)

theorem ascii_of_fold {s word : Text} (same : fold s = word) (ascii : ∀ d ∈ word, d.code < 0x80) :
    ∀ c ∈ s, c.code < 0x80 := by
  intro c member
  rw [← CodePoint.code_fold_lt]
  exact ascii _ (same ▸ List.mem_map_of_mem member)

/-- The small letters of a text make up a word of safe code points exactly if its ASCII letters do. -/
theorem lower_eq_iff {s word : Text} (safe : ∀ d ∈ word, d.IsSafe) : lower s = word ↔ fold s = word := by
  constructor
  · intro same
    have ascii : ∀ c ∈ s, c.code < 0x80 := ascii_of_lowerFrom (same ▸ safe)
    rw [← same, lower, lowerFrom_of_ascii ascii]
  · intro same
    rw [lower, lowerFrom_of_ascii (ascii_of_fold same fun d member => (safe d member).1), same]

end Text

/-! ## Values that are not texts -/

/-- The characters that the text of a value may begin with, if the value is not a text itself. -/
def Value.mayBegin (c : Char) : Bool :=
  Text.isDigit c || ['N', 'T', 'F', '[', '\x7b', '-', '.', 'e', 'i', 'n'].contains c

/-- Characters that may stand at the beginning of the text of such a value. -/
def Value.Begins (cs : List Char) : Prop :=
  ∀ c, cs.head? = some c → mayBegin c = true

namespace Value

theorem begins_nil : Begins [] := by
  rintro c ⟨⟩

theorem begins_cons {c : Char} (first : mayBegin c = true) (cs : List Char) : Begins (c :: cs) := by
  rintro d ⟨⟩
  exact first

theorem Begins.append {cs ds : List Char} (begins : Begins cs) (next : Begins ds) : Begins (cs ++ ds) := by
  cases cs with
  | nil => exact next
  | cons c cs => exact begins

theorem begins_of_digits {cs : List Char} (digits : ∀ c ∈ cs, Text.isDigit c = true) : Begins cs := by
  cases cs with
  | nil => exact begins_nil
  | cons c cs =>
    refine begins_cons ?_ cs
    rw [mayBegin, digits c List.mem_cons_self]
    rfl

theorem begins_decimalInt (n : Int) : Begins (Text.decimalInt n) := by
  cases n with
  | ofNat n => exact begins_of_digits Text.isDigit_of_mem_decimal
  | negSucc n => exact begins_cons rfl _

end Value

namespace Double

open VariantIter.Value (Begins begins_nil begins_cons begins_of_digits)

theorem isDigit_of_mem_shortest (mantissa : Nat) (exponent : Int) :
    ∀ c ∈ (shortest mantissa exponent).1, Text.isDigit c = true := by
  intro c member
  have stripped := List.mem_reverse.mp member
  exact Text.isDigit_of_mem_decimal c (List.mem_reverse.mp (List.dropWhile_subset _ stripped))

theorem begins_positional {digits : List Char} (each : ∀ c ∈ digits, Text.isDigit c = true) (place : Int) :
    Begins (positional digits place) := by
  unfold positional
  split
  · exact begins_cons rfl _
  · simp only
    split
    · have zeros : ∀ c ∈ List.replicate (place.natAbs - digits.length) '0', Text.isDigit c = true := by
        intro c member
        rw [List.eq_of_mem_replicate member]
        rfl
      exact ((begins_of_digits each).append (begins_of_digits zeros)).append (begins_cons rfl _)
    · refine (begins_of_digits fun c member => ?_).append (begins_cons rfl _)
      exact each c (List.mem_of_mem_take member)

theorem begins_exponential {digits : List Char} (each : ∀ c ∈ digits, Text.isDigit c = true) (place : Int) :
    Begins (exponential digits place) := by
  have taken : Begins (digits.take 1) := begins_of_digits fun c member => each c (List.mem_of_mem_take member)
  unfold exponential
  simp only
  cases digits.drop 1 with
  | nil => exact (taken.append begins_nil).append (begins_cons rfl _)
  | cons c rest => exact (taken.append (begins_cons rfl _)).append (begins_cons rfl _)

theorem begins_signed {cs : List Char} (begins : Begins cs) (negative : Bool) : Begins (signed negative cs) := by
  cases negative with
  | false => exact begins
  | true => exact begins_cons rfl cs

theorem begins_chars (x : Double) : Begins x.chars := by
  cases x with
  | nan => exact begins_cons rfl _
  | infinite negative => exact begins_signed (begins_cons rfl _) negative
  | finite negative mantissa exponent =>
    have each := isDigit_of_mem_shortest mantissa exponent
    rw [chars]
    split
    · exact begins_signed (begins_cons rfl _) negative
    · simp only
      split
      · exact begins_signed (begins_positional each _) negative
      · exact begins_signed (begins_exponential each _) negative

end Double

namespace Value

/-- A text whose first code point, if there is one, may begin the text of a value that is not a text. -/
def Opens (text : Text) : Prop :=
  ∀ c, text.head? = some c → ∃ letter, c = .char letter ∧ mayBegin letter = true

theorem opens_ofChars {cs : List Char} (begins : Begins cs) : Opens (Text.ofChars cs) := by
  cases cs with
  | nil => rintro c ⟨⟩
  | cons letter cs =>
    rintro c ⟨⟩
    exact ⟨letter, rfl, begins letter rfl⟩

theorem opens_cons (letter : Char) (first : mayBegin letter = true) (rest : Text) :
    Opens (.char letter :: rest) := by
  rintro c ⟨⟩
  exact ⟨letter, rfl, first⟩

theorem opens_display {value : Value} (json : value.IsJson) (other : ∀ s, value ≠ .text s) :
    Opens value.display := by
  cases json with
  | null => exact opens_cons 'N' rfl _
  | bool b =>
    cases b with
    | false => exact opens_cons 'F' rfl _
    | true => exact opens_cons 'T' rfl _
  | int n => exact opens_ofChars (begins_decimalInt n)
  | double x => exact opens_ofChars x.begins_chars
  | text s => exact absurd rfl (other s)
  | list each => exact opens_cons '[' rfl _
  | map distinct each => exact opens_cons '\x7b' rfl _

end Value

/-! ## Names -/

/-- The names of kinds and dialects. -/
def Text.caselessNames : List Text :=
  Kind.all.map Kind.name ++ Dialect.all.map Dialect.name

namespace Text

theorem safe_of_mem_caselessNames : ∀ name ∈ caselessNames, ∀ c ∈ name, c.IsSafe := by
  decide +kernel

theorem fold_of_mem_caselessNames : ∀ name ∈ caselessNames, fold name = name := by
  decide +kernel

/-- No name begins like the text of a value that is not a text. -/
theorem head_ne_of_mayBegin : ∀ code < 0x80, Value.mayBegin (Char.ofNat code) = true →
    ∀ name ∈ caselessNames, name.head? ≠ some (CodePoint.fold (.char (Char.ofNat code))) := by
  decide +kernel

theorem ascii_of_mayBegin {letter : Char} (first : Value.mayBegin letter = true) : letter.toNat < 0x80 := by
  rcases Bool.or_eq_true _ _ ▸ first with digit | listed
  · simp only [isDigit, Bool.and_eq_true, decide_eq_true_eq] at digit
    omega
  · have small : ∀ c ∈ ['N', 'T', 'F', '[', '\x7b', '-', '.', 'e', 'i', 'n'], c.toNat < 0x80 := by simp
    exact small letter (by simpa using listed)

theorem lower_ne_of_opens {text name : Text} (opens : Value.Opens text) (named : name ∈ caselessNames) :
    lower text ≠ name := by
  cases text with
  | nil =>
    rintro rfl
    exact absurd named (by decide)
  | cons c rest =>
    obtain ⟨letter, rfl, first⟩ := opens c rfl
    obtain ⟨small, lowered, same, _⟩ := exists_lowerFrom_cons [] (.char letter) rest
    have ascii := ascii_of_mayBegin first
    have differs := head_ne_of_mayBegin letter.toNat ascii (by rwa [Char.ofNat_toNat]) name named
    rw [Char.ofNat_toNat] at differs
    rintro rfl
    rw [lower, lowered, same ascii] at differs
    exact differs rfl

end Text

/-- A value is a text that is a word up to the case of ASCII letters. -/
def Value.Spells (value : Value) (word : Text) : Prop :=
  ∃ s, value = .text s ∧ Text.fold s = Text.fold word

theorem Value.spells_iff {value : Value} (json : value.IsJson) {name : Text} (named : name ∈ Text.caselessNames) :
    value.Spells name ↔ Text.lower value.display = name := by
  rw [Spells, Text.fold_of_mem_caselessNames name named]
  by_cases text : ∃ s, value = .text s
  · obtain ⟨s, rfl⟩ := text
    rw [display, Text.lower_eq_iff (Text.safe_of_mem_caselessNames name named)]
    simp
  · refine iff_of_false ?_ (Text.lower_ne_of_opens (opens_display json ?_) named)
    · rintro ⟨s, isText, _⟩
      exact text ⟨s, isText⟩
    · intro s isText
      exact text ⟨s, isText⟩

/-! ## Kinds -/

namespace Descriptor

theorem ofName?_eq_some {name : Text} {kind : Kind} : Kind.ofName? name = some kind ↔ name = kind.name := by
  constructor
  · intro found
    have same := List.find?_some found
    exact (eq_of_beq same).symm
  · rintro rfl
    cases kind with
    | sum => rfl
    | record => rfl
    | union => rfl

theorem mem_caselessNames_kind (kind : Kind) : kind.name ∈ Text.caselessNames := by
  cases kind <;> decide

/-- What is decoded once the kind of a type is known. -/
def decodeRest (name : Text) (entries : Entries) (kind : Kind) : Except Fault Descriptor := do
  let variants ← decodeVariants (some (.text name)) ((entries.get? "variants").getD (.list []))
  let visibility ← Visibility.require (visibilityValue (entries.get? "visibility")) (some (.text name))
  return ⟨name, variants, kind, visibility⟩

theorem decodeKind_of_known {value : Value} {kind : Kind} (showable : value.isShowable = true)
    (lowered : Text.lower value.display = kind.name) (type : Option Value) :
    decodeKind type (some value) = .ok kind := by
  have found : Kind.ofName? (Text.lower value.display) = some kind := ofName?_eq_some.mpr lowered
  rw [decodeKind, Option.getD_some, Value.shown, if_pos showable, Outcome.ok_bind]
  simp only [found]
  rfl

/-- A value that cannot be shown, or that is no kind in small letters, is refused. -/
theorem decodeKind_of_unknown {value : Value} (unknown : ∀ kind : Kind, Text.lower value.display ≠ kind.name)
    (type : Option Value) :
    ∃ fault, decodeKind type (some value) = .error fault ∧
      (fault = .range .unshowable ∨
        fault = .descriptor (.unknownKind (Text.lower value.display)) type) := by
  have missed : Kind.ofName? (Text.lower value.display) = none := by
    cases found : Kind.ofName? (Text.lower value.display) with
    | none => rfl
    | some kind => exact absurd (ofName?_eq_some.mp found) (unknown kind)
  rw [decodeKind, Option.getD_some, Value.shown]
  by_cases showable : value.isShowable = true
  · rw [if_pos showable, Outcome.ok_bind]
    simp only [missed]
    exact ⟨_, rfl, .inr rfl⟩
  · rw [if_neg showable]
    exact ⟨_, rfl, .inl rfl⟩

theorem decode_of_named {value : Value} {entries : Entries} {name : Text} (content : value.content = .map entries)
    (named : entries.get? "name" = some (.text name)) (accepted : Identifier.isName name = true) :
    decode value = decodeKind (some (.text name)) (entries.get? "kind") >>= decodeRest name entries := by
  rw [decode_of_mapping content named, require_eq_ok.mpr ⟨rfl, accepted⟩, Outcome.ok_bind]
  rfl

end Descriptor

/-! ## Dialects -/

namespace Options

theorem ofEntries_target (value : Value) :
    ofEntries [(.text "target_dialect", value)] =
      value.shown >>= fun s => .ok { target := .text (Text.lower s) } := by
  have found : Entries.get? [(.text "target_dialect", value)] "target_dialect" = some value :=
    Entries.get?_cons_text _ _ _
  have unset (field : Field) (other : field.name ≠ "target_dialect") :
      field.read [(.text "target_dialect", value)] = .ok (({} : Options).get field) :=
    Field.read_of_none (Entries.get?_cons_of_ne (by simpa using other.symm) value [])
  rw [ofEntries_eq_readAll]
  simp only [readAll, unset .capability (by decide), unset .stem (by decide), unset .entry (by decide),
    unset .mapping (by decide), unset .counter (by decide),
    @Field.read_of_some [(.text "target_dialect", value)] .target value found]
  cases value.shown with
  | error fault => rfl
  | ok s => rfl

theorem mem_caselessNames_dialect (dialect : Dialect) : dialect.name ∈ Text.caselessNames := by
  cases dialect <;> decide

/-- Options of which only the target is given make a recipe for each spelling of a dialect, and for nothing else. -/
theorem check_target_iff {value : Value} (json : value.IsJson) (dialect : Dialect) :
    (∃ recipe, (ofEntries [(.text "target_dialect", value)] >>= check) = .ok recipe ∧ recipe.target = dialect) ↔
      value.Spells dialect.name := by
  have spelled := Value.spells_iff json (mem_caselessNames_dialect dialect)
  rw [ofEntries_target]
  constructor
  · rintro ⟨recipe, accepted, rfl⟩
    obtain ⟨options, read, checked⟩ := Outcome.bind_eq_ok.mp accepted
    obtain ⟨s, shown, same⟩ := Outcome.bind_eq_ok.mp read
    cases same
    have aimed := checkTarget_eq_ok (check_eq_ok.mp checked).2.2.2.2.2.2
    rw [Value.shown] at shown
    split at shown
    · cases shown
      exact spelled.mpr (Value.text.inj aimed)
    · cases shown
  · intro spells
    have lowered := spelled.mp spells
    obtain ⟨s, rfl, _⟩ := spells
    have shown : (Value.text s).shown = .ok s := rfl
    rw [shown, Outcome.ok_bind, Outcome.ok_bind]
    rw [Value.display] at lowered
    rw [lowered]
    cases dialect with
    | rust => exact ⟨_, rfl, rfl⟩
    | python => exact ⟨_, rfl, rfl⟩

end Options

/-! ## What is accepted -/

/-- Kinds and dialects are matched up to the case of ASCII letters. A type gets past the check of its kind exactly if
the kind is such a spelling of a name, and options with a target make a recipe exactly if the target is; no other
value will do, and no text with a code point beyond ASCII. -/
theorem Value.spells_accepted {value : Value} (json : value.IsJson) :
    (∀ type kind, Descriptor.decodeKind type (some value) = .ok kind ↔ value.Spells kind.name) ∧
    (∀ document entries name, Value.content document = .map entries →
      Entries.get? entries "name" = some (.text name) → Identifier.isName name = true →
      Entries.get? entries "kind" = some value →
      (∀ kind : Kind, value.Spells kind.name →
        Descriptor.decode document = Descriptor.decodeRest name entries kind) ∧
      ((∀ kind : Kind, ¬ value.Spells kind.name) →
        ∃ fault, Descriptor.decode document = .error fault ∧
          (fault = .range .unshowable ∨
            fault = .descriptor (.unknownKind (Text.lower value.display)) (some (.text name))))) ∧
    (∀ dialect,
      (∃ recipe, (Options.ofEntries [(.text "target_dialect", value)] >>= Options.check) = .ok recipe ∧
        recipe.target = dialect) ↔ value.Spells dialect.name) ∧
    ∀ name ∈ Text.caselessNames, value.Spells name → ∃ s, value = .text s ∧ ∀ c ∈ s, c.code < 0x80 := by
  have spelled (kind : Kind) := spells_iff json (Descriptor.mem_caselessNames_kind kind)
  have known (type : Option Value) {kind : Kind} (spells : value.Spells kind.name) :
      Descriptor.decodeKind type (some value) = .ok kind := by
    have lowered := (spelled kind).mp spells
    obtain ⟨s, rfl, _⟩ := spells
    exact Descriptor.decodeKind_of_known rfl lowered type
  have unknown (type : Option Value) (none : ∀ kind : Kind, ¬ value.Spells kind.name) :=
    Descriptor.decodeKind_of_unknown (fun kind => mt (spelled kind).mpr (none kind)) type
  refine ⟨fun type kind => ⟨fun accepted => ?_, known type⟩,
    fun document entries name content named accepted given => ?_, Options.check_target_iff json, ?_⟩
  · by_cases spelling : ∃ other : Kind, value.Spells other.name
    · obtain ⟨other, spells⟩ := spelling
      cases (known type spells).symm.trans accepted
      exact spells
    · obtain ⟨fault, failed, _⟩ := unknown type (not_exists.mp spelling)
      cases failed.symm.trans accepted
  · rw [Descriptor.decode_of_named content named accepted, given]
    refine ⟨fun kind spells => ?_, fun none => ?_⟩
    · rw [known _ spells, Outcome.ok_bind]
    · obtain ⟨fault, failed, cause⟩ := unknown (some (.text name)) none
      rw [failed]
      exact ⟨fault, rfl, cause⟩
  · rintro name named ⟨s, rfl, same⟩
    refine ⟨s, rfl, Text.ascii_of_fold same fun d member => ?_⟩
    rw [Text.fold_of_mem_caselessNames name named] at member
    exact (Text.safe_of_mem_caselessNames name named d member).1

/-- Capitals will do for a dialect, and the Kelvin sign for nothing. -/
theorem Value.spells_accepted_python :
    (∃ recipe, (Options.ofEntries [(.text "target_dialect", .text "PyThon")] >>= Options.check) = .ok recipe ∧
      recipe.target = .python) ∧
    ∀ kind, Descriptor.decodeKind none (some (.text [.char (Char.ofNat 0x212A)])) ≠ .ok kind := by
  obtain ⟨_, _, accepted, _⟩ := spells_accepted (.text "PyThon")
  obtain ⟨refused, _, _, ascii⟩ := spells_accepted (.text [.char (Char.ofNat 0x212A)])
  refine ⟨(accepted .python).mpr ⟨_, rfl, by decide⟩, fun kind done => ?_⟩
  obtain ⟨s, same, each⟩ := ascii kind.name (Descriptor.mem_caselessNames_kind kind) ((refused none kind).mp done)
  cases same
  exact absurd (each _ (List.mem_singleton_self _)) (by decide)

end VariantIter
