import VariantIter.Proofs.Configuration
import VariantIter.Proofs.JsonRoundTrip
import VariantIter.Proofs.Showable
import VariantIter.Settings.Save

/-!
Options that are saved as a document.

Options that came from a document in JSON are texts without split pairs, and their target is the name of
a dialect. The document that they are saved as is read back as the same options: every text is shown as
itself, and a variable of the environment that is still set says what it said before. Main statement:
the document of such settings can be written, and the options in it are those of the settings.
-/

namespace VariantIter

/-! ## Texts without split pairs -/

namespace Text

/-- Without high halves there is no pair to be split. -/
theorem unsplit_of_forall {s : Text} (noHigh : ∀ c ∈ s, c.code < 0xD800 ∨ 0xDBFF < c.code) :
    s.Unsplit := by
  induction s with
  | nil => exact .nil
  | cons c s ih =>
    obtain ⟨first, others⟩ := List.forall_mem_cons.mp noHigh
    refine List.isChain_cons.mpr ⟨fun d _ pair => ?_, ih others⟩
    unfold Json.IsPair at pair
    omega

theorem Plain.unsplit {s : Text} (plain : s.Plain) : s.Unsplit := by
  apply unsplit_of_forall
  intro c member
  cases c with
  | char c =>
    have valid := CodePoint.code_char c
    omega
  | surrogate half => cases plain _ member

/-- Halves that stand for bytes are low ones. -/
theorem unsplit_of_nameGap {s : Text} {position : Nat} (bytes : Utf8.nameGap? position s = none) :
    s.Unsplit := by
  apply unsplit_of_forall
  induction s generalizing position with
  | nil => exact nofun
  | cons c s ih =>
    rw [Utf8.nameGap?] at bytes
    split at bytes
    · cases bytes
    · next marked =>
      refine List.forall_mem_cons.mpr ⟨?_, ih bytes⟩
      cases c with
      | char c =>
        have valid := CodePoint.code_char c
        omega
      | surrogate half =>
        simp only [CodePoint.isSurrogate, Utf8.isByteMark, Bool.true_and, Bool.not_eq_true,
          Bool.not_eq_false', Bool.and_eq_true, decide_eq_true_eq] at marked
        omega

theorem isPrintable_surrogate (half : Fin 0x800) : isPrintable (.surrogate half) = false := by
  have hidden : inRanges hiddenRanges (0xD800 + half.val) = true := by
    have range : (0xD7FC, 0xF8FF) ∈ hiddenRanges := by decide
    refine List.any_eq_true.mpr ⟨_, range, ?_⟩
    simp only [Bool.and_eq_true, decide_eq_true_eq]
    omega
  rw [isPrintable, if_neg (by rw [CodePoint.code]; omega), CodePoint.code, hidden]
  rfl

/-- A quoted text shows no half of a pair as itself. -/
theorem plain_literal (s : Text) : (literal s).Plain := by
  have quote : (literalQuote s).isSurrogate = false := by
    unfold literalQuote
    split <;> rfl
  have point (c : CodePoint) : (literalPoint (literalQuote s) c).Plain := by
    unfold literalPoint
    split_ifs with quoted newline carriage tab printable
    · rcases quoted with rfl | rfl
      · exact List.forall_mem_cons.mpr ⟨rfl, List.forall_mem_singleton.mpr rfl⟩
      · exact List.forall_mem_cons.mpr ⟨rfl, List.forall_mem_singleton.mpr quote⟩
    · exact plain_ofString _
    · exact plain_ofString _
    · exact plain_ofString _
    · cases c with
      | char c => exact List.forall_mem_singleton.mpr rfl
      | surrogate half =>
        rw [isPrintable_surrogate] at printable
        cases printable
    · exact plain_ofChars _
  intro c member
  rw [literal, List.cons_append, List.mem_cons, List.mem_append, List.mem_singleton] at member
  rcases member with rfl | inside | rfl
  · exact quote
  · obtain ⟨d, _, among⟩ := List.mem_flatMap.mp inside
    exact point d c among
  · exact quote

end Text

namespace Json

theorem Readable.plain_literalIn {value : Value} (readable : Readable value) :
    (value.literalIn []).Plain := by
  induction readable with
  | null => exact Text.plain_ofString _
  | bool b => cases b <;> exact Text.plain_ofString _
  | int showable => exact Text.plain_ofChars _
  | double x => exact Text.plain_ofChars _
  | text unsplit => exact Text.plain_literal _
  | @list items each ih =>
    have parts : ∀ part ∈ Value.literals [] items, Text.Plain part := by
      clear each
      induction items with
      | nil => exact List.forall_mem_nil _
      | cons item items rest =>
        obtain ⟨first, others⟩ := List.forall_mem_cons.mp ih
        exact List.forall_mem_cons.mpr ⟨first, rest others⟩
    rw [Value.literalIn]
    simp only [Text.plain_append, Text.plain_ofString, true_and, and_true]
    exact (Text.plain_joined (Text.plain_ofString _)).mpr parts
  | @map entries keys values keysPlain valuesPlain =>
    have parts : ∀ part ∈ Value.entryLiterals [] entries, Text.Plain part := by
      clear keys values
      induction entries with
      | nil => exact List.forall_mem_nil _
      | cons entry entries rest =>
        obtain ⟨key, keys⟩ := List.forall_mem_cons.mp keysPlain
        obtain ⟨value, values⟩ := List.forall_mem_cons.mp valuesPlain
        refine List.forall_mem_cons.mpr ⟨?_, rest keys values⟩
        simp only [Text.plain_append, Text.plain_ofString, and_true]
        exact ⟨key, value⟩
    rw [Value.literalIn]
    simp only [Text.plain_append, Text.plain_ofString, true_and, and_true]
    exact (Text.plain_joined (Text.plain_ofString _)).mpr parts

/-- A value that was read is shown without split pairs. -/
theorem Readable.unsplit_display {value : Value} (readable : Readable value) :
    value.display.Unsplit := by
  have plain := readable.plain_literalIn
  cases readable with
  | text unsplit => exact unsplit
  | _ => exact plain.unsplit

/-! ## Sections of a document -/

/-- Entries that were read. -/
def ReadableEntries (entries : Entries) : Prop :=
  ∀ entry ∈ entries, Readable entry.1 ∧ Readable entry.2

theorem Readable.entries {entries : Entries} (readable : Readable (.map entries)) :
    ReadableEntries entries := by
  cases readable with
  | map keys values => exact fun entry member => ⟨keys entry member, values entry member⟩

theorem Readable.content_eq {value : Value} (readable : Readable value) : value.content = value := by
  cases readable <;> rfl

theorem ReadableEntries.get? {entries : Entries} (readable : ReadableEntries entries) {name : Text}
    {value : Value} (found : entries.get? name = some value) : Readable value := by
  induction entries with
  | nil => cases found
  | cons entry entries ih =>
    obtain ⟨key, other⟩ := entry
    obtain ⟨first, others⟩ := List.forall_mem_cons.mp readable
    rw [Entries.get?] at found
    split at found
    · cases found
      exact first.2
    · exact ih others found

theorem ReadableEntries.getD {entries : Entries} (readable : ReadableEntries entries) (name : Text)
    {default : Value} (fallback : Readable default) : Readable ((entries.get? name).getD default) := by
  cases found : entries.get? name with
  | none => exact fallback
  | some value => exact readable.get? found

theorem readable_ofString (s : String) : Readable (.text s) :=
  .text (Text.plain_ofString s).unsplit

/-- What is put under a text is found there, since no key that was read hides behind a label. -/
theorem ReadableEntries.get?_put {entries : Entries} (readable : ReadableEntries entries)
    (name : Text) (value : Value) :
    (entries.put (.text name) value).get? name = some value := by
  induction entries with
  | nil => simp [Entries.put, Entries.get?, Value.isText]
  | cons entry entries ih =>
    obtain ⟨key, other⟩ := entry
    obtain ⟨first, others⟩ := List.forall_mem_cons.mp readable
    have same : key.sameKey (.text name) = key.isText name := by
      cases first.1 <;> simp [Value.sameKey, Value.isText]
    rw [Entries.put, same]
    split
    · next here => rw [Entries.get?, if_pos here]
    · next elsewhere => rw [Entries.get?, if_neg elsewhere, ih others]

theorem Readable.items? {value : Value} (readable : Readable value) {items : List Value}
    (listed : value.items? = some items) : ∀ item ∈ items, Readable item := by
  rw [Value.items?, readable.content_eq] at listed
  cases readable with
  | text unsplit =>
    cases listed
    intro item member
    obtain ⟨c, _, rfl⟩ := List.mem_map.mp member
    exact .text (.singleton c)
  | list each =>
    cases listed
    exact each
  | map keys values =>
    cases listed
    intro item member
    obtain ⟨entry, among, rfl⟩ := List.mem_map.mp member
    exact keys entry among
  | _ => cases listed

end Json

open Json (Readable ReadableEntries)

namespace Settings

theorem readable_of_pairOf {index : Nat} {item : Value} {pair : Value × Value}
    (readable : Readable item) (paired : pairOf index item = .ok pair) :
    Readable pair.1 ∧ Readable pair.2 := by
  unfold pairOf at paired
  split at paired
  · cases paired
  · next key value listed =>
    have parts := readable.items? listed
    split at paired
    · cases paired
    · cases paired
      exact ⟨parts key (by simp), parts value (by simp)⟩
  · cases paired

theorem readable_of_pairsFrom {index : Nat} {items : List Value} {pairs : List (Value × Value)}
    (readable : ∀ item ∈ items, Readable item) (paired : pairsFrom index items = .ok pairs) :
    ReadableEntries pairs := by
  induction items generalizing index pairs with
  | nil =>
    cases paired
    exact nofun
  | cons item items ih =>
    obtain ⟨first, others⟩ := List.forall_mem_cons.mp readable
    obtain ⟨pair, head, paired⟩ := Outcome.bind_eq_ok.mp paired
    obtain ⟨rest, tail, same⟩ := Outcome.bind_eq_ok.mp paired
    cases same
    exact List.forall_mem_cons.mpr ⟨readable_of_pairOf first head, ih others tail⟩

theorem readable_of_entriesOf {part : Value} {entries : Entries} (readable : Readable part)
    (opened : entriesOf part = .ok entries) : ReadableEntries entries := by
  unfold entriesOf at opened
  split at opened
  · cases opened
    exact nofun
  · rw [readable.content_eq] at opened
    split at opened
    · cases opened
      exact readable.entries
    · next items _ listed =>
      obtain ⟨pairs, paired, same⟩ := Outcome.bind_eq_ok.mp opened
      cases same
      exact Entries.forall_ofPairs (readable_of_pairsFrom (readable.items? listed) paired)
    · cases opened

theorem readable_of_readDocument {path : Path} (json : Document.isYaml path = false)
    {content : Content} {data : Entries} (parsed : readDocument path content = .ok data) :
    ReadableEntries data := by
  rw [readDocument, json] at parsed
  cases read : Document.read false content with
  | error problem =>
    rw [read] at parsed
    cases problem <;> cases parsed
  | ok value =>
    rw [read] at parsed
    have readable : Readable value := by
      unfold Document.read at read
      split at read
      · next text _ =>
        rw [Document.parse, if_neg Bool.false_ne_true] at read
        cases found : Json.read (Text.unifyLines text.toList) with
        | error fault =>
          rw [found] at read
          cases read
        | ok value =>
          rw [found] at read
          cases read
          exact Json.readable_of_document found
      · cases read
    simp only [readable.content_eq] at parsed
    split at parsed
    · cases parsed
      exact List.forall_mem_nil _
    · cases parsed
      exact readable.entries
    · cases parsed

end Settings

/-! ## Options of generation -/

namespace Options

/-- All options are texts without split pairs. -/
def Worded (options : Options) : Prop :=
  ∀ entry ∈ options.toEntries, ∃ s : Text, entry.2 = .text s ∧ s.Unsplit

theorem given_eq_ok {entries : Entries} {name default : Text} {value : Value}
    (readable : ReadableEntries entries) (plain : default.Plain)
    (accepted : given entries name (.text default) = .ok value) :
    ∃ s : Text, value = .text s ∧ s.Unsplit := by
  unfold given at accepted
  split at accepted
  · next found =>
    obtain ⟨s, shown, same⟩ := Outcome.bind_eq_ok.mp accepted
    cases same
    refine ⟨s, rfl, ?_⟩
    unfold Value.shown at shown
    split at shown
    · cases shown
      exact (readable.get? found).unsplit_display
    · cases shown
  · cases accepted
    exact ⟨default, rfl, plain.unsplit⟩

/-- A target that is given is a text, like the default. -/
theorem givenTarget_eq_ok {entries : Entries} {default : Text} {value : Value}
    (accepted : givenTarget entries (.text default) = .ok value) : ∃ s : Text, value = .text s := by
  unfold givenTarget at accepted
  split at accepted
  · obtain ⟨s, _, same⟩ := Outcome.bind_eq_ok.mp accepted
    cases same
    exact ⟨Text.lower s, rfl⟩
  · cases accepted
    exact ⟨default, rfl⟩

theorem lower_name (dialect : Dialect) : Text.lower dialect.name = dialect.name := by
  cases dialect <;> decide

/-- Options that are texts are read from their entries as they are, the target in small letters. -/
theorem ofEntries_toEntries (capability stem entry mapping counter target : Text) :
    ofEntries (toEntries ⟨.text capability, .text stem, .text entry, .text mapping, .text counter,
      .text target⟩) =
    .ok ⟨.text capability, .text stem, .text entry, .text mapping, .text counter,
      .text (Text.lower target)⟩ := by
  rfl

theorem put_target (options : Options) (target : Value) :
    options.toEntries.put (.text "target_dialect") target =
      { options with target := target }.toEntries := by
  simp only [toEntries, Entries.put, Value.sameKey]
  rfl

end Options

namespace Settings

/-- The target that a variable of the environment says, if it is not empty. -/
def Agrees (target : Option Text) (dialect : Dialect) : Prop :=
  target.getD [] = [] ∨ Text.lower (target.getD []) = dialect.name

theorem readable_override {entries : Entries} {target : Text} (readable : ReadableEntries entries)
    (unsplit : target.Unsplit) :
    ReadableEntries
      (if target.isEmpty then entries else entries.put (.text "target_dialect") (.text target)) := by
  split
  · exact readable
  · exact Entries.forall_put readable (.text (Text.plain_ofString _).unsplit) (.text unsplit)

theorem worded_of_generationOptions {data : Entries} {target : Option Text} {options : Options}
    (readable : ReadableEntries data) (unsplit : (target.getD []).Unsplit)
    (accepted : generationOptions data target = .ok options) :
    options.Worded ∧ ∃ dialect, options.target = .text dialect.name ∧ Agrees target dialect := by
  obtain ⟨recipe, checked⟩ := check_of_generationOptions accepted
  have shown := Options.checkTarget_eq_ok (Options.check_eq_ok.mp checked).2.2.2.2.2.2
  obtain ⟨entries, opened, accepted⟩ := Outcome.bind_eq_ok.mp accepted
  have part := readable.getD "generation" .null
  have own := readable_of_entriesOf part opened
  have entriesReadable := readable_override own unsplit
  obtain ⟨_, built, accepted⟩ := Outcome.bind_eq_ok.mp accepted
  obtain ⟨_, _, same⟩ := Outcome.bind_eq_ok.mp accepted
  cases same
  obtain ⟨capability, first, built⟩ := Outcome.bind_eq_ok.mp built
  obtain ⟨stem, second, built⟩ := Outcome.bind_eq_ok.mp built
  obtain ⟨entry, third, built⟩ := Outcome.bind_eq_ok.mp built
  obtain ⟨mapping, fourth, built⟩ := Outcome.bind_eq_ok.mp built
  obtain ⟨counter, fifth, built⟩ := Outcome.bind_eq_ok.mp built
  obtain ⟨aim, targeted, built⟩ := Outcome.bind_eq_ok.mp built
  obtain ⟨_, _, same⟩ := Outcome.bind_eq_ok.mp built
  cases same
  have named : aim = .text recipe.target.name := by
    obtain ⟨s, rfl⟩ := Options.givenTarget_eq_ok targeted
    exact shown
  have plain (s : String) := Text.plain_ofString s
  refine ⟨?_, recipe.target, named, ?_⟩
  · simp only [Options.Worded, Options.toEntries, List.forall_mem_cons]
    refine ⟨Options.given_eq_ok entriesReadable (plain _) first,
      Options.given_eq_ok entriesReadable (plain _) second,
      Options.given_eq_ok entriesReadable (plain _) third,
      Options.given_eq_ok entriesReadable (plain _) fourth,
      Options.given_eq_ok entriesReadable (plain _) fifth,
      ⟨_, named, ?_⟩, nofun⟩
    cases recipe.target <;> exact (plain _).unsplit
  · by_cases given : target.getD [] = []
    · exact .inl given
    · right
      rw [Options.givenTarget, if_neg (by simpa using given), own.get?_put] at targeted
      cases targeted
      exact Value.text.inj named

/-- The same options are read from the document that they are saved as. -/
theorem generationOptions_toEntries {settings : Settings} {recipe : Recipe}
    (worded : settings.generation.Worded) (checked : settings.generation.check = .ok recipe)
    {dialect : Dialect} (named : settings.generation.target = .text dialect.name)
    {target : Option Text} (agrees : Agrees target dialect) :
    generationOptions settings.toEntries target = .ok settings.generation := by
  have opened : entriesOf ((settings.toEntries.get? "generation").getD .null) =
      .ok settings.generation.toEntries := rfl
  rw [generationOptions, opened, Outcome.ok_bind]
  simp only [Options.Worded, Options.toEntries, List.forall_mem_cons] at worded
  obtain ⟨⟨capability, first, _⟩, ⟨stem, second, _⟩, ⟨entry, third, _⟩, ⟨mapping, fourth, _⟩,
    ⟨counter, fifth, _⟩, _, _⟩ := worded
  generalize settings.generation = options at *
  obtain ⟨_, _, _, _, _, _⟩ := options
  cases first
  cases second
  cases third
  cases fourth
  cases fifth
  cases named
  by_cases given : target.getD [] = []
  · rw [given]
    simp only [List.isEmpty_nil, if_true]
    rw [Options.ofEntries_toEntries, Options.lower_name, Outcome.ok_bind, checked]
    rfl
  · have lowered := agrees.resolve_left given
    simp only [List.isEmpty_iff, given, if_false]
    rw [Options.put_target, Options.ofEntries_toEntries, lowered, Outcome.ok_bind, checked]
    rfl

end Settings

/-! ## Options of logging -/

/-- Null, truth values, integers and texts. -/
def Value.isScalar : Value → Bool
  | .null => true
  | .bool _ => true
  | .int _ => true
  | .text _ => true
  | _ => false

theorem Json.Readable.storable {value : Value} (readable : Readable value)
    (scalar : value.isScalar = true) (room : Nat) : Json.Storable room value := by
  cases readable with
  | null => exact .null
  | bool b => exact .bool b
  | int showable => exact .int showable
  | text unsplit => exact .text unsplit
  | double x => cases scalar
  | list each => cases scalar
  | map keys values => cases scalar

/-- All options are null, truth values, integers or texts. -/
def LoggingOptions.Scalar (logging : LoggingOptions) : Prop :=
  ∀ entry ∈ logging.toEntries, entry.2.isScalar = true

namespace Settings

/-- The section that options of logging come from. -/
theorem exists_of_loggingOptions {data : Entries} {level : Option Text} {logging : LoggingOptions}
    (readable : ReadableEntries data) (accepted : loggingOptions data level = .ok logging) :
    ∃ entries, ReadableEntries entries ∧
      logging.level = (level.map .text).getD ((Entries.get? entries "level").getD (.text "INFO")) ∧
      logging.enableFile = (Entries.get? entries "enable_file_logging").getD (.bool false) ∧
      logging.file = (Entries.get? entries "log_file").getD (.text "enumerant.log") := by
  unfold loggingOptions at accepted
  simp only at accepted
  split at accepted
  · cases accepted
    exact ⟨[], nofun, by cases level <;> rfl, rfl, rfl⟩
  · cases found : data.get? "logging" with
    | none =>
      rw [found] at accepted
      cases accepted
    | some part =>
      have part' := readable.get? found
      rw [found, Option.getD_some, part'.content_eq] at accepted
      cases part' with
      | @map entries keys values =>
        cases accepted
        have inside : ReadableEntries entries :=
          fun entry member => ⟨keys entry member, values entry member⟩
        exact ⟨entries, inside, by cases level <;> rfl, rfl, rfl⟩
      | _ => cases accepted

theorem readable_of_loggingOptions {data : Entries} {level : Option Text} {logging : LoggingOptions}
    (readable : ReadableEntries data) (unsplit : (level.getD []).Unsplit)
    (accepted : loggingOptions data level = .ok logging) :
    (∀ entry ∈ logging.toEntries, Readable entry.2) ∧
      ∀ text, level = some text → logging.level = .text text := by
  obtain ⟨entries, entriesReadable, severity, switch, place⟩ := exists_of_loggingOptions readable accepted
  refine ⟨?_, ?_⟩
  · simp only [LoggingOptions.toEntries, List.forall_mem_cons, severity, switch, place]
    refine ⟨?_, entriesReadable.getD _ (.bool false),
      entriesReadable.getD _ (Json.readable_ofString _), nofun⟩
    cases level with
    | none => exact entriesReadable.getD _ (Json.readable_ofString _)
    | some text => exact .text unsplit
  · rintro text rfl
    exact severity

/-- The same options are read from the document that they are saved as. -/
theorem loggingOptions_toEntries {settings : Settings} {level : Option Text}
    (agrees : ∀ text, level = some text → settings.logging.level = .text text) :
    loggingOptions settings.toEntries level = .ok settings.logging := by
  cases level with
  | none => rfl
  | some text =>
    have same := agrees text rfl
    rw [loggingOptions]
    change Except.ok (LoggingOptions.mk (.text text) _ _) = _
    rw [← same]
    rfl

/-! ## The document -/

/-- A mapping under names that are told apart. -/
theorem storable_map {room : Nat} {entries : Entries} (names : List Text)
    (keys : entries.map Prod.fst = names.map .text) (plain : ∀ name ∈ names, name.Plain)
    (distinct : names.Nodup) (each : ∀ entry ∈ entries, Json.Storable room entry.2) :
    Json.Storable (room + 1) (.map entries) := by
  refine .map (fun entry member => ?_) ?_ each
  · have among : entry.1 ∈ names.map .text := keys ▸ List.mem_map_of_mem member
    obtain ⟨name, given, same⟩ := List.mem_map.mp among
    exact ⟨name, same.symm, (plain name given).unsplit⟩
  · rw [keys]
    exact distinct.map fun _ _ => Value.text.inj

theorem storable_toEntries {settings : Settings} (worded : settings.generation.Worded)
    (readable : ∀ entry ∈ settings.logging.toEntries, Readable entry.2)
    (scalar : settings.logging.Scalar) (room : Nat) :
    Json.Storable (room + 1 + 1) (.map settings.toEntries) := by
  have generation : Json.Storable (room + 1) (.map settings.generation.toEntries) := by
    refine storable_map Options.names rfl (by decide) (by decide) fun entry member => ?_
    obtain ⟨s, same, unsplit⟩ := worded entry member
    exact same ▸ .text unsplit
  have logging : Json.Storable (room + 1) (.map settings.logging.toEntries) :=
    storable_map ["level", "enable_file_logging", "log_file"] rfl (by decide) (by decide)
      fun entry member => (readable entry member).storable (scalar entry member) room
  have word (s : String) : Json.Storable (room + 1) (.text s) := .text (Text.plain_ofString s).unsplit
  refine storable_map ["version", "description", "generation", "logging"] rfl (by decide)
    (by decide) ?_
  simp only [toEntries, List.forall_mem_cons]
  exact ⟨word _, word _, generation, logging, nofun⟩

/-- The settings can be written in JSON, and are read back entry by entry as long as nothing follows
them. -/
theorem exists_document {settings : Settings} (json : Document.isYaml settings.file = false)
    (storable : Json.Storable Json.maxDepth (.map settings.toEntries)) :
    ∃ text, settings.document = (text, none) ∧
      readDocument settings.file (.text text) = .ok settings.toEntries ∧
      ∀ rest, Json.EndsNumber rest → Json.skipSpace rest ≠ [] → '\r' ∉ rest →
        ∃ fault, readDocument settings.file (.text (text ++ String.ofList rest)) = .error fault := by
  obtain ⟨text, written, parsed⟩ := storable.parse_write
  refine ⟨text, ?_, ?_, fun rest ends more oneEnd => ?_⟩
  · rw [document, json, written]
    rfl
  · have read : Document.read false (.text text) = .ok (.map settings.toEntries) := parsed
    rw [readDocument, json, read]
    rfl
  · obtain ⟨detail, refused⟩ := storable.parse_append written ends more oneEnd
    have read : Document.read false (.text (text ++ String.ofList rest)) =
        .error (.unreadable detail) := refused
    rw [readDocument, json, read]
    exact ⟨_, rfl⟩

end Settings

end VariantIter
