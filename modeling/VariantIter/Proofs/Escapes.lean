import VariantIter.Descriptor.Load
import VariantIter.Proofs.Attribution
import VariantIter.Proofs.JsonStops
import VariantIter.Proofs.Surroundings
import VariantIter.Proofs.YamlFaults

/-!
Faults of descriptor files that are not about descriptors.

A file that is not encoded as it should be, a malformed text, and a document without descriptors are all
reported as faults about descriptors. But a reader also stops at some texts that are well formed, and
then its own fault goes out as it is. Main statement: these faults are exactly the ones that escape, and
in the text there is always something they come from: too many digits, too many collections inside of
each other, or in YAML an escape or a scalar that stands for nothing.
-/

namespace VariantIter

open Outcome

/-! ## Faults of decoding -/

namespace Descriptor

/-- A fault of a document tells about one of its entries, or about none. -/
theorem tells_of_decodeDocument {value : Value} {fault : Fault}
    (failed : decodeDocument value = .error fault) :
    ∃ name : Option Text, fault.Tells (name.map .text) (value.isShowable = true) := by
  cases found : entries? value with
  | none =>
    obtain ⟨cause, refused, shown⟩ := decodeDocument_without_entries found
    cases refused.symm.trans failed
    exact ⟨none, .inl ⟨cause, rfl, fun _ => shown⟩⟩
  | some entries =>
    obtain ⟨entry, first⟩ := (decodeDocument_eq_error found).mp failed
    have tells := decodes_decode.error first.2
    exact ⟨entryName? entry,
      tells.of_part fun showable => showable_of_entries showable found entry first.1.mem⟩

end Descriptor

/-! ## Faults of readers -/

namespace Document

/-- A fault that is not about descriptors, and is reported as it is. -/
def IsOther (fault : Fault) : Prop :=
  fault.reported = fault ∧ ∀ cause type, fault ≠ .descriptor cause type

theorem isOther_of_ofJsonFault {cause : Json.Fault} {fault : Fault}
    (stops : ofJsonFault cause = .fault fault) : IsOther fault := by
  unfold ofJsonFault at stops
  split at stops
  · cases stops
  all_goals
    cases stops
    exact ⟨rfl, nofun⟩

theorem isOther_of_ofYamlFault {cause : Yaml.Fault} {fault : Fault}
    (stops : ofYamlFault cause = .fault fault) : IsOther fault := by
  unfold ofYamlFault at stops
  split at stops
  · cases stops
  · cases stops
    split
    · exact ⟨rfl, nofun⟩
    · exact ⟨rfl, nofun⟩
  all_goals
    cases stops
    exact ⟨rfl, nofun⟩

/-- A reader's own fault comes from a text that it stops at. -/
theorem read_eq_fault {yaml : Bool} {content : Content} {fault : Fault} :
    read yaml content = .error (.fault fault) ↔
      ∃ text, content.read = .ok text ∧ parse yaml text = .error (.fault fault) := by
  unfold read
  cases content.read with
  | ok text => simp
  | error cause => simp

theorem read_eq_ok {yaml : Bool} {content : Content} {value : Value} :
    read yaml content = .ok value ↔ ∃ text, content.read = .ok text ∧ parse yaml text = .ok value := by
  unfold read
  cases content.read with
  | ok text => simp
  | error cause => simp

end Document

namespace Descriptor

/-- A fault that goes out of a text as it is: the fault of a reader that is not about a malformed text,
or that an integer of a YAML document has too many digits for the message that should show it. -/
inductive Escapes : (yaml : Bool) → List Char → Fault → Prop
  | json {cs : List Char} {cause : Json.Fault} {fault : Fault} (stopped : Json.read cs = .error cause)
      (other : Document.ofJsonFault cause = .fault fault) : Escapes false cs fault
  | yaml {cs : List Char} {cause : Yaml.Fault} {fault : Fault} (stopped : Yaml.read cs = .error cause)
      (other : Document.ofYamlFault cause = .fault fault) : Escapes true cs fault
  | hidden {cs : List Char} {document : Value} {fault : Fault} (read : Yaml.read cs = .ok document)
      (failed : decodeDocument document = .error fault)
      (hides : fault.reported = .range .unshowable) : Escapes true cs (.range .unshowable)

/-- What a fault that escapes comes from, in a text in JSON. -/
inductive ComesFromJson (cs : List Char) : Fault → Prop
  | digits {run : List Char} (inside : run <:+: cs) (each : ∀ c ∈ run, Text.isDigit c = true)
      (many : Number.maxDigits < run.length) :
      ComesFromJson cs (.range (.integer (.tooManyDigits run.length)))
  | depth {cause : DepthFault} (deep : Json.maxDepth < Json.openings cs) :
      ComesFromJson cs (.depth cause)

/-- What a fault that escapes comes from, in a text in YAML. -/
inductive ComesFromYaml (cs : List Char) : Fault → Prop
  | spelled {cause : Yaml.Fault} {fault : Fault} (spelled : cause.Spelled cs)
      (other : Document.ofYamlFault cause = .fault fault) : ComesFromYaml cs fault
  | scalar {nodes : Yaml.Nodes} {document : Nat} {cause : Yaml.Fault} {fault : Fault}
      (composed : Yaml.compose cs = .ok (nodes, some document)) (misspells : Yaml.Misspells nodes cause)
      (other : Document.ofYamlFault cause = .fault fault) : ComesFromYaml cs fault
  | depth (crowded : Yaml.Crowded cs) : ComesFromYaml cs (.depth .value)
  | integer {document : Value} (read : Yaml.read cs = .ok document)
      (long : document.isShowable = false) : ComesFromYaml cs (.range .unshowable)

variable {cs : List Char} {fault : Fault}

theorem Escapes.isOther {yaml : Bool} (escapes : Escapes yaml cs fault) : Document.IsOther fault := by
  cases escapes with
  | json stopped other => exact Document.isOther_of_ofJsonFault other
  | yaml stopped other => exact Document.isOther_of_ofYamlFault other
  | hidden read failed hides => exact ⟨rfl, nofun⟩

theorem Escapes.comesFromJson (escapes : Escapes false cs fault) : ComesFromJson cs fault := by
  cases escapes with
  | @json _ cause _ stopped other =>
    unfold Json.read at stopped
    split at stopped
    · cases stopped
    · next found =>
      cases stopped
      cases other
      obtain ⟨many, run, inside, rfl, digits⟩ := Json.shown_of_readDocument found
      exact .digits inside digits many
    · next nest found =>
      cases stopped
      have deep : Json.maxDepth < Json.openings cs := by
        simpa [Json.Stop.Shown] using Json.shown_of_readDocument found
      cases nest with
      | list =>
        cases other
        exact .depth deep
      | mapping =>
        cases other
        exact .depth deep
    · cases stopped
      cases other

theorem Escapes.comesFromYaml (escapes : Escapes true cs fault) : ComesFromYaml cs fault := by
  cases escapes with
  | yaml stopped other =>
    rcases Yaml.read_eq_error stopped with ⟨malformed, rfl⟩ | ⟨rfl, crowded⟩ | spelled |
      ⟨nodes, document, composed, misspells⟩
    · cases other
    · cases other
      exact .depth crowded
    · exact .spelled spelled other
    · exact .scalar composed misspells other
  | @hidden _ document cause read failed hides =>
    refine .integer read ?_
    rw [Bool.eq_false_iff]
    intro showable
    obtain ⟨name, tells⟩ := tells_of_decodeDocument failed
    have names := tells.names showable
    obtain ⟨_, rfl, _⟩ := id names
    cases names.reported_eq.symm.trans hides

/-! ## Files -/

theorem escapes_of_parse {yaml : Bool} {text : String}
    (stopped : Document.parse yaml text = .error (.fault fault)) :
    Escapes yaml (Text.unifyLines text.toList) fault := by
  cases yaml with
  | true =>
    obtain ⟨cause, stopped, other⟩ := mapError_eq_error.mp stopped
    exact .yaml stopped other
  | false =>
    obtain ⟨cause, stopped, other⟩ := mapError_eq_error.mp stopped
    exact .json stopped other

variable {path : Path} {content : Content}

theorem readDocument_eq_ok {document : Value} :
    readDocument path content = .ok document ↔
      Document.read (Document.isYaml path) content = .ok document := by
  unfold readDocument
  split
  · next read => simp [read]
  · next read => simp [read]
  · next read => simp [read]

/-- A fault of reading that is not about descriptors escapes. -/
theorem escapes_of_readDocument (stopped : readDocument path content = .error fault)
    (other : ∀ cause type, fault.reported ≠ .descriptor cause type) :
    ∃ text, content.read = .ok text ∧
      Escapes (Document.isYaml path) (Text.unifyLines text.toList) fault.reported := by
  unfold readDocument at stopped
  split at stopped
  · cases stopped
  · cases stopped
    exact absurd rfl (other _ _)
  · next unread =>
    cases stopped
    obtain ⟨text, decoded, parsed⟩ := Document.read_eq_fault.mp unread
    have escapes := escapes_of_parse parsed
    rw [escapes.isOther.1]
    exact ⟨text, decoded, escapes⟩

/-- Only what cannot be shown makes a fault of decoding one that is not about descriptors. -/
theorem hides_of_decodeDocument {document : Value} (failed : decodeDocument document = .error fault)
    (other : ∀ cause type, fault.reported ≠ .descriptor cause type) :
    fault.reported = .range .unshowable := by
  obtain ⟨name, ⟨cause, rfl, _⟩ | ⟨rfl, _⟩⟩ := tells_of_decodeDocument failed
  · unfold Fault.reported at other ⊢
    split
    · next shown =>
      rw [if_pos shown] at other
      exact absurd rfl (other cause _)
    · rfl
  · rfl

/-- A fault of decoding that is not about descriptors escapes, and only in YAML. -/
theorem escapes_of_decodeDocument {document : Value} (read : readDocument path content = .ok document)
    (failed : decodeDocument document = .error fault)
    (other : ∀ cause type, fault.reported ≠ .descriptor cause type) :
    ∃ text, content.read = .ok text ∧
      Escapes (Document.isYaml path) (Text.unifyLines text.toList) fault.reported := by
  have hides := hides_of_decodeDocument failed other
  obtain ⟨text, decoded, parsed⟩ := Document.read_eq_ok.mp (readDocument_eq_ok.mp read)
  refine ⟨text, decoded, ?_⟩
  cases yaml : Document.isYaml path with
  | true =>
    rw [yaml] at parsed
    rw [hides]
    exact .hidden (mapError_eq_ok.mp parsed) failed hides
  | false =>
    rw [yaml] at parsed
    have showable := Json.isShowable_of_document (mapError_eq_ok.mp parsed)
    obtain ⟨name, tells⟩ := tells_of_decodeDocument failed
    have names := tells.names showable
    obtain ⟨cause, rfl, _⟩ := id names
    exact absurd names.reported_eq (other _ _)

/-- A fault that escapes from the text of a file is what reading and decoding it end with. -/
theorem Escapes.exists_fault {text : String} (decoded : content.read = .ok text)
    (escapes : Escapes (Document.isYaml path) (Text.unifyLines text.toList) fault) :
    ∃ cause, readDocument path content >>= decodeDocument = .error cause ∧ cause.reported = fault := by
  have isOther := escapes.isOther
  generalize kind : Document.isYaml path = yaml at escapes
  cases escapes with
  | json stopped other =>
    have parsed : Document.parse false text = .error (.fault fault) :=
      mapError_eq_error.mpr ⟨_, stopped, other⟩
    have unread := Document.read_eq_fault.mpr ⟨text, decoded, parsed⟩
    refine ⟨fault, bind_eq_error.mpr (.inl ?_), isOther.1⟩
    rw [readDocument, kind, unread]
  | yaml stopped other =>
    have parsed : Document.parse true text = .error (.fault fault) :=
      mapError_eq_error.mpr ⟨_, stopped, other⟩
    have unread := Document.read_eq_fault.mpr ⟨text, decoded, parsed⟩
    refine ⟨fault, bind_eq_error.mpr (.inl ?_), isOther.1⟩
    rw [readDocument, kind, unread]
  | hidden read failed hides =>
    have parsed : Document.parse true text = .ok _ := mapError_eq_ok.mpr read
    have given := readDocument_eq_ok.mpr (kind ▸ Document.read_eq_ok.mpr ⟨text, decoded, parsed⟩)
    exact ⟨_, bind_eq_error.mpr (.inr ⟨_, given, failed⟩), hides⟩

/-- How loading ends depends on the content of the file and on its name alone. -/
theorem load_outcome {name : Text} {world : World}
    (held : Action.read (Path.ofText name) world = (.ok content, world)) :
    (load name world).1 =
      (readDocument (Path.ofText name) content >>= decodeDocument).mapError Fault.reported := by
  unfold load
  rw [Action.bind_of_ok held]
  cases readDocument (Path.ofText name) content with
  | error fault => rfl
  | ok document =>
    have given : Action.ofExcept (.ok document) world = (.ok document, world) := rfl
    rw [ok_bind, Action.bind_of_ok given]
    cases decodeDocument document with
    | error fault => rfl
    | ok descriptors => rfl

/-- One file in the working directory, and nothing else. -/
def fileAlone (name : Text) (content : Content) : World :=
  { tree := ⟨[([name], .file content)]⟩ }

/-- Loading the descriptors of a file ends with a fault that is not about descriptors exactly if the
fault escapes from the text of the file, whatever bytes the file holds. Such a fault always comes from
something in the text. -/
theorem load_faults {name : Text} {world : World} {content : Content}
    (held : Action.read (Path.ofText name) world = (.ok content, world)) :
    (∀ fault,
      ((load name world).1 = .error fault ∧ ∀ cause type, fault ≠ .descriptor cause type) ↔
        ∃ text, content.read = .ok text ∧
          Escapes (Document.isYaml (Path.ofText name)) (Text.unifyLines text.toList) fault) ∧
    (∀ cs fault, Escapes false cs fault → ComesFromJson cs fault) ∧
    ∀ cs fault, Escapes true cs fault → ComesFromYaml cs fault := by
  refine ⟨fun fault => ⟨?_, ?_⟩, fun _ _ => Escapes.comesFromJson, fun _ _ => Escapes.comesFromYaml⟩
  · rintro ⟨failed, other⟩
    rw [load_outcome held] at failed
    obtain ⟨cause, ended, rfl⟩ := mapError_eq_error.mp failed
    rcases bind_eq_error.mp ended with stopped | ⟨document, read, refused⟩
    · exact escapes_of_readDocument stopped other
    · exact escapes_of_decodeDocument read refused other
  · rintro ⟨text, decoded, escapes⟩
    refine ⟨?_, escapes.isOther.2⟩
    rw [load_outcome held]
    exact mapError_eq_error.mpr (escapes.exists_fault decoded)

/-- A list that is not closed. -/
def unclosed : String :=
  "[\x7b\"name\": 7\x7d"

/-- A short text in JSON holds nothing that a fault could escape by. -/
theorem load_faults_unclosed :
    Action.read (Path.ofText "t.json") (fileAlone "t.json" (.text unclosed)) =
        (.ok (.text unclosed), fileAlone "t.json" (.text unclosed)) ∧
      ((∃ descriptors, (load "t.json" (fileAlone "t.json" (.text unclosed))).1 = .ok descriptors) ∨
        ∃ cause type, (load "t.json" (fileAlone "t.json" (.text unclosed))).1 =
          .error (.descriptor cause type)) := by
  have held : Action.read (Path.ofText "t.json") (fileAlone "t.json" (.text unclosed)) =
      (.ok (.text unclosed), fileAlone "t.json" (.text unclosed)) := by cbv
  have json : Document.isYaml (Path.ofText "t.json") = false := by cbv
  have short : (Text.unifyLines unclosed.toList).length = 12 := by cbv
  refine ⟨held, ?_⟩
  obtain ⟨escaping, fromJson, _⟩ := load_faults held
  cases ended : (load "t.json" (fileAlone "t.json" (.text unclosed))).1 with
  | ok descriptors => exact .inl ⟨descriptors, rfl⟩
  | error fault =>
    by_contra! other
    obtain ⟨text, read, escapes⟩ := (escaping fault).mp ⟨ended, fun cause type same =>
      other.2 cause type (congrArg Except.error same)⟩
    cases read
    rw [json] at escapes
    cases fromJson _ _ escapes with
    | @digits run inside each many =>
      have fits := inside.length_le
      rw [short] at fits
      exact absurd many (by unfold Number.maxDigits; omega)
    | depth deep =>
      have fits : Json.openings (Text.unifyLines unclosed.toList) ≤ 12 :=
        short ▸ List.countP_le_length
      exact absurd deep (by unfold Json.maxDepth; omega)

/-- A day in a month that no year has is well formed, and its fault is not about descriptors. -/
theorem load_thirteenthMonth :
    (load "t.yaml" (fileAlone "t.yaml" (.text "2020-13-01\n"))).1 =
      .error (.range (.calendar .month)) := by
  have held : Action.read (Path.ofText "t.yaml") (fileAlone "t.yaml" (.text "2020-13-01\n")) =
      (.ok (.text "2020-13-01\n"), fileAlone "t.yaml" (.text "2020-13-01\n")) := by cbv
  have yaml : Document.isYaml (Path.ofText "t.yaml") = true := by cbv
  have stopped : Yaml.read (Text.unifyLines "2020-13-01\n".toList) = .error (.calendar .month) := by
    cbv
  have escapes : Escapes (Document.isYaml (Path.ofText "t.yaml"))
      (Text.unifyLines "2020-13-01\n".toList) (.range (.calendar .month)) :=
    yaml ▸ .yaml stopped rfl
  rw [load_outcome held]
  exact mapError_eq_error.mpr (escapes.exists_fault rfl)

end Descriptor

end VariantIter
