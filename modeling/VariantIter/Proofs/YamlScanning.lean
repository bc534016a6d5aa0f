import Mathlib.Data.List.Infix
import Mathlib.Data.List.TakeWhile
import VariantIter.Proofs.Outcome
import VariantIter.Yaml.Token

/-!
Where finding the tokens of YAML ends.

The place where tokens are looked for only moves forward, so it stays in the text. Main statement: where
finding tokens ends at something else than a malformed text, the text shows why. It holds an escape with
the number of no code point, or a run of digits that is too long.
-/

namespace VariantIter.Yaml

open Outcome

/-- What a place has left is an end of the text. -/
def Cursor.In (cs : List Char) (cursor : Cursor) : Prop :=
  cursor.rest <:+ cs

/-- A fault that the characters of a text show. -/
inductive Fault.Spelled (cs : List Char) : Fault → Prop
  | codePoint {mark : Char} {digits : List Char} (inside : '\\' :: mark :: digits <:+: cs)
      (width : escapeWidths.lookup mark = some digits.length)
      (each : digits.all Text.isHexDigit = true) (beyond : 0x10FFFF < Text.readDigits 16 digits) :
      Spelled cs (.codePoint (Text.readDigits 16 digits))
  | digits {run : List Char} (inside : run <:+: cs) (each : ∀ c ∈ run, Text.isDigit c = true)
      (many : Number.maxDigits < run.length) : Spelled cs (.integer (.tooManyDigits run.length))

/-- The text is malformed, or shows the fault. -/
def Halt.Spelled (cs : List Char) : Halt → Prop
  | .malformed _ => True
  | .fault cause _ => cause.Spelled cs

/-- Reading ends at a place in the text, or where the text shows why. -/
def Reads {α : Type} (cs : List Char) : Except Halt (α × Cursor) → Prop :=
  Ends (fun read => read.2.In cs) (Halt.Spelled cs)

variable {cs : List Char} {cursor after : Cursor}

/-! ## Places -/

namespace Cursor.In

theorem next (inside : cursor.In cs) : cursor.next.In cs := by
  unfold Cursor.next
  split
  · exact inside
  · next c rest found =>
    have suffix : rest <:+ cs := (List.suffix_cons c rest).trans (found ▸ inside)
    split
    · exact suffix
    · split
      · exact suffix
      · exact suffix

theorem skip (inside : cursor.In cs) (n : Nat) : (cursor.skip n).In cs := by
  induction n generalizing cursor with
  | zero => exact inside
  | succ n ih => exact ih inside.next

theorem span (inside : cursor.In cs) (p : Char → Bool) : (cursor.span p).2.In cs :=
  inside.skip _

theorem skipWhile (inside : cursor.In cs) (p : Char → Bool) : (cursor.skipWhile p).In cs :=
  inside.span p

theorem skipSpaces (inside : cursor.In cs) : cursor.skipSpaces.In cs :=
  inside.skipWhile _

theorem skipComment (inside : cursor.In cs) : cursor.skipComment.In cs := by
  unfold Cursor.skipComment
  split
  · exact inside.skipWhile _
  · exact inside

theorem lineEnd (inside : cursor.In cs) : cursor.lineEnd.2.In cs := by
  unfold Cursor.lineEnd
  split
  · exact inside
  · split
    · exact inside.next
    · split
      · exact inside.next
      · exact inside

theorem of_lineEnd {text : List Char} (inside : cursor.In cs)
    (ended : cursor.lineEnd = (text, after)) : after.In cs := by
  have moved := inside.lineEnd
  rwa [ended] at moved

theorem skipLine (inside : cursor.In cs) (otherwise : Malformed) :
    Ends (Cursor.In cs) (Halt.Spelled cs) (cursor.skipLine otherwise) := by
  unfold Cursor.skipLine
  simp only
  split
  · exact inside.skipSpaces.skipComment.lineEnd
  · trivial

end Cursor.In

/-! ## Scalars -/

theorem in_plainBreaks {breaks : List Char} {fuel : Nat} {text : Option (List Char)}
    (inside : cursor.In cs) (read : plainBreaks breaks fuel cursor = (text, after)) :
    after.In cs := by
  induction fuel generalizing breaks cursor with
  | zero =>
    cases read
    exact inside
  | succ fuel ih =>
    unfold plainBreaks at read
    split at read
    · exact ih inside.next read
    · split at read
      · simp only at read
        split at read
        · cases read
          exact inside.lineEnd
        · exact ih inside.lineEnd read
      · cases read
        exact inside
    · cases read
      exact inside

theorem in_plainGap (inside : cursor.In cs) : (plainGap cursor).2.2.In cs := by
  have spaced := inside.span (· == ' ')
  unfold plainGap
  simp only
  split
  · exact spaced
  · split
    · split
      · exact spaced.lineEnd
      · split
        · next read => exact in_plainBreaks spaced.lineEnd read
        · next read => exact in_plainBreaks spaced.lineEnd read
    · exact spaced

theorem in_plainFrom {flow : Bool} {indent : Int} {reversed gap : List Char} {crossed : Bool}
    {fuel : Nat} (inside : cursor.In cs) :
    (plainFrom flow indent reversed gap crossed fuel cursor).2.2.In cs := by
  induction fuel generalizing reversed gap crossed cursor with
  | zero => exact inside
  | succ fuel ih =>
    unfold plainFrom
    simp only
    split
    · exact inside
    · split
      · exact inside
      · split
        · exact in_plainGap (inside.skip _)
        · exact ih (in_plainGap (inside.skip _))

theorem in_plain (inside : cursor.In cs) (flow : Bool) (indent : Int) :
    (plain flow indent cursor).2.2.In cs :=
  in_plainFrom inside

theorem reads_quotedBreaks {breaks : List Char} {fuel : Nat} (inside : cursor.In cs) :
    Reads cs (quotedBreaks breaks fuel cursor) := by
  induction fuel generalizing breaks cursor with
  | zero => exact inside
  | succ fuel ih =>
    unfold quotedBreaks
    split
    · trivial
    · simp only
      have blanks := inside.skipWhile fun c => c == ' ' || c == '\t'
      split
      · next ended => exact blanks.of_lineEnd ended
      · next ended => exact ih (blanks.of_lineEnd ended)

/-- Only a number beyond the last code point has none. -/
theorem lt_of_ofCode?_eq_none {code : Nat} (none : CodePoint.ofCode? code = Option.none) :
    0x10FFFF < code := by
  unfold CodePoint.ofCode? at none
  split at none
  · cases none
  · split at none
    · cases none
    · omega

theorem reads_quotedEscape (inside : '\\' :: cursor.rest <:+ cs) : Reads cs (quotedEscape cursor) := by
  have here : cursor.In cs := (List.suffix_cons '\\' cursor.rest).trans inside
  unfold quotedEscape
  split
  · trivial
  · next c rest found =>
    split
    · exact here.next
    · next width _ wide =>
      simp only
      split
      · next digits =>
        split
        · exact here.skip _
        · next beyond =>
          have length : (rest.take width).length = width := digits.1
          have start : '\\' :: c :: rest.take width <+: '\\' :: c :: rest :=
            List.take_prefix (width + 2) ('\\' :: c :: rest)
          have spelled : '\\' :: c :: rest.take width <:+: cs :=
            start.isInfix.trans (found ▸ inside).isInfix
          exact Fault.Spelled.codePoint spelled (length.symm ▸ wide) digits.2
            (lt_of_ofCode?_eq_none beyond)
      · trivial
    · split
      · exact ends_map.mpr (reads_quotedBreaks here.lineEnd)
      · trivial

theorem reads_quotedGap (inside : cursor.In cs) : Reads cs (quotedGap cursor) := by
  have blanks := inside.span fun c => c == ' ' || c == '\t'
  unfold quotedGap
  simp only
  split
  · next ended => exact blanks.of_lineEnd ended
  · next ended => exact ends_map.mpr (reads_quotedBreaks (blanks.of_lineEnd ended))

theorem reads_quotedFrom {quote : Char} {reversed : Text} {fuel : Nat} (inside : cursor.In cs) :
    Reads cs (quotedFrom quote reversed fuel cursor) := by
  induction fuel generalizing reversed cursor with
  | zero => trivial
  | succ fuel ih =>
    unfold quotedFrom
    split
    · trivial
    · next c rest found =>
      split
      · split
        · exact ih (inside.skip 2)
        · exact inside.next
      · split
        · next escape =>
          have backslash : c = '\\' := by simp_all
          have moved : cursor.next.rest = rest := by
            rw [Cursor.next, found, backslash]
            rfl
          have after : '\\' :: cursor.next.rest <:+ cs := by
            rw [moved, ← backslash, ← found]
            exact inside
          exact Ends.bind (reads_quotedEscape after) fun _ moved => ih moved
        · split
          · exact Ends.bind (reads_quotedGap inside) fun _ moved => ih moved
          · exact ih inside.next

theorem reads_quoted (inside : cursor.In cs) (quote : Char) : Reads cs (quoted quote cursor) :=
  reads_quotedFrom inside.next

theorem reads_blockHeader (inside : cursor.In cs) :
    Ends (fun header => header.2.2.In cs) (Halt.Spelled cs) (blockHeader cursor) := by
  unfold blockHeader
  simp only
  refine ends_ite (fun _ => trivial) fun _ => ?_
  change Cursor.In cs (Prod.snd (Prod.snd _))
  split
  · exact inside
  · split
    · split
      · exact inside.skip 2
      · exact inside.next
    · split
      · exact inside.skip 2
      · exact inside.next
    · exact inside

theorem in_blockStart {breaks : List Char} {widest fuel : Nat} (inside : cursor.In cs) :
    (blockStart breaks widest fuel cursor).2.2.In cs := by
  induction fuel generalizing breaks widest cursor with
  | zero => exact inside
  | succ fuel ih =>
    unfold blockStart
    split
    · exact ih inside.next
    · split
      · next ended => exact inside.of_lineEnd ended
      · next ended => exact ih (inside.of_lineEnd ended)

theorem in_skipIndent (inside : cursor.In cs) (indent : Nat) : (skipIndent indent cursor).In cs :=
  inside.skip _

theorem in_blockBreaks {indent : Nat} {breaks : List Char} {fuel : Nat} (inside : cursor.In cs) :
    (blockBreaks indent breaks fuel cursor).2.In cs := by
  induction fuel generalizing breaks cursor with
  | zero => exact inside
  | succ fuel ih =>
    have indented := in_skipIndent inside indent
    unfold blockBreaks
    split
    · next ended => exact indented.of_lineEnd ended
    · next ended => exact ih (indented.of_lineEnd ended)

theorem in_blockLines {folded : Bool} {indent : Nat} {text breaks : List Char} {fuel : Nat}
    (inside : cursor.In cs) : (blockLines folded indent text breaks fuel cursor).2.2.2.In cs := by
  induction fuel generalizing text breaks cursor with
  | zero => exact inside
  | succ fuel ih =>
    have line := (inside.span fun c => !isBreak c).lineEnd
    unfold blockLines
    simp only
    split
    · split
      · exact ih (in_blockBreaks line)
      · exact in_blockBreaks line
    · exact inside

theorem reads_block (inside : cursor.In cs) (folded : Bool) (parent : Int) :
    Reads cs (block folded parent cursor) := by
  unfold block
  refine Ends.bind (reads_blockHeader inside.next) fun (chomp, increment, cursor) inside => ?_
  refine Ends.bind (Cursor.In.skipLine inside .invalidBlockHeader) fun start started => ?_
  simp only
  cases increment with
  | none => exact in_blockLines (in_blockStart started)
  | some n => exact in_blockLines (in_blockBreaks started)

/-! ## Directives, anchors and tags -/

namespace Scanner

theorem reads_tagUri (inside : cursor.In cs) : Reads cs (tagUri cursor) := by
  unfold tagUri
  simp only
  split
  · exact inside.span _
  · trivial

theorem reads_tagHandle (inside : cursor.In cs) : Reads cs (tagHandle cursor) := by
  unfold tagHandle
  split
  · exact inside.next
  · simp only
    split
    · exact inside.skip _
    · trivial
  · trivial

theorem reads_versionNumber (inside : cursor.In cs) : Reads cs (versionNumber cursor) := by
  unfold versionNumber
  simp only
  split
  · trivial
  · split
    · next many =>
      have digits : (cursor.span Text.isDigit).1 <:+: cs :=
        (List.takeWhile_prefix Text.isDigit).isInfix.trans inside.isInfix
      exact Fault.Spelled.digits digits (fun c member => List.mem_takeWhile_imp member) many
    · exact inside.span _

theorem reads_directive (inside : cursor.In cs) : Reads cs (directive cursor) := by
  have named := inside.next.span isWordChar
  have finish (token : Token) {place : Cursor} (inside : place.In cs) :
      Reads cs (do return (token, ← place.skipLine .invalidDirective)) :=
    Ends.bind (inside.skipLine _) fun _ moved => moved
  unfold directive
  simp only
  refine ends_ite (fun _ => trivial) fun _ => ends_ite (fun _ => ?version) fun _ =>
    ends_ite (fun _ => ?handle) fun _ => finish .otherDirective (named.skipWhile _)
  case version =>
    refine Ends.bind (reads_versionNumber named.skipSpaces) fun (major, place) inside => ?_
    simp only
    split
    · refine Ends.bind (reads_versionNumber (Cursor.In.next inside)) fun (_, place) inside => ?_
      exact ends_ite (fun _ => trivial) fun _ => finish (.versionDirective major) inside
    · trivial
  case handle =>
    refine Ends.bind (reads_tagHandle named.skipSpaces) fun (handle, place) inside => ?_
    refine ends_ite (fun _ => trivial) fun _ => ?_
    refine Ends.bind (reads_tagUri (Cursor.In.skipSpaces inside)) fun (uri, place) inside => ?_
    exact ends_ite (fun _ => trivial) fun _ => finish (.tagDirective handle uri) inside

theorem reads_anchorName (inside : cursor.In cs) : Reads cs (anchorName cursor) := by
  unfold anchorName
  simp only
  exact ends_ite (fun _ => trivial) fun _ => inside.next.span _

theorem reads_tag (inside : cursor.In cs) : Reads cs (tag cursor) := by
  have finish (token : Token) {place : Cursor} (inside : place.In cs) :
      Reads cs (if spaceAhead place.rest then pure (token, place)
        else throw (.malformed .invalidTag)) :=
    ends_ite (fun _ => inside) fun _ => trivial
  unfold tag
  simp only
  split
  · refine Ends.bind (reads_tagUri (inside.skip 2)) fun (uri, place) inside => ?_
    simp only
    split
    · exact finish (.tag none uri) (Cursor.In.next inside)
    · trivial
  · refine ends_ite (fun _ => finish (.tag none "!") inside.next) fun _ =>
      ends_ite (fun _ => ?_) fun _ => ?_
    · refine Ends.bind (reads_tagHandle inside) fun (handle, place) inside => ?_
      refine Ends.bind (reads_tagUri inside) fun (uri, place) inside => ?_
      exact finish (.tag (some handle) uri) inside
    · refine Ends.bind (reads_tagUri inside.next) fun (uri, place) inside => ?_
      exact finish (.tag (some "!") uri) inside
  · trivial

/-! ## One token after another -/

/-- The scanner ends at a place in the text, or where the text shows why. -/
def Scans (cs : List Char) : Except Halt Scanner → Prop :=
  Ends (fun s => s.cursor.In cs) (Halt.Spelled cs)

variable {s : Scanner}

theorem in_skipGap {fuel : Nat} (inside : s.cursor.In cs) : (s.skipGap fuel).cursor.In cs := by
  induction fuel generalizing s with
  | zero => exact inside
  | succ fuel ih =>
    have blanks := inside.skipSpaces.skipComment
    unfold skipGap
    simp only
    split
    · next ended => exact blanks.of_lineEnd ended
    · next ended => exact ih (blanks.of_lineEnd ended)

theorem in_skipMark (inside : s.cursor.In cs) : s.skipMark.cursor.In cs := by
  unfold skipMark
  split
  · split
    · exact inside.next
    · exact inside
  · exact inside

theorem scans_dropStaleKeys (inside : s.cursor.In cs) : Scans cs s.dropStaleKeys :=
  ends_ite (fun _ => trivial) fun _ => inside

theorem scans_dropKey (inside : s.cursor.In cs) : Scans cs s.dropKey :=
  ends_ite (fun _ => trivial) fun _ => inside

theorem scans_saveKey (inside : s.cursor.In cs) : Scans cs s.saveKey :=
  ends_ite (fun _ => Ends.bind (scans_dropKey inside) fun _ inside => inside) fun _ => inside

theorem cursor_unwind (column : Int) (indents : List Int) (s : Scanner) :
    (unwind column indents s).cursor = s.cursor := by
  induction indents generalizing s with
  | nil => rfl
  | cons outer outers ih =>
    unfold unwind
    split
    · rw [ih]
      rfl
    · rfl

theorem cursor_unwindTo (s : Scanner) (column : Int) : (s.unwindTo column).cursor = s.cursor := by
  unfold unwindTo
  split
  · exact cursor_unwind column s.indents s
  · rfl

theorem cursor_indentTo {started : Scanner} {column : Nat} (due : s.indentTo column = some started) :
    started.cursor = s.cursor := by
  unfold indentTo at due
  split at due
  · cases due
    rfl
  · cases due

theorem cursor_openBlock (s : Scanner) (token : Token) : (s.openBlock token).cursor = s.cursor := by
  unfold openBlock
  split
  · next started due => exact (cursor_indentTo due : started.cursor = s.cursor)
  · rfl

theorem scans_boundary (inside : s.cursor.In cs) {place : Cursor} (moved : place.In cs)
    (token : Token) : Scans cs (s.boundary token place) :=
  Ends.bind (scans_dropKey (cursor_unwindTo s (-1) ▸ inside)) fun _ _ => moved

theorem scans_openBracket (inside : s.cursor.In cs) (token : Token) :
    Scans cs (s.openBracket token) :=
  Ends.bind (scans_saveKey inside) fun _ inside => inside.next

theorem scans_closeBracket (inside : s.cursor.In cs) (token : Token) :
    Scans cs (s.closeBracket token) :=
  ends_ite (fun _ => trivial) fun _ =>
    Ends.bind (scans_dropKey inside) fun _ inside => inside.next

theorem scans_comma (inside : s.cursor.In cs) : Scans cs s.comma :=
  Ends.bind (scans_dropKey inside) fun _ inside => inside.next

/-- Where a block is due, it starts at the present place. -/
theorem in_openBlock (inside : s.cursor.In cs) (token : Token) :
    (if s.flow == 0 then s.openBlock token else s).cursor.In cs := by
  split
  · exact cursor_openBlock s token ▸ inside
  · exact inside

theorem scans_hyphen (inside : s.cursor.In cs) : Scans cs s.hyphen :=
  ends_ite (fun _ => trivial) fun _ =>
    Ends.bind (scans_dropKey (in_openBlock inside .blockSequence)) fun _ inside => inside.next

theorem scans_questionMark (inside : s.cursor.In cs) : Scans cs s.questionMark :=
  ends_ite (fun _ => trivial) fun _ =>
    Ends.bind (scans_dropKey (in_openBlock inside .blockMapping)) fun _ inside => inside.next

theorem scans_colon (inside : s.cursor.In cs) : Scans cs s.colon := by
  unfold colon
  split
  · apply Cursor.In.next
    split
    · next started due =>
      split at due
      · exact cursor_indentTo due ▸ inside
      · cases due
    · exact inside
  · exact ends_ite (fun _ => trivial) fun _ =>
      Ends.bind (scans_dropKey (in_openBlock inside .blockMapping)) fun _ inside => inside.next

theorem scans_content {read : Cursor → Except Halt (Token × Cursor)}
    (reads : ∀ {cursor : Cursor}, cursor.In cs → Reads cs (read cursor)) (inside : s.cursor.In cs) :
    Scans cs (s.content read) :=
  Ends.bind (scans_saveKey inside) fun _ inside => Ends.bind (reads inside) fun _ moved => moved

theorem scans_quotedScalar (inside : s.cursor.In cs) (quote : Char) :
    Scans cs (s.quotedScalar quote) :=
  scans_content (fun inside => ends_map.mpr (reads_quoted inside quote)) inside

theorem scans_blockScalar (inside : s.cursor.In cs) (folded : Bool) :
    Scans cs (s.blockScalar folded) :=
  Ends.bind (scans_dropKey inside) fun _ inside =>
    Ends.bind (reads_block inside folded _) fun _ moved => moved

theorem scans_plainScalar (inside : s.cursor.In cs) : Scans cs s.plainScalar :=
  Ends.bind (scans_saveKey inside) fun _ inside => in_plain inside _ _

theorem scans_next (inside : s.cursor.In cs) (c : Char) (rest : List Char) :
    Scans cs (s.next c rest) := by
  have unwound : (s.unwindTo (-1)).cursor.In cs := cursor_unwindTo s (-1) ▸ inside
  have named {f : String → Token} :
      Scans cs (s.content fun cursor =>
        (anchorName cursor).map fun read => (f read.1, read.2)) :=
    scans_content (fun inside => ends_map.mpr (reads_anchorName inside)) inside
  -- One line for each kind of token, in the order in which they are tried.
  unfold next
  refine ends_ite (fun _ => Ends.bind (scans_dropKey unwound) fun _ inside =>
    Ends.bind (reads_directive inside) fun _ moved => moved) fun _ => ?_
  refine ends_ite (fun _ => scans_boundary inside (inside.skip 3) _) fun _ => ?_
  refine ends_ite (fun _ => scans_openBracket inside .flowSequence) fun _ => ?_
  refine ends_ite (fun _ => scans_openBracket inside .flowMapping) fun _ => ?_
  refine ends_ite (fun _ => scans_closeBracket inside .flowSequenceEnd) fun _ => ?_
  refine ends_ite (fun _ => scans_closeBracket inside .flowMappingEnd) fun _ => ?_
  refine ends_ite (fun _ => scans_comma inside) fun _ => ?_
  refine ends_ite (fun _ => scans_hyphen inside) fun _ => ?_
  refine ends_ite (fun _ => scans_questionMark inside) fun _ => ?_
  refine ends_ite (fun _ => scans_colon inside) fun _ => ?_
  refine ends_ite (fun _ => named) fun _ => ?_
  refine ends_ite (fun _ => named) fun _ => ?_
  refine ends_ite (fun _ => scans_content reads_tag inside) fun _ => ?_
  refine ends_ite (fun _ => scans_blockScalar inside false) fun _ => ?_
  refine ends_ite (fun _ => scans_blockScalar inside true) fun _ => ?_
  refine ends_ite (fun _ => scans_quotedScalar inside c) fun _ => ?_
  refine ends_ite (fun _ => scans_quotedScalar inside c) fun _ => ?_
  exact ends_ite (fun _ => scans_plainScalar inside) fun _ => trivial

theorem scans_step (inside : s.cursor.In cs) :
    Ends (fun result => result.1.cursor.In cs) (Halt.Spelled cs) s.step := by
  unfold step
  refine Ends.bind (scans_dropStaleKeys (in_skipGap (in_skipMark inside))) fun s inside => ?_
  have unwound (column : Int) {s : Scanner} (inside : s.cursor.In cs) :
      (s.unwindTo column).cursor.In cs := cursor_unwindTo s column ▸ inside
  simp only
  split
  · exact Ends.bind (scans_dropKey (unwound (-1) (unwound _ inside))) fun _ inside => inside
  · exact Ends.bind (scans_next (unwound _ inside) _ _) fun _ inside => inside

theorem spelled_of_all {fuel : Nat} {halt : Halt} (inside : s.cursor.In cs)
    (halted : (s.all fuel).2 = some halt) : halt.Spelled cs := by
  induction fuel generalizing s with
  | zero =>
    cases halted
    trivial
  | succ fuel ih =>
    have steps := scans_step inside
    unfold all at halted
    split at halted
    · next failed =>
      cases halted
      exact steps.error failed
    · next moved => exact ih (steps.ok moved) halted
    · cases halted

end Scanner

/-- The text shows the fault that comes after its tokens. -/
theorem spelled_of_tokens {found : List Token} {fault : Fault}
    (scanned : tokens cs = .ok (found, some fault)) : fault.Spelled cs := by
  have start : Cursor.In cs ⟨cs, 0, 0, 0⟩ := List.suffix_rfl
  unfold tokens at scanned
  simp only at scanned
  split at scanned
  · next halted _ =>
    split at scanned
    · cases scanned
      exact Scanner.spelled_of_all start halted
    · cases scanned
  · cases scanned
  · cases scanned
  · next halted _ =>
    cases scanned
    exact Scanner.spelled_of_all start halted
  · cases scanned

end VariantIter.Yaml
