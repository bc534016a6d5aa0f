import Mathlib.Data.List.Nodup
import VariantIter.Document
import VariantIter.Proofs.JsonText

/-!
Values in JSON, written and read back.

A value is written in one of two layouts, at some depth, and after some text. What is written for it
starts with a character that is no blank and ends no collection, so the blanks of a layout can be
skipped; reading it then stops where it ends. Main statement: a document that was written from null,
truth values, integers, texts, lists and mappings is read as the value that it was written from.
-/

namespace VariantIter

theorem Text.unifyLines_of_not_mem {cs : List Char} (oneEnd : '\r' ∉ cs) : unifyLines cs = cs := by
  fun_induction unifyLines cs with
  | case1 => rfl
  | case2 rest => exact absurd List.mem_cons_self oneEnd
  | case3 rest => exact absurd List.mem_cons_self oneEnd
  | case4 c rest _ _ ih => rw [ih (List.not_mem_of_not_mem_cons oneEnd)]

/-! ## Names of a mapping -/

theorem Entries.put_of_not_mem {entries : Entries} {name : Text} (value : Value)
    (texts : ∀ entry ∈ entries, ∃ other : Text, entry.1 = .text other)
    (fresh : Value.text name ∉ entries.map Prod.fst) :
    entries.put (.text name) value = entries ++ [(.text name, value)] := by
  induction entries with
  | nil => rfl
  | cons entry entries ih =>
    obtain ⟨⟨other, key⟩, others⟩ := List.forall_mem_cons.mp texts
    rw [List.map_cons, List.mem_cons, not_or] at fresh
    obtain ⟨differs, fresh⟩ := fresh
    obtain ⟨_, there⟩ := entry
    cases key
    have apart : (Value.text other).sameKey (.text name) = false := by
      rw [Value.sameKey, beq_eq_false_iff_ne]
      rintro rfl
      exact differs rfl
    rw [put, apart, if_neg Bool.false_ne_true, ih others fresh, List.cons_append]

/-- Pairs with different texts for keys are a mapping already. -/
theorem Entries.ofPairs_of_nodup {entries : Entries}
    (texts : ∀ entry ∈ entries, ∃ name : Text, entry.1 = .text name)
    (distinct : (entries.map Prod.fst).Nodup) : ofPairs entries = entries := by
  -- The induction adds one pair at the end, which is where it is put.
  induction entries using List.reverseRecOn with
  | nil => rfl
  | append_singleton entries entry ih =>
    obtain ⟨others, last⟩ := List.forall_mem_append.mp texts
    obtain ⟨name, key⟩ := last entry (List.mem_singleton.mpr rfl)
    obtain ⟨_, value⟩ := entry
    cases key
    rw [List.map_append, List.nodup_append] at distinct
    have fresh : Value.text name ∉ entries.map Prod.fst :=
      fun member => distinct.2.2 _ member _ (List.mem_singleton.mpr rfl) rfl
    have front := ih others distinct.1
    rw [ofPairs] at front ⊢
    rw [List.foldl_append, front]
    exact put_of_not_mem value others fresh

namespace Json

/-- Values that a document holds as they are: integers can be shown, no pair in a text is split, the names
in a mapping differ, and no more than `room` collections stand inside of each other. -/
inductive Storable : (room : Nat) → Value → Prop
  | null {room : Nat} : Storable room .null
  | bool {room : Nat} (b : Bool) : Storable room (.bool b)
  | int {room : Nat} {n : Int} (showable : (Value.int n).isShowable = true) : Storable room (.int n)
  | text {room : Nat} {s : Text} (unsplit : s.Unsplit) : Storable room (.text s)
  | list {room : Nat} {items : List Value} (each : ∀ item ∈ items, Storable room item) :
      Storable (room + 1) (.list items)
  | map {room : Nat} {entries : Entries}
      (named : ∀ entry ∈ entries, ∃ name : Text, entry.1 = .text name ∧ name.Unsplit)
      (distinct : (entries.map Prod.fst).Nodup)
      (each : ∀ entry ∈ entries, Storable room entry.2) : Storable (room + 1) (.map entries)

/-! ## Blanks -/

/-- Blanks between values, without carriage returns. -/
def IsGap (gap : List Char) : Prop :=
  ∀ c ∈ gap, isSpace c = true ∧ c ≠ '\r'

/-- A character that a value starts with: no blank, no end of a collection, and no mark at the start of a
document. -/
def Opens (c : Char) : Prop :=
  isSpace c = false ∧ c ≠ ']' ∧ c ≠ '\x7d' ∧ c ≠ '\ufeff'

theorem isGap_lineBreak (layout : Layout) (depth : Nat) : IsGap (layout.lineBreak depth) := by
  intro c member
  cases layout with
  | oneLine => cases member
  | indented width =>
    rcases List.mem_cons.mp member with rfl | blank
    · decide
    · rw [List.eq_of_mem_replicate blank]
      decide

theorem isGap_blank : IsGap [' '] :=
  List.forall_mem_singleton.mpr ⟨rfl, by decide⟩

theorem exists_separator_eq (layout : Layout) (depth : Nat) :
    ∃ gap, layout.separator depth = ',' :: gap ∧ IsGap gap := by
  cases layout with
  | oneLine => exact ⟨[' '], rfl, isGap_blank⟩
  | indented width => exact ⟨_, rfl, isGap_lineBreak (.indented width) depth⟩

theorem IsGap.not_mem {gap : List Char} (blank : IsGap gap) : '\r' ∉ gap :=
  fun member => (blank _ member).2 rfl

theorem IsGap.skipSpace_append {gap : List Char} (blank : IsGap gap) (cs : List Char) :
    skipSpace (gap ++ cs) = skipSpace cs :=
  List.dropWhile_append_of_pos fun c member => (blank c member).1

theorem IsGap.skipSpace_append_cons {gap : List Char} (blank : IsGap gap) {c : Char} (cs : List Char)
    (solid : isSpace c = false) : skipSpace (gap ++ c :: cs) = c :: cs := by
  rw [blank.skipSpace_append, skipSpace, List.dropWhile_cons_of_neg (by simp [solid])]

theorem skipSpace_cons {c : Char} (cs : List Char) (solid : isSpace c = false) :
    skipSpace (c :: cs) = c :: cs :=
  @IsGap.skipSpace_append_cons [] nofun c cs solid

theorem skipSpace_colon (cs : List Char) : skipSpace (':' :: cs) = ':' :: cs :=
  skipSpace_cons cs (by decide)

theorem skipSpace_blank {c : Char} (cs : List Char) (solid : isSpace c = false) :
    skipSpace (' ' :: c :: cs) = c :: cs :=
  @IsGap.skipSpace_append_cons [' '] isGap_blank c cs solid

/-- A number ends before blanks and whatever separates or closes. -/
theorem IsGap.endsNumber {gap : List Char} (blank : IsGap gap) {c : Char} (rest : List Char)
    (ends : c = ',' ∨ c = ']' ∨ c = '\x7d') : EndsNumber (gap ++ c :: rest) := by
  intro d first
  cases gap with
  | nil =>
    cases Option.some.inj first
    rcases ends with rfl | rfl | rfl <;> decide
  | cons other gap =>
    cases Option.some.inj first
    have space := (blank d List.mem_cons_self).1
    simp only [isSpace, Bool.or_eq_true, beq_iff_eq] at space
    rcases space with ((rfl | rfl) | rfl) | rfl <;> decide

/-! ## Steps of reading -/

section Steps

variable {depth fuel : Nat} {cs rest more after : List Char} {item : Value} {items : List Value}
  {name : Text} {members : List (Value × Value)}

theorem readItems_last (first : readValue depth fuel cs = .ok (item, rest))
    (closed : skipSpace rest = ']' :: more) :
    readItems depth (fuel + 1) cs = .ok ([item], more) := by
  rw [readItems, first, Outcome.ok_bind]
  simp only [closed]

theorem readItems_cons (first : readValue depth fuel cs = .ok (item, rest))
    (separated : skipSpace rest = ',' :: more)
    (others : readItems depth fuel (skipSpace more) = .ok (items, after)) :
    readItems depth (fuel + 1) cs = .ok (item :: items, after) := by
  rw [readItems, first, Outcome.ok_bind]
  simp only [separated, others, Outcome.ok_bind]

/-- The name of a member and the colon after it are passed over. -/
theorem readMembers_last {c : Char} (unsplit : name.Unsplit) (solid : isSpace c = false)
    (first : readValue depth fuel (c :: cs) = .ok (item, rest))
    (closed : skipSpace rest = '\x7d' :: more) :
    readMembers depth (fuel + 1) (writeText name ++ ':' :: ' ' :: c :: cs) =
      .ok ([(.text name, item)], more) := by
  rw [writeText, List.append_assoc, List.cons_append, List.singleton_append, readMembers,
    readString_writeText unsplit, Outcome.ok_bind]
  simp only [skipSpace_colon, skipSpace_blank cs solid, first, Outcome.ok_bind, closed]

theorem readMembers_cons {c : Char} (unsplit : name.Unsplit) (solid : isSpace c = false)
    (first : readValue depth fuel (c :: cs) = .ok (item, rest))
    (separated : skipSpace rest = ',' :: more)
    (others : readMembers depth fuel (skipSpace more) = .ok (members, after)) :
    readMembers depth (fuel + 1) (writeText name ++ ':' :: ' ' :: c :: cs) =
      .ok ((.text name, item) :: members, after) := by
  rw [writeText, List.append_assoc, List.cons_append, List.singleton_append, readMembers,
    readString_writeText unsplit, Outcome.ok_bind]
  simp only [skipSpace_colon, skipSpace_blank cs solid, first, Outcome.ok_bind, separated, others]

theorem readValue_list {c : Char} (shallow : depth < maxDepth) (opens : Opens c)
    (listed : readItems (depth + 1) fuel (c :: cs) = .ok (items, after)) {gap : List Char}
    (blank : IsGap gap) :
    readValue depth (fuel + 1) ('[' :: (gap ++ c :: cs)) = .ok (.list items, after) := by
  rw [readValue]
  simp only [Nat.not_le.mpr shallow, if_false, blank.skipSpace_append_cons cs opens.1]
  split
  · next starts => exact absurd (List.cons.inj starts).1 opens.2.1
  · rw [listed]
    rfl

theorem readValue_map {c : Char} (shallow : depth < maxDepth) (opens : Opens c)
    (listed : readMembers (depth + 1) fuel (c :: cs) = .ok (members, after)) {gap : List Char}
    (blank : IsGap gap) :
    readValue depth (fuel + 1) ('\x7b' :: (gap ++ c :: cs)) =
      .ok (.map (Entries.ofPairs members), after) := by
  rw [readValue]
  simp only [Nat.not_le.mpr shallow, if_false, blank.skipSpace_append_cons cs opens.1]
  split
  · next starts => exact absurd (List.cons.inj starts).1 opens.2.2.1
  · rw [listed]
    rfl

end Steps

/-! ## Values -/

/-- What is written for a value at a depth, read back as the value inside of `room` collections less than
there may be. -/
structure Restores (layout : Layout) (depth : Nat) (around : List Nat) (room : Nat) (value : Value)
    (body : List Char) : Prop where
  written : ∀ lead, writeValue layout depth around lead value = ⟨lead ++ body, none⟩
  opens : ∃ c cs, body = c :: cs ∧ Opens c
  oneEnd : '\r' ∉ body
  read : ∀ level fuel rest, level + room ≤ maxDepth → 2 * body.length ≤ fuel → EndsNumber rest →
    readValue level fuel (body ++ rest) = .ok (value, rest)

section Values

variable {layout : Layout} {depth : Nat} {around : List Nat} {room : Nat}

/-- A spelling that depends neither on the depth nor on the layout. -/
theorem restores_atom {value : Value} {body : List Char}
    (written : ∀ lead, writeValue layout depth around lead value = ⟨lead ++ body, none⟩)
    (opens : ∃ c cs, body = c :: cs ∧ Opens c ∧ c ≠ '\x22' ∧ c ≠ '[' ∧ c ≠ '\x7b')
    (oneEnd : '\r' ∉ body)
    (read : ∀ rest, EndsNumber rest → readAtom (body ++ rest) = .ok (value, rest)) :
    Restores layout depth around room value body where
  written := written
  opens := by
    obtain ⟨c, cs, same, opens, _⟩ := opens
    exact ⟨c, cs, same, opens⟩
  oneEnd := oneEnd
  read := by
    intro level fuel rest _ fueled ends
    obtain ⟨c, cs, rfl, _, noQuote, noList, noMap⟩ := opens
    cases fuel with
    | zero => cases fueled
    | succ fuel =>
      rw [← read rest ends, List.cons_append]
      unfold readValue
      split
      · next starts => exact absurd (List.cons.inj starts).1 noQuote
      · next starts => exact absurd (List.cons.inj starts).1 noList
      · next starts => exact absurd (List.cons.inj starts).1 noMap
      · rfl

theorem opens_of_isDigit {c : Char} (digit : Text.isDigit c = true) :
    Opens c ∧ c ≠ '\x22' ∧ c ≠ '[' ∧ c ≠ '\x7b' := by
  have blank : isSpace c = false := by
    rw [Bool.eq_false_iff]
    intro space
    simp only [isSpace, Bool.or_eq_true, beq_iff_eq] at space
    rcases space with ((rfl | rfl) | rfl) | rfl <;> cases digit
  refine ⟨⟨blank, ?_, ?_, ?_⟩, ?_, ?_, ?_⟩ <;>
    rintro rfl <;> cases digit

theorem restores_int {n : Int} (showable : (Value.int n).isShowable = true) :
    Restores layout depth around room (.int n) (Text.decimalInt n) := by
  have noReturn (n : Nat) : '\r' ∉ Text.decimal n :=
    fun member => absurd (Text.isDigit_of_mem_decimal _ member) (by decide)
  refine restores_atom ?_ ?_ ?_ fun rest ends => readAtom_decimalInt showable ends
  · intro lead
    rw [writeValue, if_pos showable]
  · cases n with
    | ofNat n =>
      obtain ⟨c, cs, same⟩ := List.exists_cons_of_ne_nil (Text.decimal_ne_nil n)
      have digit := Text.isDigit_of_mem_decimal c (same ▸ List.mem_cons_self)
      exact ⟨c, cs, same, opens_of_isDigit digit⟩
    | negSucc n => exact ⟨'-', _, rfl, by unfold Opens; decide, by decide, by decide, by decide⟩
  · cases n with
    | ofNat n => exact noReturn n
    | negSucc n => exact List.not_mem_cons_of_ne_of_not_mem (by decide) (noReturn (n + 1))

theorem return_not_mem_writeCode (code : Nat) : '\r' ∉ writeCode code := by
  have digit (n : Nat) : '\r' ≠ Text.digitChar (n % 16) := by
    have each : ∀ d < 16, '\r' ≠ Text.digitChar d := by decide
    exact each _ (Nat.mod_lt n (by decide))
  have escape (u : Nat) : '\r' ∉ unitEscape u := by
    simp [unitEscape, Text.hex, digit]
  unfold writeCode
  split
  · exact escape code
  · simp [escape]

theorem return_not_mem_writePoint (c : CodePoint) : '\r' ∉ writePoint c := by
  cases c with
  | surrogate half => exact return_not_mem_writeCode _
  | char c =>
    rw [writePoint, writeChar]
    split_ifs with quoted newline carriage tab feed backspace plain
    · rcases quoted with rfl | rfl <;> decide
    · decide
    · decide
    · decide
    · decide
    · decide
    · exact fun member => carriage (List.mem_singleton.mp member).symm
    · exact return_not_mem_writeCode _

theorem return_not_mem_writeText (s : Text) : '\r' ∉ writeText s := by
  simp [writeText, return_not_mem_writePoint]

theorem restores_text {s : Text} (unsplit : s.Unsplit) :
    Restores layout depth around room (.text s) (writeText s) where
  written _ := rfl
  opens := ⟨'\x22', _, rfl, by unfold Opens; decide⟩
  oneEnd := return_not_mem_writeText s
  read := by
    intro level fuel rest _ fueled _
    cases fuel with
    | zero => simp [writeText] at fueled
    | succ fuel =>
      rw [writeText, List.append_assoc, List.cons_append, List.singleton_append, readValue,
        readString_writeText unsplit]
      rfl

/-- The items after the first are written one after another, and read back after a first. -/
theorem restores_items {items : List Value}
    (each : ∀ item ∈ items, ∃ body, Restores layout depth around room item body) :
    ∃ tail, writeItems layout depth around items = ⟨tail, none⟩ ∧ '\r' ∉ tail ∧
      ∀ {first body}, Restores layout depth around room first body →
        ∀ level fuel gap rest, level + room ≤ maxDepth →
          2 * (body.length + tail.length) + 1 ≤ fuel → IsGap gap →
          readItems level fuel (body ++ (tail ++ (gap ++ ']' :: rest))) =
            .ok (first :: items, rest) := by
  induction items with
  | nil =>
    refine ⟨[], rfl, List.not_mem_nil, ?_⟩
    intro first body restores level fuel gap rest inside fueled blank
    obtain ⟨fuel, rfl⟩ := Nat.exists_eq_add_of_lt (Nat.lt_of_lt_of_le (Nat.succ_pos _) fueled)
    rw [Nat.zero_add, List.nil_append]
    exact readItems_last
      (restores.read _ _ _ inside (by omega) (blank.endsNumber rest (.inr (.inl rfl))))
      (blank.skipSpace_append_cons rest (by decide))
  | cons item items ih =>
    obtain ⟨⟨next, restoresNext⟩, others⟩ := List.forall_mem_cons.mp each
    obtain ⟨tail, writtenTail, plainTail, reads⟩ := ih others
    obtain ⟨comma, separator, blankComma⟩ := exists_separator_eq layout depth
    refine ⟨',' :: comma ++ (next ++ tail), ?_, ?_, ?_⟩
    · rw [writeItems, restoresNext.written, writtenTail, separator]
      simp [Written.andThen]
    · simp [blankComma.not_mem, restoresNext.oneEnd, plainTail]
    · intro first body restores level fuel gap rest inside fueled blank
      obtain ⟨fuel, rfl⟩ := Nat.exists_eq_add_of_lt (Nat.lt_of_lt_of_le (Nat.succ_pos _) fueled)
      rw [Nat.zero_add] at fueled ⊢
      simp only [List.cons_append, List.length_cons, List.length_append] at fueled
      obtain ⟨c, cs, rfl, opens⟩ := restoresNext.opens
      have more := reads restoresNext level fuel gap rest inside (by omega) blank
      have ends := @IsGap.endsNumber [] nofun ','
        (comma ++ (c :: cs ++ (tail ++ (gap ++ ']' :: rest)))) (.inl rfl)
      have found := restores.read level fuel _ inside (by omega) ends
      simp only [List.nil_append, List.cons_append, List.append_assoc] at found more ⊢
      refine readItems_cons found (skipSpace_cons _ (by decide)) ?_
      rwa [blankComma.skipSpace_append_cons _ opens.1]

/-- A member: its name, a colon and its value. -/
theorem writeEntry_text {name : Text} {value : Value} {body : List Char}
    (restores : Restores layout depth around room value body) (lead : List Char) :
    writeEntry layout depth around lead (.text name, value) =
      ⟨lead ++ (writeText name ++ ':' :: ' ' :: body), none⟩ := by
  simp [writeEntry, keyText?, restores.written, Written.andThen]

/-- The members after the first are written one after another, and read back after a first. -/
theorem restores_members {entries : Entries}
    (named : ∀ entry ∈ entries, ∃ name : Text, entry.1 = .text name ∧ name.Unsplit)
    (each : ∀ entry ∈ entries, ∃ body, Restores layout depth around room entry.2 body) :
    ∃ tail, writeEntries layout depth around entries = ⟨tail, none⟩ ∧ '\r' ∉ tail ∧
      ∀ {name first body}, Text.Unsplit name → Restores layout depth around room first body →
        ∀ level fuel gap rest, level + room ≤ maxDepth →
          2 * (body.length + tail.length) + 1 ≤ fuel → IsGap gap →
          readMembers level fuel
              (writeText name ++ ':' :: ' ' :: (body ++ (tail ++ (gap ++ '\x7d' :: rest)))) =
            .ok ((.text name, first) :: entries, rest) := by
  induction entries with
  | nil =>
    refine ⟨[], rfl, List.not_mem_nil, ?_⟩
    intro name first body unsplit restores level fuel gap rest inside fueled blank
    obtain ⟨fuel, rfl⟩ := Nat.exists_eq_add_of_lt (Nat.lt_of_lt_of_le (Nat.succ_pos _) fueled)
    rw [Nat.zero_add, List.nil_append]
    obtain ⟨c, cs, rfl, opens⟩ := restores.opens
    have found := restores.read level fuel _ inside (by omega)
      (blank.endsNumber rest (.inr (.inr rfl)))
    exact readMembers_last unsplit opens.1 found (blank.skipSpace_append_cons rest (by decide))
  | cons entry entries ih =>
    obtain ⟨⟨nextName, key, unsplitNext⟩, othersNamed⟩ := List.forall_mem_cons.mp named
    obtain ⟨⟨next, restoresNext⟩, others⟩ := List.forall_mem_cons.mp each
    obtain ⟨tail, writtenTail, plainTail, reads⟩ := ih othersNamed others
    obtain ⟨comma, separator, blankComma⟩ := exists_separator_eq layout depth
    obtain ⟨_, value⟩ := entry
    cases key
    refine ⟨',' :: comma ++ (writeText nextName ++ ':' :: ' ' :: next ++ tail), ?_, ?_, ?_⟩
    · rw [writeEntries, writeEntry_text restoresNext, writtenTail, separator]
      simp [Written.andThen]
    · simp [blankComma.not_mem, restoresNext.oneEnd, plainTail, return_not_mem_writeText]
    · intro name first body unsplit restores level fuel gap rest inside fueled blank
      obtain ⟨fuel, rfl⟩ := Nat.exists_eq_add_of_lt (Nat.lt_of_lt_of_le (Nat.succ_pos _) fueled)
      rw [Nat.zero_add] at fueled ⊢
      simp only [List.cons_append, List.length_cons, List.length_append] at fueled
      have more := reads unsplitNext restoresNext level fuel gap rest inside (by omega) blank
      obtain ⟨c, cs, rfl, opens⟩ := restores.opens
      have ends := @IsGap.endsNumber [] nofun ','
        (comma ++ (writeText nextName ++ ':' :: ' ' :: next ++ (tail ++ (gap ++ '\x7d' :: rest))))
        (.inl rfl)
      have found := restores.read level fuel _ inside (by omega) ends
      simp only [List.nil_append, List.cons_append, List.append_assoc] at found more ⊢
      refine readMembers_cons unsplit opens.1 found (skipSpace_cons _ (by decide)) ?_
      rw [writeText, List.cons_append, List.cons_append] at more ⊢
      rwa [blankComma.skipSpace_append_cons _ (by decide)]

theorem restores_list {items : List Value}
    (each : ∀ item ∈ items, ∃ body, Restores layout (depth + 1) around room item body) :
    ∃ body, Restores layout depth around (room + 1) (.list items) body := by
  cases items with
  | nil =>
    refine ⟨['[', ']'], fun _ => rfl, ⟨'[', _, rfl, by unfold Opens; decide⟩, by decide, ?_⟩
    intro level fuel rest inside fueled _
    cases fuel with
    | zero => cases fueled
    | succ fuel =>
      rw [List.cons_append, readValue, if_neg (by omega), List.singleton_append,
        skipSpace_cons rest (by decide)]
      rfl
  | cons item items =>
    obtain ⟨⟨body, restores⟩, others⟩ := List.forall_mem_cons.mp each
    obtain ⟨tail, writtenTail, plainTail, reads⟩ := restores_items others
    have blank := isGap_lineBreak layout
    refine ⟨'[' :: (layout.lineBreak (depth + 1) ++ (body ++ (tail ++ (layout.lineBreak depth ++ [']'])))),
      ?_, ⟨'[', _, rfl, by unfold Opens; decide⟩, ?_, ?_⟩
    · intro lead
      rw [writeValue, writeList, restores.written, writtenTail]
      simp [Written.andThen]
    · simp [(blank _).not_mem, restores.oneEnd, plainTail]
    · intro level fuel rest inside fueled _
      simp only [List.length_cons, List.length_append] at fueled
      obtain ⟨fuel, rfl⟩ := Nat.exists_eq_add_of_lt (Nat.lt_of_lt_of_le (Nat.succ_pos _) fueled)
      have listed := reads restores (level + 1) fuel (layout.lineBreak depth) rest (by omega)
        (by omega) (blank depth)
      obtain ⟨c, cs, rfl, opens⟩ := restores.opens
      simp only [Nat.zero_add, List.cons_append, List.append_assoc, List.nil_append] at listed ⊢
      exact readValue_list (by omega) opens listed (blank (depth + 1))

theorem restores_map {entries : Entries}
    (named : ∀ entry ∈ entries, ∃ name : Text, entry.1 = .text name ∧ name.Unsplit)
    (kept : Entries.ofPairs entries = entries)
    (each : ∀ entry ∈ entries, ∃ body, Restores layout (depth + 1) around room entry.2 body) :
    ∃ body, Restores layout depth around (room + 1) (.map entries) body := by
  cases entries with
  | nil =>
    refine ⟨['\x7b', '\x7d'], fun _ => rfl, ⟨'\x7b', _, rfl, by unfold Opens; decide⟩, by decide, ?_⟩
    intro level fuel rest inside fueled _
    cases fuel with
    | zero => cases fueled
    | succ fuel =>
      rw [List.cons_append, readValue, if_neg (by omega), List.singleton_append,
        skipSpace_cons rest (by decide)]
      rfl
  | cons entry entries =>
    obtain ⟨⟨name, key, unsplit⟩, othersNamed⟩ := List.forall_mem_cons.mp named
    obtain ⟨⟨body, restores⟩, others⟩ := List.forall_mem_cons.mp each
    obtain ⟨tail, writtenTail, plainTail, reads⟩ := restores_members othersNamed others
    have blank := isGap_lineBreak layout
    obtain ⟨_, value⟩ := entry
    cases key
    refine ⟨'\x7b' :: (layout.lineBreak (depth + 1) ++ (writeText name ++ ':' :: ' ' :: (body ++
        (tail ++ (layout.lineBreak depth ++ ['\x7d']))))),
      ?_, ⟨'\x7b', _, rfl, by unfold Opens; decide⟩, ?_, ?_⟩
    · intro lead
      rw [writeValue, writeMap, writeEntry_text restores, writtenTail]
      simp [Written.andThen]
    · simp [(blank _).not_mem, restores.oneEnd, plainTail, return_not_mem_writeText]
    · intro level fuel rest inside fueled _
      simp only [List.length_cons, List.length_append] at fueled
      obtain ⟨fuel, rfl⟩ := Nat.exists_eq_add_of_lt (Nat.lt_of_lt_of_le (Nat.succ_pos _) fueled)
      have listed := reads unsplit restores (level + 1) fuel (layout.lineBreak depth) rest (by omega)
        (by omega) (blank depth)
      simp only [Nat.zero_add, writeText, List.cons_append, List.append_assoc, List.nil_append]
        at listed ⊢
      rw [readValue_map (by omega) (by unfold Opens; decide) listed (blank (depth + 1)), kept]

/-- Every value that a document holds as it is, wherever it is written. -/
theorem Storable.exists_restores {value : Value} (storable : Storable room value) (layout : Layout)
    (depth : Nat) (around : List Nat) : ∃ body, Restores layout depth around room value body := by
  -- The induction follows the value; each collection writes what it holds one level deeper.
  induction storable generalizing depth with
  | null =>
    exact ⟨_, restores_atom (fun _ => rfl) ⟨'n', _, rfl, by unfold Opens; decide⟩ (by decide)
      fun _ _ => rfl⟩
  | bool b =>
    cases b with
    | true =>
      exact ⟨_, restores_atom (fun _ => rfl) ⟨'t', _, rfl, by unfold Opens; decide⟩ (by decide)
        fun _ _ => rfl⟩
    | false =>
      exact ⟨_, restores_atom (fun _ => rfl) ⟨'f', _, rfl, by unfold Opens; decide⟩ (by decide)
        fun _ _ => rfl⟩
  | int showable => exact ⟨_, restores_int showable⟩
  | text unsplit => exact ⟨_, restores_text unsplit⟩
  | list each ih => exact restores_list fun item member => ih item member (depth + 1)
  | map named distinct each ih =>
    refine restores_map named (Entries.ofPairs_of_nodup (fun entry member => ?_) distinct)
      fun entry member => ih entry member (depth + 1)
    obtain ⟨name, key, _⟩ := named entry member
    exact ⟨name, key⟩

end Values

/-- A written document is read up to its end; what follows it has to be blank. -/
theorem Storable.exists_document {value : Value} (storable : Storable maxDepth value) :
    ∃ body, write value = (String.ofList body, none) ∧ '\r' ∉ body ∧
      ∀ rest, EndsNumber rest →
        (skipSpace rest = [] → readDocument (body ++ rest) = .ok value) ∧
        (skipSpace rest ≠ [] → readDocument (body ++ rest) = stopAt .extraData (skipSpace rest)) := by
  obtain ⟨body, restores⟩ := storable.exists_restores (.indented 2) 0 []
  refine ⟨body, ?_, restores.oneEnd, fun rest ends => ?_⟩
  · rw [write, restores.written]
    rfl
  · have fueled : 2 * body.length ≤ 2 * (body ++ rest).length + 2 := by
      rw [List.length_append]
      omega
    have found := restores.read 0 (2 * (body ++ rest).length + 2) rest (by omega) fueled ends
    obtain ⟨c, cs, rfl, opens⟩ := restores.opens
    rw [List.cons_append] at found ⊢
    unfold readDocument
    split
    · next starts => exact absurd (List.cons.inj starts).1 opens.2.2.2
    · rw [skipSpace_cons _ opens.1, found, Outcome.ok_bind]
      simp only
      cases skipSpace rest with
      | nil => exact ⟨fun _ => rfl, fun more => absurd rfl more⟩
      | cons d more => exact ⟨nofun, fun _ => rfl⟩

/-- A document is read as the value that it was written from. -/
theorem Storable.parse_write {value : Value} (storable : Storable maxDepth value) :
    ∃ text, write value = (text, none) ∧ Document.parse false text = .ok value := by
  obtain ⟨body, written, oneEnd, reads⟩ := storable.exists_document
  have document := (reads [] nofun).1 rfl
  rw [List.append_nil] at document
  refine ⟨_, written, ?_⟩
  rw [Document.parse, String.toList_ofList, Text.unifyLines_of_not_mem oneEnd]
  simp only [Bool.false_eq_true, if_false, read, document]
  rfl

/-- A document with something else after it is not read. -/
theorem Storable.parse_append {value : Value} (storable : Storable maxDepth value) {text : String}
    (written : write value = (text, none)) {rest : List Char} (ends : EndsNumber rest)
    (more : skipSpace rest ≠ []) (oneEnd : '\r' ∉ rest) :
    ∃ detail, Document.parse false (text ++ String.ofList rest) = .error (.unreadable detail) := by
  obtain ⟨body, same, noReturn, reads⟩ := storable.exists_document
  rw [written] at same
  cases same
  have both : '\r' ∉ body ++ rest := by
    rw [List.mem_append, not_or]
    exact ⟨noReturn, oneEnd⟩
  rw [Document.parse, String.toList_append, String.toList_ofList, String.toList_ofList,
    Text.unifyLines_of_not_mem both]
  simp only [Bool.false_eq_true, if_false, read, (reads rest ends).2 more, stopAt]
  exact ⟨_, rfl⟩

end Json

end VariantIter
