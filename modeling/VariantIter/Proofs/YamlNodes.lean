import VariantIter.Proofs.YamlScanning
import VariantIter.Yaml.Node

/-!
Where composing the nodes of YAML ends.

A collection is opened by a token, and no token opens two. So the number of collections around a token
is bounded by the number of tokens before it that may open one. Main statement: composing adds one fault
to those of a malformed text and of its tokens, and that fault needs more such tokens than collections
may stand inside of each other.
-/

namespace VariantIter.Yaml

open Outcome

namespace Compose

variable {α : Type} {fault : Option Fault} {total : Nat}

/-- The tokens that may open a collection: a bracket, the start of a block, and the mark of an entry or
of a key where the collection has no token of its own. -/
def opens : Token → Bool
  | .flowSequence => true
  | .flowMapping => true
  | .blockSequence => true
  | .blockMapping => true
  | .blockEntry => true
  | .key => true
  | _ => false

/-- How many collections tokens open at most. -/
def openings (tokens : List Token) : Nat :=
  tokens.countP opens

/-- The faults of composing: a malformed text, more collections inside of each other than are allowed,
and the fault that comes after the tokens. -/
def Stops (fault : Option Fault) (total : Nat) (cause : Fault) : Prop :=
  (∃ malformed, cause = .malformed malformed) ∨ (cause = .tooDeep ∧ maxDepth < total) ∨
    fault = some cause

/-- The fault after the tokens is still to come, and each of the collections around the next token has
a token before it that opened it; `spare` of them have not opened one. -/
def Within (fault : Option Fault) (total spare : Nat) (c : Composer) : Prop :=
  c.fault = fault ∧ c.depth + openings c.rest + spare ≤ total

/-- A part of composing has no other faults, and opens no more than its tokens do. -/
def Composes (fault : Option Fault) (total : Nat) (x : Compose α) : Prop :=
  Runs (Within fault total 0) (Stops fault total) x fun _ => Within fault total 0

theorem composes_fail (cause : Malformed) : Composes fault total (fail cause : Compose α) :=
  runs_throw fun _ _ => .inl ⟨cause, rfl⟩

theorem composes_pure (a : α) : Composes fault total (pure a) :=
  runs_pure fun _ within => within

/-- What does not touch the tokens or the depth. -/
theorem composes_modify {f : Composer → Composer}
    (same : ∀ c, (f c).fault = c.fault ∧ (f c).depth = c.depth ∧ (f c).rest = c.rest) :
    Composes fault total (modify f) := by
  refine runs_modify fun c within => ?_
  obtain ⟨fault', depth, rest⟩ := same c
  rwa [Within, fault', depth, rest]

/-! ## Tokens -/

theorem openings_of_head {token : Token} {rest : List Token} (first : rest.head? = some token)
    (opening : opens token = true) : openings rest = openings rest.tail + 1 := by
  obtain ⟨rest, rfl⟩ := List.head?_eq_some_iff.mp first
  exact List.countP_cons_of_pos opening

theorem Within.skip {spare : Nat} {c : Composer} (within : Within fault total spare c) :
    Within fault total spare { c with rest := c.rest.tail } := by
  have fewer : openings c.rest.tail ≤ openings c.rest := (List.tail_sublist c.rest).countP_le
  exact ⟨within.1, by have := within.2; simp only; omega⟩

/-- A token that may open a collection is spare until one is opened. -/
theorem Within.skip_opening {spare : Nat} {c : Composer} {token : Token}
    (within : Within fault total spare c) (first : c.rest.head? = some token)
    (opening : opens token = true) :
    Within fault total (spare + 1) { c with rest := c.rest.tail } := by
  have more := openings_of_head first opening
  exact ⟨within.1, by have := within.2; simp only; omega⟩

theorem composes_skip : Composes fault total skip :=
  runs_modify fun _ within => within.skip

/-- Looking at the next token moves nothing. -/
theorem runs_peek {before : Composer → Prop} (pending : ∀ c, before c → c.fault = fault) :
    Runs before (Stops fault total) peek fun token c => before c ∧ c.rest.head? = token := by
  refine Runs.bind runs_get fun seen => ?_
  split
  · next token rest found =>
    exact runs_pure fun c ⟨same, allowed⟩ => ⟨allowed, by rw [← same, found]; rfl⟩
  · next cause _ later =>
    refine runs_throw fun c ⟨same, allowed⟩ => .inr (.inr ?_)
    rw [← pending c allowed, ← same, later]
  · next found _ =>
    exact runs_pure fun c ⟨same, allowed⟩ => ⟨allowed, by rw [← same, found]; rfl⟩

theorem composes_peek : Composes fault total peek :=
  Runs.imp (runs_peek fun _ within => within.1) (fun _ within => within) fun _ _ holds => holds.1

theorem composes_nextIs (tokens : List Token) : Composes fault total (nextIs tokens) := by
  refine Runs.bind composes_peek fun token => ?_
  cases token with
  | none => exact composes_pure _
  | some token => exact composes_pure _

/-- A token is passed over if it comes next, and nothing moves otherwise. -/
theorem runs_accept {before : Composer → Prop} {after : Bool → Composer → Prop} (token : Token)
    (pending : ∀ c, before c → c.fault = fault)
    (yes : ∀ c, before c → c.rest.head? = some token → after true { c with rest := c.rest.tail })
    (no : ∀ c, before c → c.rest.head? ≠ some token → after false c) :
    Runs before (Stops fault total) (accept token) after := by
  refine Runs.bind (runs_peek pending) fun seen => runs_ite (fun same => ?_) fun other => ?_
  · have passed : Runs (fun c => before c ∧ c.rest.head? = seen) (Stops fault total) skip fun _ =>
        after true :=
      runs_modify fun c ⟨allowed, first⟩ => yes c allowed (first.trans (beq_iff_eq.mp same))
    exact Runs.bind passed fun _ => runs_pure fun _ holds => holds
  · exact runs_pure fun c ⟨allowed, first⟩ => no c allowed fun equal =>
      other (beq_iff_eq.mpr (first.symm.trans equal))

theorem composes_accept (token : Token) : Composes fault total (accept token) :=
  runs_accept token (fun _ within => within.1) (fun _ within _ => within.skip) fun _ within _ => within

theorem composes_expect (token : Token) : Composes fault total (expect token) :=
  Runs.bind (composes_accept token) fun _ => runs_ite (fun _ => composes_fail .endExpected) fun _ =>
    composes_pure _

/-! ## Properties -/

theorem composes_readProperties : Composes fault total readProperties := by
  refine Runs.bind composes_peek fun token => ?_
  split
  · refine Runs.bind composes_skip fun _ => Runs.bind composes_peek fun token => ?_
    split
    · exact Runs.bind composes_skip fun _ => composes_pure _
    · exact composes_pure _
  · refine Runs.bind composes_skip fun _ => Runs.bind composes_peek fun token => ?_
    split
    · exact Runs.bind composes_skip fun _ => composes_pure _
    · exact composes_pure _
  · exact composes_pure _

/-- Looking at the composer moves nothing. -/
theorem composes_get {next : Composer → Compose α} (goesOn : ∀ c, Composes fault total (next c)) :
    Composes fault total (get >>= next) :=
  Runs.bind runs_get fun c => Runs.imp (goesOn c) (fun _ holds => holds.2) fun _ _ within => within

theorem composes_tagName (tag : Option (Option String × String)) :
    Composes fault total (tagName tag) := by
  unfold tagName
  split
  · exact composes_pure _
  · exact composes_pure _
  · refine composes_get fun c => ?_
    split
    · exact composes_pure _
    · exact composes_fail .unknownHandle

theorem composes_resolveAlias (name : String) : Composes fault total (resolveAlias name) := by
  refine composes_get fun c => ?_
  split
  · exact composes_pure _
  · exact composes_fail .unknownAlias

theorem composes_checkAnchor (anchor : Option String) : Composes fault total (checkAnchor anchor) := by
  cases anchor with
  | none => exact composes_pure _
  | some name =>
    exact composes_get fun c => runs_ite (fun _ => composes_fail .duplicateAnchor) fun _ =>
      composes_pure _

/-! ## Nodes -/

/-- A property of the tokens and of the depth outlives new nodes. -/
theorem runs_add {before : Composer → Prop} (anchor : Option String) (node : Node)
    (frame : ∀ c nodes anchors, before c → before { c with nodes := nodes, anchors := anchors }) :
    Runs before (Stops fault total) (add anchor node) fun _ => before :=
  fun c allowed => frame c _ _ allowed

theorem composes_add (anchor : Option String) (node : Node) :
    Composes fault total (add anchor node) :=
  runs_add anchor node fun _ _ _ within => within

theorem composes_addEmpty : Composes fault total addEmpty :=
  composes_add none _

theorem composes_complete (number : Nat) (body : Body) :
    Composes fault total (complete number body) :=
  Runs.bind (composes_modify fun _ => ⟨rfl, rfl, rfl⟩) fun _ => composes_pure _

/-- The parts of a collection are read one level deeper. -/
theorem runs_inside {before start : Composer → Prop} {parts : Compose α}
    (shallow : ∀ c, before c → c.depth < total)
    (enters : ∀ c, before c → start { c with depth := c.depth + 1 })
    (runs : Runs start (Stops fault total) parts fun _ => Within fault total 0) :
    Runs before (Stops fault total) (inside parts) fun _ => Within fault total 0 := by
  refine Runs.bind runs_get fun seen => runs_ite (fun deep => ?_) fun _ => ?_
  · rintro c ⟨rfl, allowed⟩
    exact .inr (.inl ⟨rfl, Nat.lt_of_le_of_lt deep (shallow _ allowed)⟩)
  · have entered : Runs (fun c => seen = c ∧ before c) (Stops fault total)
        (modify fun c => { c with depth := c.depth + 1 }) fun _ => start :=
      runs_modify fun c ⟨_, allowed⟩ => enters c allowed
    refine Runs.bind entered fun _ => Runs.bind runs fun found => ?_
    have left : Composes fault total (modify fun c => { c with depth := c.depth - 1 }) :=
      runs_modify fun c within => ⟨within.1, by have := within.2; simp only; omega⟩
    exact Runs.bind left fun _ => composes_pure found

theorem runs_inside_opened {parts : Compose α} (composes : Composes fault total parts) :
    Runs (Within fault total 1) (Stops fault total) (inside parts) fun _ => Within fault total 0 :=
  runs_inside (fun _ within => by have := within.2; omega)
    (fun _ within => ⟨within.1, by have := within.2; simp only; omega⟩) composes

/-- A collection that a token before it opened. -/
theorem runs_opened {parts : Compose α} (composes : Composes fault total parts)
    (anchor : Option String) (node : Node) (body : α → Body) :
    Runs (Within fault total 1) (Stops fault total)
      (add anchor node >>= fun number => inside parts >>= fun found => complete number (body found))
      fun _ => Within fault total 0 :=
  Runs.bind (runs_add anchor node fun _ _ _ within => within) fun number =>
    Runs.bind (runs_inside_opened composes) fun _ => composes_complete number _

/-- The first entry of a sequence without a token of its own has still to be passed over. -/
def Owes (fault : Option Fault) (total : Nat) (c : Composer) : Prop :=
  Within fault (total + 1) 0 c ∧ c.rest.head? = some .blockEntry

theorem runs_accept_owed :
    Runs (Owes fault total) (Stops fault total) (accept .blockEntry) fun _ => Within fault total 0 := by
  refine runs_accept _ (fun _ owes => owes.1.1) (fun c owes first => ?_) fun c owes other =>
    absurd owes.2 other
  have within := owes.1.skip_opening first rfl
  exact ⟨within.1, by have := within.2; omega⟩

/-- A sequence without a token of its own. -/
theorem runs_indentless {parts : Compose α}
    (runs : Runs (Owes fault total) (Stops fault total) parts fun _ => Within fault total 0)
    (anchor : Option String) (node : Node) (body : α → Body) :
    Runs (fun c => Within fault total 0 c ∧ c.rest.head? = some .blockEntry) (Stops fault total)
      (add anchor node >>= fun number => inside parts >>= fun found => complete number (body found))
      fun _ => Within fault total 0 := by
  have opened : Runs (fun c => Within fault total 0 c ∧ c.rest.head? = some .blockEntry)
      (Stops fault total) (inside parts) fun _ => Within fault total 0 := by
    refine runs_inside (fun c ⟨within, first⟩ => ?_) (fun c ⟨within, first⟩ => ⟨⟨within.1, ?_⟩, first⟩)
      runs
    · have more := openings_of_head first rfl
      have := within.2
      omega
    · have := within.2
      simp only
      omega
  exact Runs.bind (runs_add anchor node fun _ _ _ holds => holds) fun number =>
    Runs.bind opened fun _ => composes_complete number _

/-! ## Collections -/

/-- All readers of nodes, with the same fuel. -/
structure ComposeAll (fault : Option Fault) (total fuel : Nat) : Prop where
  node : ∀ block indentless, Composes fault total (node fuel block indentless)
  content : ∀ block indentless anchor tag,
    Composes fault total (content fuel block indentless anchor tag)
  blockItems : Composes fault total (blockItems fuel)
  indentlessItems : Composes fault total (indentlessItems fuel)
  owedItems : Runs (Owes fault total) (Stops fault total) (Compose.indentlessItems fuel) fun _ =>
    Within fault total 0
  blockPairs : Composes fault total (blockPairs fuel)
  blockValue : Composes fault total (blockValue fuel)
  flowItems : ∀ first, Composes fault total (flowItems fuel first)
  flowPairs : ∀ first, Composes fault total (flowPairs fuel first)
  flowValue : ∀ closing, Composes fault total (flowValue fuel closing)

variable {fuel : Nat}

theorem composes_node (all : ComposeAll fault total fuel) (block indentless : Bool) :
    Composes fault total (Compose.node (fuel + 1) block indentless) := by
  unfold Compose.node
  refine Runs.bind composes_peek fun token => ?_
  split
  · exact Runs.bind composes_skip fun _ => composes_resolveAlias _
  · refine Runs.bind composes_readProperties fun properties => ?_
    refine Runs.bind (composes_tagName _) fun tag => Runs.bind composes_peek fun _ => ?_
    exact Runs.bind (composes_checkAnchor _) fun _ => all.content _ _ _ _

theorem composes_content (all : ComposeAll fault total fuel) (block indentless : Bool)
    (anchor tag : Option String) :
    Composes fault total (Compose.content (fuel + 1) block indentless anchor tag) := by
  have opening {token : Token} (opens : opens token = true) :
      Runs (fun c => Within fault total 0 c ∧ c.rest.head? = some token) (Stops fault total) skip
        fun _ => Within fault total 1 :=
    runs_modify fun _ holds => holds.1.skip_opening holds.2 opens
  have anyway {token : Option Token} {x : Compose Nat} (composes : Composes fault total x) :
      Runs (fun c => Within fault total 0 c ∧ c.rest.head? = token) (Stops fault total) x fun _ =>
        Within fault total 0 :=
    Runs.imp composes (fun _ holds => holds.1) fun _ _ within => within
  unfold Compose.content
  refine Runs.bind (runs_peek fun _ within => within.1) fun token => ?_
  split
  · exact runs_indentless all.owedItems anchor _ .sequence
  · exact anyway (Runs.bind composes_skip fun _ => composes_add anchor _)
  · exact Runs.bind (opening rfl) fun _ => runs_opened (all.flowItems true) anchor _ .sequence
  · exact Runs.bind (opening rfl) fun _ => runs_opened (all.flowPairs true) anchor _ .mapping
  · exact Runs.bind (opening rfl) fun _ => runs_opened all.blockItems anchor _ .sequence
  · exact Runs.bind (opening rfl) fun _ => runs_opened all.blockPairs anchor _ .mapping
  · exact anyway (runs_ite (fun _ => composes_add anchor _) fun _ => composes_fail .contentExpected)

/-- A node that may be missing, and what comes after it. -/
theorem composes_optional (tokens : List Token) {read : Compose Nat}
    (composes : Composes fault total read) {next : Nat → Compose α}
    (goesOn : ∀ number, Composes fault total (next number)) :
    Composes fault total (do if ← nextIs tokens then addEmpty >>= next else read >>= next) :=
  Runs.bind (composes_nextIs tokens) fun _ =>
    runs_ite (fun _ => Runs.bind composes_addEmpty goesOn) fun _ => Runs.bind composes goesOn

/-- A token that ends a collection has to come. -/
theorem composes_end (token : Token) {parts : List α} :
    Composes fault total (do if ← accept token then return parts else fail .endExpected) :=
  Runs.bind (composes_accept token) fun _ => runs_ite (fun _ => composes_pure _) fun _ =>
    composes_fail .endExpected

theorem composes_blockItems (all : ComposeAll fault total fuel) :
    Composes fault total (Compose.blockItems (fuel + 1)) := by
  unfold Compose.blockItems
  refine Runs.bind (composes_accept _) fun _ => runs_ite (fun _ => ?_) fun _ => composes_end .blockEnd
  refine composes_optional _ (all.node true false) fun item => ?_
  exact Runs.bind all.blockItems fun _ => composes_pure _

theorem runs_indentlessItems (all : ComposeAll fault total fuel) {before : Composer → Prop}
    (accepts : Runs before (Stops fault total) (accept .blockEntry) fun _ => Within fault total 0) :
    Runs before (Stops fault total) (Compose.indentlessItems (fuel + 1)) fun _ =>
      Within fault total 0 := by
  unfold Compose.indentlessItems
  refine Runs.bind accepts fun _ => runs_ite (fun _ => ?_) fun _ => composes_pure _
  refine composes_optional _ (all.node true false) fun item => ?_
  exact Runs.bind all.indentlessItems fun _ => composes_pure _

theorem composes_blockPairs (all : ComposeAll fault total fuel) :
    Composes fault total (Compose.blockPairs (fuel + 1)) := by
  unfold Compose.blockPairs
  refine Runs.bind (composes_accept _) fun _ => runs_ite (fun _ => ?_) fun _ => composes_end .blockEnd
  refine composes_optional _ (all.node true true) fun key => Runs.bind all.blockValue fun value => ?_
  exact Runs.bind all.blockPairs fun _ => composes_pure _

theorem composes_blockValue (all : ComposeAll fault total fuel) :
    Composes fault total (Compose.blockValue (fuel + 1)) := by
  unfold Compose.blockValue
  refine Runs.bind (composes_accept _) fun _ => runs_ite (fun _ => ?_) fun _ => composes_addEmpty
  exact Runs.bind (composes_nextIs _) fun _ => runs_ite (fun _ => composes_addEmpty) fun _ =>
    all.node true true

/-- Inside of brackets every part but the first comes after a comma. -/
theorem composes_separated (first : Bool) {next : Compose α} (goesOn : Composes fault total next) :
    Composes fault total (if first then next else expect .flowEntry >>= fun _ => next) :=
  runs_ite (fun _ => goesOn) fun _ => Runs.bind (composes_expect .flowEntry) fun _ => goesOn

theorem composes_flowItems (all : ComposeAll fault total fuel) (first : Bool) :
    Composes fault total (Compose.flowItems (fuel + 1) first) := by
  have goesOn (item : Nat) :
      Composes fault total (do return item :: (← Compose.flowItems fuel false)) :=
    Runs.bind (all.flowItems false) fun _ => composes_pure _
  unfold Compose.flowItems
  refine Runs.bind (composes_accept _) fun _ => runs_ite (fun _ => composes_pure _) fun _ => ?_
  -- The mark of a key opens the mapping of a pair that stands alone.
  have marked : Runs (Within fault total 0) (Stops fault total) (accept .key) fun found =>
      Within fault total found.toNat :=
    runs_accept .key (fun _ within => within.1) (fun _ within first => within.skip_opening first rfl)
      fun _ within _ => within
  refine composes_separated first (Runs.bind marked fun found => ?_)
  cases found with
  | true =>
    refine Runs.bind (runs_add none _ fun _ _ _ within => within) fun number => ?_
    refine Runs.bind (runs_inside_opened ?_) fun pair => Runs.bind (composes_complete number _) goesOn
    exact composes_optional _ (all.node false false) fun key =>
      Runs.bind (all.flowValue _) fun value => composes_pure (key, value)
  | false =>
    refine Runs.bind (composes_accept _) fun _ => runs_ite (fun _ => composes_pure _) fun _ => ?_
    exact Runs.bind (all.node false false) goesOn

theorem composes_flowPairs (all : ComposeAll fault total fuel) (first : Bool) :
    Composes fault total (Compose.flowPairs (fuel + 1) first) := by
  have goesOn (pair : Nat × Nat) :
      Composes fault total (do return pair :: (← Compose.flowPairs fuel false)) :=
    Runs.bind (all.flowPairs false) fun _ => composes_pure _
  unfold Compose.flowPairs
  refine Runs.bind (composes_accept _) fun _ => runs_ite (fun _ => composes_pure _) fun _ => ?_
  refine composes_separated first (Runs.bind (composes_accept _) fun _ => ?_)
  refine runs_ite (fun _ => ?pair) fun _ => ?single
  case pair =>
    exact composes_optional _ (all.node false false) fun key =>
      Runs.bind (all.flowValue _) fun value => goesOn (key, value)
  case single =>
    refine Runs.bind (composes_accept _) fun _ => runs_ite (fun _ => composes_pure _) fun _ => ?_
    exact Runs.bind (all.node false false) fun key =>
      Runs.bind composes_addEmpty fun value => goesOn (key, value)

theorem composes_flowValue (all : ComposeAll fault total fuel) (closing : Token) :
    Composes fault total (Compose.flowValue (fuel + 1) closing) := by
  unfold Compose.flowValue
  refine Runs.bind (composes_accept _) fun _ => runs_ite (fun _ => ?_) fun _ => composes_addEmpty
  exact Runs.bind (composes_nextIs _) fun _ => runs_ite (fun _ => composes_addEmpty) fun _ =>
    all.node false false

theorem composeAll (fault : Option Fault) (total fuel : Nat) : ComposeAll fault total fuel := by
  induction fuel with
  | zero =>
    have out {α : Type} {before : Composer → Prop} {after : α → Composer → Prop} :
        Runs before (Stops fault total) (fail .tooDeep : Compose α) after :=
      runs_throw fun _ _ => .inl ⟨.tooDeep, rfl⟩
    exact ⟨fun _ _ => out, fun _ _ _ _ => out, out, out, out, out, out, fun _ => out, fun _ => out,
      fun _ => out⟩
  | succ fuel ih =>
    exact {
      node := composes_node ih
      content := composes_content ih
      blockItems := composes_blockItems ih
      indentlessItems := runs_indentlessItems ih (composes_accept .blockEntry)
      owedItems := runs_indentlessItems ih runs_accept_owed
      blockPairs := composes_blockPairs ih
      blockValue := composes_blockValue ih
      flowItems := composes_flowItems ih
      flowPairs := composes_flowPairs ih
      flowValue := composes_flowValue ih }

/-! ## Documents -/

theorem composes_directives {versionSeen : Bool} {handles : List (String × String)} {fuel : Nat} :
    Composes fault total (directives versionSeen handles fuel) := by
  induction fuel generalizing versionSeen handles with
  | zero => exact composes_fail .tooDeep
  | succ fuel ih =>
    unfold directives
    refine Runs.bind composes_peek fun token => ?_
    split
    · refine Runs.bind composes_skip fun _ => runs_ite (fun _ => ?_) fun _ => ih
      exact Runs.bind (composes_fail .invalidDirective) fun _ => ih
    · refine Runs.bind composes_skip fun _ => runs_ite (fun _ => ?_) fun _ => ih
      exact Runs.bind (composes_fail .invalidDirective) fun _ => ih
    · exact Runs.bind composes_skip fun _ => ih
    · exact composes_pure _

theorem composes_skipEnds (fuel : Nat) : Composes fault total (skipEnds fuel) := by
  induction fuel with
  | zero => exact composes_pure _
  | succ fuel ih =>
    exact Runs.bind (composes_accept .documentEnd) fun _ => runs_ite (fun _ => ih) fun _ =>
      composes_pure _

theorem composes_documentHead (fuel : Nat) : Composes fault total (documentHead fuel) := by
  refine Runs.bind composes_directives fun handles => Runs.bind (composes_accept _) fun _ => ?_
  have named : Composes fault total
      (modify fun c => { c with handles := handles ++ defaultHandles }) :=
    composes_modify fun _ => ⟨rfl, rfl, rfl⟩
  exact runs_ite (fun _ => Runs.bind (composes_fail .documentExpected) fun _ => named) fun _ => named

theorem composes_explicitDocument (fuel : Nat) : Composes fault total (explicitDocument fuel) := by
  refine Runs.bind (composes_documentHead fuel) fun _ => Runs.bind composes_peek fun token => ?_
  split
  case h_7 => exact (composeAll fault total fuel).node true false
  all_goals exact composes_addEmpty

theorem composes_firstDocument (fuel : Nat) : Composes fault total (firstDocument fuel) := by
  have named : Composes fault total (modify fun c => { c with handles := defaultHandles }) :=
    composes_modify fun _ => ⟨rfl, rfl, rfl⟩
  refine Runs.bind composes_peek fun token => ?_
  split
  case h_1 => exact composes_pure _
  case h_6 => exact Runs.bind named fun _ => Runs.map ((composeAll fault total fuel).node true false)
  all_goals exact Runs.map (composes_explicitDocument fuel)

theorem composes_stream (fuel : Nat) : Composes fault total (stream fuel) := by
  refine Runs.bind (composes_firstDocument fuel) fun document => ?_
  refine Runs.bind (composes_skipEnds fuel) fun _ => Runs.bind composes_peek fun token => ?_
  cases token with
  | none => exact composes_pure _
  | some token =>
    exact Runs.bind (composes_documentHead fuel) fun _ => composes_fail .severalDocuments

end Compose

variable {cs : List Char} {cause : Fault}

/-- A text has more tokens that may open a collection than collections may stand inside of each other. -/
def Crowded (cs : List Char) : Prop :=
  ∃ found fault, tokens cs = .ok (found, fault) ∧ Compose.maxDepth < Compose.openings found

/-- What keeps a text from having nodes is spelled in it or comes from its depth, unless it is
malformed. -/
theorem compose_eq_error (failed : compose cs = .error cause) :
    (∃ malformed, cause = .malformed malformed) ∨ (cause = .tooDeep ∧ Crowded cs) ∨
      cause.Spelled cs := by
  unfold compose at failed
  split at failed
  · cases failed
    exact .inl ⟨_, rfl⟩
  · next found fault scanned =>
    have start : Compose.Within fault (Compose.openings found) 0 { rest := found, fault } :=
      ⟨rfl, by simp⟩
    rcases bind_eq_error.mp failed with stopped | ⟨_, _, impossible⟩
    · rcases (Compose.composes_stream _ _ start).error stopped with malformed | ⟨deep, many⟩ | later
      · exact .inl malformed
      · exact .inr (.inl ⟨deep, found, fault, scanned, many⟩)
      · exact .inr (.inr (spelled_of_tokens (later ▸ scanned)))
    · cases impossible

end VariantIter.Yaml
