import VariantIter.Proofs.YamlNodes
import VariantIter.Yaml.Reader

/-!
Why a text in YAML has no value.

Building values looks only at the nodes that were composed. It changes nothing in them but the pairs of
mappings and the tags of default keys, so a fault of a scalar can be traced back to the node it comes
from. Main statement: a fault that is not about a malformed text is spelled in the text, comes from its
depth, or is that of a scalar that is not spelled as its tag asks for.
-/

namespace VariantIter.Yaml

open Outcome

variable {cause : Fault}

/-- A node is still the one that was composed: only the pairs of a mapping may have changed, and the tag
of a default key to that of a text. -/
def Node.Alike (node after : Node) : Prop :=
  (after.tag = node.tag ∨ after.tag = .text) ∧
    (after.body = node.body ∨
      (∃ pairs, node.body = .mapping pairs) ∧ ∃ pairs, after.body = .mapping pairs)

theorem Node.Alike.mapping {node after : Node} {pairs : List (Nat × Nat)} (alike : node.Alike after)
    (body : after.body = .mapping pairs) : ∃ pairs, node.body = .mapping pairs := by
  rcases alike.2 with same | ⟨mapping, _⟩
  · exact ⟨pairs, same ▸ body⟩
  · exact mapping

/-- The text of a node that is used as a scalar: its own, or that of a scalar in its place if it is a
mapping. -/
def Node.Words (nodes : Nodes) (node : Node) (text : Text) : Prop :=
  node.body = .scalar text ∨
    (∃ pairs, node.body = .mapping pairs) ∧ ∃ inner ∈ nodes, inner.body = .scalar text

/-- The tags that ask for a spelling. -/
def Tag.spelled : List Tag :=
  [.bool, .int, .double, .timestamp]

/-- A fault of the scalars of a document: a text that is not spelled as its tag asks for, or a mapping
in the place of a moment. -/
inductive Misspells (nodes : Nodes) : Fault → Prop
  | scalar {number : Nat} {node : Node} {text : Text} {cause : Fault}
      (there : nodes[number]? = some node) (tagged : node.tag ∈ Tag.spelled)
      (words : node.Words nodes text) (refused : atom number node.tag text = .error cause) :
      Misspells nodes cause
  | moment {node : Node} {pairs : List (Nat × Nat)} (there : node ∈ nodes)
      (tagged : node.tag = .timestamp) (body : node.body = .mapping pairs) :
      Misspells nodes .stampMapping

namespace Build

variable {α : Type} {nodes : Nodes}

/-- All nodes are still those that were composed. -/
def Kept (nodes : Nodes) (b : Builder) : Prop :=
  ∀ (number : Nat) (after : Node), b.nodes[number]? = some after →
    ∃ node : Node, nodes[number]? = some node ∧ node.Alike after

/-- The faults of building: a malformed text, and those of scalars. -/
def Blames (nodes : Nodes) (cause : Fault) : Prop :=
  (∃ malformed, cause = .malformed malformed) ∨ Misspells nodes cause

/-- A part of building keeps the nodes alike, and has no other faults. -/
def Builds (nodes : Nodes) (x : Build α) (good : α → Prop) : Prop :=
  Keeps (Kept nodes) (Blames nodes) x good

theorem builds_fail (cause : Malformed) {good : α → Prop} :
    Builds nodes (fail cause : Build α) good :=
  keeps_throw (.inl ⟨cause, rfl⟩)

theorem builds_node (number : Nat) :
    Builds nodes (node number) fun after =>
      ∃ node, nodes[number]? = some node ∧ node.Alike after := by
  refine Keeps.bind keeps_get fun b kept => ?_
  split
  · next after found => exact keeps_pure (kept number after found)
  · exact builds_fail .wrongNode

theorem builds_cell? (number : Nat) : Builds nodes (cell? number) fun _ => True :=
  Keeps.bind keeps_get fun _ _ => keeps_pure trivial

theorem builds_setCell (number : Nat) (cell : Cell) :
    Builds nodes (setCell number cell) fun _ => True :=
  keeps_modify fun _ kept => kept

/-- Only a mapping is given other pairs. -/
theorem builds_setPairs {number : Nat} {node : Node} {pairs : List (Nat × Nat)}
    (there : nodes[number]? = some node) (body : node.body = .mapping pairs)
    (others : List (Nat × Nat)) : Builds nodes (setPairs number others) fun _ => True := by
  refine keeps_modify fun b kept other after found => ?_
  rw [Array.getElem?_modify] at found
  split at found
  · next same =>
    obtain ⟨before, present, rfl⟩ := Option.map_eq_some_iff.mp found
    obtain ⟨original, known, alike⟩ := kept other before present
    obtain rfl : node = original := Option.some.inj (there.symm.trans (same ▸ known))
    exact ⟨node, known, alike.1, .inr ⟨⟨pairs, body⟩, others, rfl⟩⟩
  · exact kept other after found

theorem builds_nameKey (key : Nat) : Builds nodes (nameKey key) fun _ => True := by
  refine keeps_modify fun b kept other after found => ?_
  rw [Array.getElem?_modify] at found
  split at found
  · next same =>
    obtain ⟨before, present, rfl⟩ := Option.map_eq_some_iff.mp found
    obtain ⟨node, there, alike⟩ := kept other before present
    refine ⟨node, there, ?_⟩
    split
    · exact ⟨.inr rfl, alike.2⟩
    · exact alike
  · exact kept other after found

theorem builds_pairsOf (number : Nat) (otherwise : Malformed) :
    Builds nodes (pairsOf number otherwise) fun _ =>
      ∃ node pairs, nodes[number]? = some node ∧ node.body = .mapping pairs := by
  refine Keeps.bind (builds_node number) fun after ⟨node, there, alike⟩ => ?_
  split
  · next pairs body =>
    obtain ⟨others, mapping⟩ := alike.mapping body
    exact keeps_pure ⟨node, others, there, mapping⟩
  · exact builds_fail otherwise

/-! ## Scalars -/

theorem builds_scalarText (fuel number : Nat) :
    Builds nodes (scalarText fuel number) fun text =>
      ∃ node, nodes[number]? = some node ∧ node.Words nodes text := by
  induction fuel generalizing number with
  | zero => exact builds_fail .tooDeep
  | succ fuel ih =>
    unfold scalarText
    refine Keeps.bind (builds_node number) fun after found => ?_
    obtain ⟨node, there, alike⟩ := found
    split
    · next text body =>
      refine keeps_pure ⟨node, there, ?_⟩
      rcases alike.2 with same | ⟨_, pairs, other⟩
      · exact .inl (same ▸ body)
      · cases body.symm.trans other
    · exact builds_fail .wrongNode
    · next pairs body =>
      have mapping := alike.mapping body
      refine Keeps.bind (keeps_findM? fun _ _ => ?_) fun found _ => ?_
      · exact Keeps.bind (builds_node _) fun _ _ => keeps_pure trivial
      split
      · next value =>
        refine Keeps.imp (ih value) fun text found => ?_
        obtain ⟨inner, present, words⟩ := found
        refine ⟨node, there, .inr ⟨mapping, ?_⟩⟩
        rcases words with own | ⟨_, further⟩
        · exact ⟨inner, Array.mem_of_getElem? present, own⟩
        · exact further
      · exact builds_fail .wrongNode

/-- Other tags than these take every text, or do not go with a scalar at all. -/
theorem blames_of_atom {number : Nat} {tag : Tag} {text : Text} {cause : Fault}
    (refused : atom number tag text = .error cause) :
    (∃ malformed, cause = .malformed malformed) ∨ tag ∈ Tag.spelled := by
  cases tag with
  | bool => exact .inr (by decide)
  | int => exact .inr (by decide)
  | double => exact .inr (by decide)
  | timestamp => exact .inr (by decide)
  | null => cases refused
  | text => cases refused
  | binary =>
    have unread : readBytes text = .error cause := map_eq_error.mp refused
    unfold readBytes at unread
    split at unread
    · cases unread
      exact .inl ⟨_, rfl⟩
    · split at unread
      · split at unread
        · cases unread
        · cases unread
          exact .inl ⟨_, rfl⟩
      · cases unread
        exact .inl ⟨_, rfl⟩
  | _ =>
    cases refused
    exact .inl ⟨_, rfl⟩

theorem builds_scalarValue (number : Nat) : Builds nodes (scalarValue number) fun _ => True := by
  refine Keeps.bind (builds_node number) fun after ⟨node, there, alike⟩ => ?_
  refine Keeps.bind keeps_get fun b _ => ?_
  refine Keeps.bind (builds_scalarText _ number) fun text ⟨same, present, words⟩ => ?_
  obtain rfl : node = same := Option.some.inj (there.symm.trans present)
  split
  · next pairs tagged body =>
    have moment : node.tag = .timestamp := by
      rcases alike.1 with same | named
      · exact same ▸ tagged
      · cases tagged.symm.trans named
    obtain ⟨others, mapping⟩ := alike.mapping body
    exact keeps_throw (.inr (.moment (Array.mem_of_getElem? there) moment mapping))
  · split
    · exact keeps_pure trivial
    · next cause refused =>
      refine keeps_throw ?_
      rcases alike.1 with same | named
      · rw [same] at refused
        exact (blames_of_atom refused).imp id fun tagged => .scalar there tagged words refused
      · rw [named] at refused
        cases refused

/-! ## Collections -/

theorem builds_makeEmpty (number : Nat) (cell : Cell) :
    Builds nodes (makeEmpty number cell) fun _ => True :=
  Keeps.bind (builds_setCell number cell) fun _ _ => keeps_modify fun _ kept => kept

theorem builds_make (number : Nat) : Builds nodes (make number) fun _ => True := by
  refine Keeps.bind (builds_cell? number) fun _ _ => keeps_ite (fun _ => ?_) fun _ => keeps_pure trivial
  refine Keeps.bind (builds_node number) fun after _ => ?_
  split
  · exact builds_makeEmpty number _
  · exact builds_makeEmpty number _
  · exact builds_makeEmpty number _
  · exact builds_makeEmpty number _
  · exact builds_makeEmpty number _
  · exact builds_fail .unknownTag
  · exact builds_fail .unknownTag
  · exact builds_fail .unknownTag
  · exact Keeps.bind (builds_scalarValue number) fun _ _ => builds_setCell number _

theorem builds_mergePair? (pairs : List (Nat × Nat)) :
    Builds nodes (mergePair? pairs) fun _ => True :=
  keeps_findM? fun _ _ => Keeps.bind (builds_node _) fun _ _ => keeps_pure trivial

theorem builds_flattenWith (merged : List (Nat × Nat)) (fuel number : Nat) :
    Builds nodes (flattenWith merged fuel number) fun _ => True := by
  induction fuel generalizing merged number with
  | zero => exact builds_fail .tooDeep
  | succ fuel ih =>
    unfold flattenWith
    refine Keeps.bind (builds_pairsOf number _) fun pairs ⟨node, others, there, body⟩ => ?_
    have set (pairs : List (Nat × Nat)) : Builds nodes (setPairs number pairs) fun _ => True :=
      builds_setPairs there body pairs
    refine Keeps.bind (builds_mergePair? pairs) fun found _ => ?_
    split
    · exact Keeps.bind (keeps_forM fun _ _ => builds_nameKey _) fun _ _ => set _
    · next key source =>
      refine Keeps.bind (set _) fun _ _ => Keeps.bind (builds_node source) fun after _ => ?_
      split
      · refine Keeps.bind (ih [] source) fun _ _ => ?_
        exact Keeps.bind (builds_pairsOf source _) fun found _ => ih _ number
      · next items _ =>
        have each : Builds nodes (items.mapM fun item => do
            let _ ← pairsOf item .invalidMerge
            flattenWith [] fuel item
            pairsOf item .invalidMerge) fun _ => True :=
          keeps_mapM fun item _ => Keeps.bind (builds_pairsOf item _) fun _ _ =>
            Keeps.bind (ih [] item) fun _ _ => Keeps.imp (builds_pairsOf item _) fun _ _ => trivial
        exact Keeps.bind each fun found _ => ih _ number
      · exact builds_fail .invalidMerge

theorem builds_mergeCount : Builds nodes mergeCount fun _ => True :=
  Keeps.bind keeps_get fun _ _ => keeps_pure trivial

theorem builds_flatten (number : Nat) : Builds nodes (flatten number) fun _ => True :=
  Keeps.bind builds_mergeCount fun _ _ => builds_flattenWith [] _ number

theorem builds_keyValue (number : Nat) : Builds nodes (keyValue number) fun _ => True := by
  refine Keeps.bind (builds_cell? number) fun cell _ => ?_
  split
  · exact keeps_pure trivial
  · exact builds_fail .collectionAsKey

theorem builds_entriesOf (number : Nat) : Builds nodes (entriesOf number) fun _ => True := by
  refine Keeps.bind (builds_pairsOf number _) fun _ _ => Keeps.bind (builds_flatten number) fun _ _ => ?_
  refine Keeps.bind (builds_pairsOf number _) fun pairs _ => ?_
  refine Keeps.bind (keeps_foldlM (fun (key, value) _ entries => ?_) []) fun _ _ => keeps_pure trivial
  refine Keeps.bind (builds_make key) fun _ _ => Keeps.bind (builds_keyValue key) fun _ _ => ?_
  exact Keeps.bind (builds_make value) fun _ _ => keeps_pure trivial

theorem builds_singlePair (number : Nat) : Builds nodes (singlePair number) fun _ => True := by
  refine Keeps.bind (builds_pairsOf number _) fun pairs _ => ?_
  split
  · next key value =>
    exact Keeps.bind (builds_make key) fun _ _ => Keeps.bind (builds_make value) fun _ _ =>
      keeps_pure trivial
  · exact builds_fail .wrongNode

theorem builds_itemsOf (number : Nat) : Builds nodes (itemsOf number) fun _ => True := by
  refine Keeps.bind (builds_node number) fun after _ => ?_
  split
  · exact keeps_pure trivial
  · exact builds_fail .wrongNode

theorem builds_fill (number : Nat) : Builds nodes (fill number) fun _ => True := by
  refine Keeps.bind (builds_cell? number) fun cell _ => ?_
  split
  · refine Keeps.bind (builds_itemsOf number) fun items _ => ?_
    exact Keeps.bind (keeps_forM fun item _ => builds_make item) fun _ _ => builds_setCell number _
  · refine Keeps.bind (builds_itemsOf number) fun items _ => ?_
    exact Keeps.bind (keeps_mapM fun item _ => builds_singlePair item) fun _ _ => builds_setCell number _
  · exact Keeps.bind (builds_entriesOf number) fun _ _ => builds_setCell number _
  · exact Keeps.bind (builds_entriesOf number) fun _ _ => builds_setCell number _
  · exact keeps_pure trivial

theorem builds_fillAll (fuel : Nat) : Builds nodes (fillAll fuel) fun _ => True := by
  induction fuel with
  | zero => exact keeps_pure trivial
  | succ fuel ih =>
    refine Keeps.bind keeps_get fun b _ => ?_
    split
    · exact keeps_pure trivial
    · next number waiting _ =>
      refine Keeps.bind (keeps_modify fun _ kept => kept) fun _ _ => ?_
      exact Keeps.bind (builds_fill number) fun _ _ => ih

end Build

theorem build_eq_error {nodes : Nodes} {document : Nat} (failed : build nodes document = .error cause) :
    (∃ malformed, cause = .malformed malformed) ∨ Misspells nodes cause := by
  have work : Build.Builds nodes (do
      Build.make document
      Build.fillAll (nodes.size + 1)) fun _ => True :=
    Keeps.bind (Build.builds_make document) fun _ _ => Build.builds_fillAll _
  have start : Build.Kept nodes { nodes, cells := Array.replicate nodes.size none } :=
    fun _ node found => ⟨node, found, .inl rfl, .inl rfl⟩
  rcases bind_eq_error.mp failed with stopped | ⟨_, _, impossible⟩
  · exact (work _ start).error stopped
  · cases impossible

/-- A text without a value is malformed or nested too deeply, or its fault can be pointed at: in the
characters, or in a scalar of the document. -/
theorem read_eq_error {cs : List Char} (failed : read cs = .error cause) :
    (∃ malformed, cause = .malformed malformed) ∨ (cause = .tooDeep ∧ Crowded cs) ∨ cause.Spelled cs ∨
      ∃ nodes document, compose cs = .ok (nodes, some document) ∧ Misspells nodes cause := by
  rcases bind_eq_error.mp failed with stopped | ⟨⟨nodes, document⟩, composed, failed⟩
  · rcases compose_eq_error stopped with malformed | deep | spelled
    · exact .inl malformed
    · exact .inr (.inl deep)
    · exact .inr (.inr (.inl spelled))
  · cases document with
    | none => cases failed
    | some document =>
      rcases bind_eq_error.mp failed with stopped | ⟨_, _, impossible⟩
      · rcases build_eq_error stopped with malformed | misspells
        · exact .inl malformed
        · exact .inr (.inr (.inr ⟨nodes, document, composed, misspells⟩))
      · cases impossible

end VariantIter.Yaml
