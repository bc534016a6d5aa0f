import VariantIter.Yaml.Atom
import VariantIter.Yaml.Node

/-!
From the nodes of a document to cells, which hold its values.

Every node in use has one cell. The cell of a collection is made empty at first and filled later, in the
order in which the cells are made, so a collection may hold itself. A merge key brings in the pairs of
the mappings it names, in front of the pairs of its own mapping; this changes the node once and for all.
-/

namespace VariantIter.Yaml

/-- The value of a node; the numbers are those of other cells. -/
inductive Cell where
  | atom (value : Value)
  | list (items : List Nat)
  | pairs (items : List (Nat × Nat))
  | set (items : List Nat)
  | mapping (entries : List (Nat × Nat))

/-- The nodes, the cells made so far, and the cells that wait to be filled. -/
structure Builder where
  nodes : Nodes
  cells : Array (Option Cell)
  waiting : List Nat := []

abbrev Build := StateT Builder (Except Fault)

namespace Build

def fail {α : Type} (cause : Malformed) : Build α :=
  throw (.malformed cause)

def node (number : Nat) : Build Node := do
  match (← get).nodes[number]? with
  | some node => return node
  | none => fail .wrongNode

def cell? (number : Nat) : Build (Option Cell) := do
  return ((← get).cells[number]?).join

def setCell (number : Nat) (cell : Cell) : Build Unit :=
  modify fun b => { b with cells := b.cells.modify number fun _ => some cell }

def setPairs (number : Nat) (pairs : List (Nat × Nat)) : Build Unit :=
  modify fun b =>
    { b with nodes := b.nodes.modify number fun node => { node with body := .mapping pairs } }

/-! ## Scalars -/

/-- The text of a node that is used as a scalar. In a mapping it is the value of the default key. -/
def scalarText : (fuel : Nat) → (number : Nat) → Build Text
  | 0, _ => fail .tooDeep
  | fuel + 1, number => do
      match (← node number).body with
      | .scalar text => return text
      | .sequence _ => fail .wrongNode
      | .mapping pairs => do
          match ← pairs.findM? fun (key, _) => return (← node key).tag == .default with
          | some (_, value) => scalarText fuel value
          | none => fail .wrongNode

/-- The value of a node that is used as a scalar. -/
def scalarValue (number : Nat) : Build Value := do
  let found ← node number
  let text ← scalarText ((← get).nodes.size + 1) number
  match found.tag, found.body with
  | .timestamp, .mapping _ => throw .stampMapping
  | tag, _ => match atom number tag text with
    | .ok value => return value
    | .error fault => throw fault

/-! ## Cells -/

/-- Makes the empty cell of a collection and lets it wait. -/
def makeEmpty (number : Nat) (cell : Cell) : Build Unit := do
  setCell number cell
  modify fun b => { b with waiting := b.waiting ++ [number] }

/-- Makes the cell of a node, unless it has one. -/
def make (number : Nat) : Build Unit := do
  if (← cell? number).isNone then
    match (← node number).tag with
    | .sequence => makeEmpty number (.list [])
    | .mapping => makeEmpty number (.mapping [])
    | .set => makeEmpty number (.set [])
    | .orderedMap => makeEmpty number (.pairs [])
    | .pairs => makeEmpty number (.pairs [])
    | .merge => fail .unknownTag
    | .default => fail .unknownTag
    | .unknown => fail .unknownTag
    | _ => do setCell number (.atom (← scalarValue number))

/-- The first pair with a merge key. -/
def mergePair? (pairs : List (Nat × Nat)) : Build (Option (Nat × Nat)) :=
  pairs.findM? fun (key, _) => return (← node key).tag == .merge

/-- The pairs of a mapping. -/
def pairsOf (number : Nat) (otherwise : Malformed) : Build (List (Nat × Nat)) := do
  match (← node number).body with
  | .mapping pairs => return pairs
  | _ => fail otherwise

/-- A default key in a mapping is a text like any other. -/
def nameKey (key : Nat) : Build Unit :=
  modify fun b =>
    { b with nodes := b.nodes.modify key fun node =>
        if node.tag == .default then { node with tag := .text } else node }

/-- Replaces the merge keys of a mapping by what they bring in, `merged` being the pairs found so far. A
merge key is taken out before its mappings are looked at, and every step takes out one. Of several
mappings the first counts most. -/
def flattenWith (merged : List (Nat × Nat)) : (fuel : Nat) → (number : Nat) → Build Unit
  | 0, _ => fail .tooDeep
  | fuel + 1, number => do
      let pairs ← pairsOf number .wrongNode
      match ← mergePair? pairs with
      | none => do
          pairs.forM fun (key, _) => nameKey key
          setPairs number (merged ++ pairs)
      | some (key, source) => do
          setPairs number (pairs.erase (key, source))
          match (← node source).body with
          | .mapping _ => do
              flattenWith [] fuel source
              let found ← pairsOf source .invalidMerge
              flattenWith (merged ++ found) fuel number
          | .sequence items => do
              let found ← items.mapM fun item => do
                let _ ← pairsOf item .invalidMerge
                flattenWith [] fuel item
                pairsOf item .invalidMerge
              flattenWith (merged ++ found.reverse.flatten) fuel number
          | .scalar _ => fail .invalidMerge

/-- The number of merge keys in the document; so many steps are enough for all of them. -/
def mergeCount : Build Nat := do
  let b ← get
  let isMerge (pair : Nat × Nat) : Bool := match b.nodes[pair.1]? with
    | some node => node.tag == .merge
    | none => false
  return b.nodes.foldl (fun count node => match node.body with
    | .mapping pairs => count + pairs.countP isMerge
    | _ => count) 0

def flatten (number : Nat) : Build Unit := do
  flattenWith [] ((← mergeCount) + 2) number

/-- The value of a cell that can be a key. -/
def keyValue (number : Nat) : Build Value := do
  match ← cell? number with
  | some (.atom value) => return value
  | _ => fail .collectionAsKey

/-- Sets the value under a key, in place if the key is there and at the end otherwise. -/
def putEntry (key : Value) (number value : Nat) : List (Value × Nat × Nat) → List (Value × Nat × Nat)
  | [] => [(key, number, value)]
  | (key', number', value') :: entries =>
      if key'.sameKey key then (key', number', value) :: entries
      else (key', number', value') :: putEntry key number value entries

/-- The entries of a mapping: the cells of its keys and values. -/
def entriesOf (number : Nat) : Build (List (Nat × Nat)) := do
  let _ ← pairsOf number .wrongNode
  flatten number
  let pairs ← pairsOf number .wrongNode
  let entries ← pairs.foldlM (fun entries (key, value) => do
    make key
    let name ← keyValue key
    make value
    return putEntry name key value entries) []
  return entries.map Prod.snd

/-- The only pair of a mapping. -/
def singlePair (number : Nat) : Build (Nat × Nat) := do
  match ← pairsOf number .wrongNode with
  | [(key, value)] => do
      make key
      make value
      return (key, value)
  | _ => fail .wrongNode

/-- The items of a sequence. -/
def itemsOf (number : Nat) : Build (List Nat) := do
  match (← node number).body with
  | .sequence items => return items
  | _ => fail .wrongNode

/-- Fills the cell of a collection. -/
def fill (number : Nat) : Build Unit := do
  match ← cell? number with
  | some (.list _) => do
      let items ← itemsOf number
      items.forM make
      setCell number (.list items)
  | some (.pairs _) => do
      let items ← itemsOf number
      setCell number (.pairs (← items.mapM singlePair))
  | some (.set _) => do setCell number (.set ((← entriesOf number).map Prod.fst))
  | some (.mapping _) => do setCell number (.mapping (← entriesOf number))
  | _ => return ()

/-- Fills the cells that wait. A node gets its cell once, so fuel above the number of nodes never runs
out. -/
def fillAll : (fuel : Nat) → Build Unit
  | 0 => return ()
  | fuel + 1 => do
      match (← get).waiting with
      | [] => return ()
      | number :: waiting => do
          modify fun b => { b with waiting }
          fill number
          fillAll fuel

end Build

/-- The cells of the values of a document. -/
def build (nodes : Nodes) (document : Nat) : Except Fault (Array (Option Cell)) := do
  let start : Builder := { nodes, cells := Array.replicate nodes.size none }
  let work : Build Unit := do
    Build.make document
    Build.fillAll (nodes.size + 1)
  let (_, b) ← work.run start
  return b.cells

end VariantIter.Yaml
