import VariantIter.Yaml.Spelling
import VariantIter.Yaml.Token

/-!
The nodes of a YAML document, found from its tokens.

Nodes are numbered in the order in which they start, and a collection names its parts by their numbers.
An alias is the number of the node that its anchor names, so a node may stand in several places, and
even inside of itself. A stream may hold one document at most.
-/

namespace VariantIter.Yaml

/-- What a node holds; the numbers are those of other nodes. -/
inductive Body where
  | scalar (text : Text)
  | sequence (items : List Nat)
  | mapping (pairs : List (Nat × Nat))
deriving DecidableEq, Repr

structure Node where
  tag : Tag
  body : Body
deriving DecidableEq, Repr

abbrev Nodes := Array Node

/-- What is left of the tokens with the fault that comes after them, the number of collections around
the next token, the anchors met so far, the tag handles of the document, and the nodes found. -/
structure Composer where
  rest : List Token
  fault : Option Fault
  depth : Nat := 0
  anchors : List (String × Nat) := []
  handles : List (String × String) := []
  nodes : Nodes := #[]

abbrev Compose := StateT Composer (Except Fault)

namespace Compose

def fail {α : Type} (cause : Malformed) : Compose α :=
  throw (.malformed cause)

/-- The next token; a fault comes up when it is looked for beyond the last one. -/
def peek : Compose (Option Token) := do
  let c ← get
  match c.rest, c.fault with
  | token :: _, _ => return some token
  | [], some fault => throw fault
  | [], none => return none

/-- Passes over a token. -/
def skip : Compose Unit :=
  modify fun c => { c with rest := c.rest.tail }

/-- The next token is one of the given ones. -/
def nextIs (tokens : List Token) : Compose Bool := do
  match ← peek with
  | some token => return tokens.contains token
  | none => return false

/-- Passes over the given token if it is next. -/
def accept (token : Token) : Compose Bool := do
  if (← peek) == some token then
    skip
    return true
  else return false

/-! ## Properties -/

/-- Anchor and tag of a node, as they are written. -/
structure Properties where
  anchor : Option String := none
  tag : Option (Option String × String) := none

/-- Anchor and tag, in either order. -/
def readProperties : Compose Properties := do
  match ← peek with
  | some (.anchor name) => do
      skip
      match ← peek with
      | some (.tag handle suffix) => do
          skip
          return ⟨some name, some (handle, suffix)⟩
      | _ => return ⟨some name, none⟩
  | some (.tag handle suffix) => do
      skip
      match ← peek with
      | some (.anchor name) => do
          skip
          return ⟨some name, some (handle, suffix)⟩
      | _ => return ⟨none, some (handle, suffix)⟩
  | _ => return {}

/-- The name of a tag, with its handle replaced by what it stands for. -/
def tagName : Option (Option String × String) → Compose (Option String)
  | none => return none
  | some (none, suffix) => return some suffix
  | some (some handle, suffix) => do
      match (← get).handles.lookup handle with
      | some start => return some (start ++ suffix)
      | none => fail .unknownHandle

/-- The tag of a node: the one that is written, or else the given one. An exclamation mark alone asks
for the tag that `spelled` gives. -/
def tagOf (name : Option String) (implied spelled : Tag) : Tag :=
  match name with
  | none => implied
  | some name => if name == "!" then spelled else .ofName name

/-! ## Nodes -/

/-- Adds a node, which gets the next number, under its anchor. -/
def add (anchor : Option String) (node : Node) : Compose Nat := do
  let c ← get
  let number := c.nodes.size
  let anchors := match anchor with
    | none => c.anchors
    | some name => (name, number) :: c.anchors
  set { c with nodes := c.nodes.push node, anchors }
  return number

/-- A place where no node is written. -/
def addEmpty : Compose Nat :=
  add none ⟨.null, .scalar []⟩

/-- The number of collections that may stand inside of each other. -/
def maxDepth : Nat := 480

/-- Reads the parts of a collection, which are one level deeper than the collection itself. -/
def inside {α : Type} (parts : Compose α) : Compose α := do
  if maxDepth ≤ (← get).depth then throw .tooDeep
  modify fun c => { c with depth := c.depth + 1 }
  let found ← parts
  modify fun c => { c with depth := c.depth - 1 }
  return found

/-- Completes a collection when its parts are known. -/
def complete (number : Nat) (body : Body) : Compose Nat := do
  modify fun c =>
    { c with nodes := c.nodes.modify number fun node => { node with body } }
  return number

def resolveAlias (name : String) : Compose Nat := do
  match (← get).anchors.lookup name with
  | some number => return number
  | none => fail .unknownAlias

/-- Refuses an anchor that another node has. -/
def checkAnchor : Option String → Compose Unit
  | none => return ()
  | some name => do
      if ((← get).anchors.lookup name).isSome then fail .duplicateAnchor

/-- Takes a token that has to come. -/
def expect (token : Token) : Compose Unit := do
  if !(← accept token) then fail .endExpected

mutual

/-- A node. `block` allows block collections, `indentless` a sequence that is not indented. -/
def node : (fuel : Nat) → (block indentless : Bool) → Compose Nat
  | 0, _, _ => fail .tooDeep
  | fuel + 1, block, indentless => do
      match ← peek with
      | some (.alias name) => do
          skip
          resolveAlias name
      | _ => do
          let properties ← readProperties
          let tag ← tagName properties.tag
          let _ ← peek
          checkAnchor properties.anchor
          content fuel block indentless properties.anchor tag

/-- The content of a node after its properties; only with properties may it be missing. -/
def content : (fuel : Nat) → (block indentless : Bool) → (anchor tag : Option String) → Compose Nat
  | 0, _, _, _, _ => fail .tooDeep
  | fuel + 1, block, indentless, anchor, tag => do
      let sequence (items : Compose (List Nat)) : Compose Nat := do
        let number ← add anchor ⟨tagOf tag .sequence .sequence, .sequence []⟩
        complete number (.sequence (← inside items))
      let mapping (pairs : Compose (List (Nat × Nat))) : Compose Nat := do
        let number ← add anchor ⟨tagOf tag .mapping .mapping, .mapping []⟩
        complete number (.mapping (← inside pairs))
      match ← peek, block, indentless with
      | some .blockEntry, _, true => sequence (indentlessItems fuel)
      | some (.scalar text plain), _, _ => do
          skip
          let spelled := Tag.ofSpelling text
          add anchor ⟨tagOf tag (if plain then spelled else .text) spelled, .scalar text⟩
      | some .flowSequence, _, _ => do
          skip
          sequence (flowItems fuel true)
      | some .flowMapping, _, _ => do
          skip
          mapping (flowPairs fuel true)
      | some .blockSequence, true, _ => do
          skip
          sequence (blockItems fuel)
      | some .blockMapping, true, _ => do
          skip
          mapping (blockPairs fuel)
      | _, _, _ =>
          if anchor.isSome || tag.isSome then add anchor ⟨tagOf tag .null .null, .scalar []⟩
          else fail .contentExpected

/-- The items of a block sequence up to its end. -/
def blockItems : (fuel : Nat) → Compose (List Nat)
  | 0 => fail .tooDeep
  | fuel + 1 => do
      if ← accept .blockEntry then
        let item ←
          if ← nextIs [.blockEntry, .blockEnd] then addEmpty else node fuel true false
        return item :: (← blockItems fuel)
      else if ← accept .blockEnd then return []
      else fail .endExpected

/-- The items of a sequence at the column of the key before it. -/
def indentlessItems : (fuel : Nat) → Compose (List Nat)
  | 0 => fail .tooDeep
  | fuel + 1 => do
      if ← accept .blockEntry then
        let item ←
          if ← nextIs [.blockEntry, .key, .value, .blockEnd] then addEmpty
          else node fuel true false
        return item :: (← indentlessItems fuel)
      else return []

/-- The pairs of a block mapping up to its end. -/
def blockPairs : (fuel : Nat) → Compose (List (Nat × Nat))
  | 0 => fail .tooDeep
  | fuel + 1 => do
      if ← accept .key then
        let key ←
          if ← nextIs [.key, .value, .blockEnd] then addEmpty else node fuel true true
        let value ← blockValue fuel
        return (key, value) :: (← blockPairs fuel)
      else if ← accept .blockEnd then return []
      else fail .endExpected

def blockValue : (fuel : Nat) → Compose Nat
  | 0 => fail .tooDeep
  | fuel + 1 => do
      if ← accept .value then
        if ← nextIs [.key, .value, .blockEnd] then addEmpty else node fuel true true
      else addEmpty

/-- The items of a sequence in brackets up to the closing one; a pair is a mapping of its own. -/
def flowItems : (fuel : Nat) → (first : Bool) → Compose (List Nat)
  | 0, _ => fail .tooDeep
  | fuel + 1, first => do
      if ← accept .flowSequenceEnd then return []
      unless first do expect .flowEntry
      if ← accept .key then
        let number ← add none ⟨.mapping, .mapping []⟩
        let pair ← inside do
          let key ←
            if ← nextIs [.value, .flowEntry, .flowSequenceEnd] then addEmpty
            else node fuel false false
          let value ← flowValue fuel .flowSequenceEnd
          return (key, value)
        let item ← complete number (.mapping [pair])
        return item :: (← flowItems fuel false)
      else if ← accept .flowSequenceEnd then return []
      else
        let item ← node fuel false false
        return item :: (← flowItems fuel false)

/-- The pairs of a mapping in braces up to the closing one; a node alone is a key. -/
def flowPairs : (fuel : Nat) → (first : Bool) → Compose (List (Nat × Nat))
  | 0, _ => fail .tooDeep
  | fuel + 1, first => do
      if ← accept .flowMappingEnd then return []
      unless first do expect .flowEntry
      if ← accept .key then
        let key ←
          if ← nextIs [.value, .flowEntry, .flowMappingEnd] then addEmpty
          else node fuel false false
        let value ← flowValue fuel .flowMappingEnd
        return (key, value) :: (← flowPairs fuel false)
      else if ← accept .flowMappingEnd then return []
      else
        let key ← node fuel false false
        let value ← addEmpty
        return (key, value) :: (← flowPairs fuel false)

/-- The value after a key inside of brackets that `closing` ends. -/
def flowValue : (fuel : Nat) → (closing : Token) → Compose Nat
  | 0, _ => fail .tooDeep
  | fuel + 1, closing => do
      if ← accept .value then
        if ← nextIs [.flowEntry, closing] then addEmpty else node fuel false false
      else addEmpty

end

/-! ## Documents -/

/-- The tag handles that every document knows. -/
def defaultHandles : List (String × String) :=
  [("!", "!"), ("!!", Tag.commonStart)]

/-- The directives before a document: the handles that they declare. -/
def directives (versionSeen : Bool) (handles : List (String × String)) :
    (fuel : Nat) → Compose (List (String × String))
  | 0 => fail .tooDeep
  | fuel + 1 => do
      match ← peek with
      | some (.versionDirective major) => do
          skip
          if versionSeen || major != 1 then fail .invalidDirective
          directives true handles fuel
      | some (.tagDirective handle start) => do
          skip
          if (handles.lookup handle).isSome then fail .invalidDirective
          directives versionSeen ((handle, start) :: handles) fuel
      | some .otherDirective => do
          skip
          directives versionSeen handles fuel
      | _ => return handles

/-- Passes over the end marks of documents. -/
def skipEnds : (fuel : Nat) → Compose Unit
  | 0 => return ()
  | fuel + 1 => do
      if ← accept .documentEnd then skipEnds fuel

/-- The directives and the start mark of a document. -/
def documentHead (fuel : Nat) : Compose Unit := do
  let handles ← directives false [] fuel
  if !(← accept .documentStart) then fail .documentExpected
  modify fun c => { c with handles := handles ++ defaultHandles }

/-- A document with a start mark. -/
def explicitDocument (fuel : Nat) : Compose Nat := do
  documentHead fuel
  match ← peek with
  | none => addEmpty
  | some (.versionDirective _) => addEmpty
  | some (.tagDirective _ _) => addEmpty
  | some .otherDirective => addEmpty
  | some .documentStart => addEmpty
  | some .documentEnd => addEmpty
  | _ => node fuel true false

/-- The first document, without a start mark if a node comes first. -/
def firstDocument (fuel : Nat) : Compose (Option Nat) := do
  match ← peek with
  | none => return none
  | some (.versionDirective _) => some <$> explicitDocument fuel
  | some (.tagDirective _ _) => some <$> explicitDocument fuel
  | some .otherDirective => some <$> explicitDocument fuel
  | some .documentStart => some <$> explicitDocument fuel
  | _ => do
      modify fun c => { c with handles := defaultHandles }
      some <$> node fuel true false

/-- The node of the only document, if there is one. -/
def stream (fuel : Nat) : Compose (Option Nat) := do
  let document ← firstDocument fuel
  skipEnds fuel
  match ← peek with
  | none => return document
  | some _ => do
      documentHead fuel
      fail .severalDocuments

end Compose

/-- The nodes of a text, and the one that its document is, if it holds a document. -/
def compose (cs : List Char) : Except Fault (Nodes × Option Nat) :=
  match tokens cs with
  | .error cause => .error (.malformed cause)
  | .ok (found, fault) => do
      let (document, c) ← (Compose.stream (4 * found.length + 8)).run { rest := found, fault }
      return (c.nodes, document)

end VariantIter.Yaml
