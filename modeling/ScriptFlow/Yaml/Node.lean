import ScriptFlow.Yaml.Tag

/-!
# Nodes of YAML

`Node.ofTokens` reads the one document of a text. An alias stands for the node with its anchor, which must have been completed before; an anchor names one node.
-/

namespace ScriptFlow

namespace Yaml

inductive Node where
  | scalar (tag : Tag) (text : String)
  | sequence (tag : Tag) (items : List Node)
  | mapping (tag : Tag) (entries : List (Node × Node))
  deriving Inhabited

/-- A document under way: the tokens that are left, and the nodes with anchors, of which those without a node are not complete. -/
structure Reading where
  tokens : List Token
  anchors : List (String × Option Node) := []
  handles : List (String × String) := [("!", "!"), ("!!", commonTags)]

abbrev Parse := StateT Reading (Except Problem)

namespace Parse

def peek : Parse (Option Token) := do return (← get).tokens.head?

def next : Parse Unit := modify fun r => { r with tokens := r.tokens.tail }

def broken {α : Type} (what : String) : Parse α := throw (.malformed what)

/-- Is the next token one of these? The end is none of them. -/
def at? (ts : List Token) : Parse Bool := do
  match ← peek with
  | some t => return ts.contains t
  | none => return false

/-- Passes a token if it is the next. -/
def accept (t : Token) : Parse Bool := do
  let found ← at? [t]
  if found then next
  return found

def expect (t : Token) : Parse Unit := do
  unless ← accept t do broken "unexpected token"

/-- The full name of a tag. -/
def tagName (handle : Option String) (suffix : String) : Parse String := do
  match handle with
  | none => return suffix
  | some h =>
    match (← get).handles.lookup h with
    | some expansion => return expansion ++ suffix
    | none => broken "found undefined tag handle"

/-- Anchor and tag of a node, in either order; each at most once. -/
def properties : Parse (Option String × Option String) := do
  let anchor? : Parse (Option String) := do
    match ← peek with
    | some (.anchor name) => do
      next
      return some name
    | _ => return none
  let tag? : Parse (Option String) := do
    match ← peek with
    | some (.tag handle suffix) => do
      next
      return some (← tagName handle suffix)
    | _ => return none
  match ← anchor? with
  | some name => return (some name, ← tag?)
  | none => do
    let tag ← tag?
    return (← anchor?, tag)

/-- A new anchor, whose node is not complete. -/
def openAnchor : Option String → Parse Unit
  | none => return ()
  | some name => do
    if ((← get).anchors.lookup name).isSome then broken "found duplicate anchor"
    modify fun r => { r with anchors := (name, none) :: r.anchors }

/-- Completes the node of an anchor. -/
def closeAnchor (anchor : Option String) (n : Node) : Parse Node := do
  match anchor with
  | none => return n
  | some name => do
    modify fun r => { r with anchors := (name, some n) :: r.anchors }
    return n

/-- The node of an alias. -/
def aliased (name : String) : Parse Node := do
  match (← get).anchors.lookup name with
  | some (some n) => return n
  | _ => broken "found undefined alias"

/-- Nothing at all, which is read like a plain scalar. -/
def emptyNode : Node := .scalar .null ""

/-- The tag of a collection: its own, unless it leaves that open. -/
def collectionTag (tag : Option String) (default : Tag) : Tag :=
  match tag with
  | none | some "!" => default
  | some name => .ofName name

/-- The tag of a scalar. -/
def scalarTag (tag : Option String) (text : String) (plain : Bool) : Tag :=
  match tag with
  | none => if plain then .ofPlain text else .str
  | some "!" => .ofPlain text
  | some name => .ofName name

mutual

/-- A node; `block` says whether it may be a block, `bare` whether a block sequence without indentation of its own may follow. -/
def node : Nat → Bool → Bool → Parse Node
  | 0, _, _ => broken "nodes nest too deep"
  | fuel + 1, block, bare => do
    match ← peek with
    | some (.alias name) => do
      next
      aliased name
    | _ => do
      let (anchor, tag) ← properties
      openAnchor anchor
      let t ← peek
      if bare && t == some .blockEntry then
        closeAnchor anchor (.sequence (collectionTag tag .seq) (← bareItems fuel))
      else
        match t with
        | some (.scalar text plain) => do
          next
          closeAnchor anchor (.scalar (scalarTag tag text plain) text)
        | some .flowSequenceStart => do
          next
          closeAnchor anchor (.sequence (collectionTag tag .seq) (← flowItems fuel true))
        | some .flowMappingStart => do
          next
          closeAnchor anchor (.mapping (collectionTag tag .map) (← flowEntries fuel true))
        | t =>
          if block && t == some .blockSequenceStart then do
            next
            closeAnchor anchor (.sequence (collectionTag tag .seq) (← blockItems fuel))
          else if block && t == some .blockMappingStart then do
            next
            closeAnchor anchor (.mapping (collectionTag tag .map) (← blockEntries fuel))
          else if anchor.isSome || tag.isSome then
            closeAnchor anchor (.scalar (scalarTag tag "" true) "")
          else broken "expected the node content"

/-- The items of a block sequence. -/
def blockItems : Nat → Parse (List Node)
  | 0 => broken "too many items"
  | fuel + 1 => do
    if ← accept .blockEntry then
      let item ← if ← at? [.blockEntry, .blockEnd] then pure emptyNode else node fuel true false
      return item :: (← blockItems fuel)
    else
      expect .blockEnd
      return []

/-- The items of a block sequence that shares the indentation of the mapping around it. -/
def bareItems : Nat → Parse (List Node)
  | 0 => broken "too many items"
  | fuel + 1 => do
    if ← accept .blockEntry then
      let item ← if ← at? [.blockEntry, .key, .value, .blockEnd] then pure emptyNode else node fuel true false
      return item :: (← bareItems fuel)
    else return []

def blockEntries : Nat → Parse (List (Node × Node))
  | 0 => broken "too many entries"
  | fuel + 1 => do
    let part : Parse Node := do
      if ← at? [.key, .value, .blockEnd] then return emptyNode else node fuel true true
    if ← accept .key then
      let key ← part
      let value ← if ← accept .value then part else pure emptyNode
      return (key, value) :: (← blockEntries fuel)
    else
      expect .blockEnd
      return []

/-- The items of a flow sequence; an item may be a single entry of a mapping. -/
def flowItems : Nat → Bool → Parse (List Node)
  | 0, _ => broken "too many items"
  | fuel + 1, first => do
    if ← accept .flowSequenceEnd then return []
    unless first do expect .flowEntry
    if ← accept .key then
      let key ← if ← at? [.value, .flowEntry, .flowSequenceEnd] then pure emptyNode else node fuel false false
      let value ← if ← accept .value then
          (if ← at? [.flowEntry, .flowSequenceEnd] then pure emptyNode else node fuel false false)
        else pure emptyNode
      return .mapping .map [(key, value)] :: (← flowItems fuel false)
    else if ← accept .flowSequenceEnd then return []
    else
      let item ← node fuel false false
      return item :: (← flowItems fuel false)

def flowEntries : Nat → Bool → Parse (List (Node × Node))
  | 0, _ => broken "too many entries"
  | fuel + 1, first => do
    if ← accept .flowMappingEnd then return []
    unless first do expect .flowEntry
    if ← accept .key then
      let key ← if ← at? [.value, .flowEntry, .flowMappingEnd] then pure emptyNode else node fuel false false
      let value ← if ← accept .value then
          (if ← at? [.flowEntry, .flowMappingEnd] then pure emptyNode else node fuel false false)
        else pure emptyNode
      return (key, value) :: (← flowEntries fuel false)
    else if ← accept .flowMappingEnd then return []
    else
      let key ← node fuel false false
      return (key, emptyNode) :: (← flowEntries fuel false)

end

/-- Directives before a document. -/
def directives : Nat → Bool → Parse Unit
  | 0, _ => broken "too many directives"
  | fuel + 1, versioned => do
    match ← peek with
    | some (.version major _) => do
      if versioned || major != 1 then broken "found incompatible directives"
      next
      directives fuel true
    | some (.handle name expansion) => do
      let r ← get
      -- the handles that are there from the start may be replaced once
      if (r.handles.filter fun h => h.1 == name).length > (if name == "!" || name == "!!" then 1 else 0) then
        broken "duplicate tag handle"
      next
      modify fun r => { r with handles := (name, expansion) :: r.handles }
      directives fuel versioned
    | some .otherDirective => do
      next
      directives fuel versioned
    | _ => return ()

/-- Passes marks of document ends. -/
def documentEnds : Nat → Parse Unit
  | 0 => return ()
  | fuel + 1 => do
    if ← accept .documentEnd then documentEnds fuel

/-- The one document, if there is any. -/
def document (fuel : Nat) : Parse (Option Node) := do
  match ← peek with
  | none => return none
  | some t => do
    let marked := match t with
      | .version .. | .handle .. | .otherDirective | .documentStart => true
      | _ => false
    let n ← if marked then do
        directives fuel false
        expect .documentStart
        match ← peek with
        | none | some .documentEnd | some .documentStart | some (.version ..) | some (.handle ..) | some .otherDirective =>
          pure emptyNode
        | _ => node fuel true false
      else node fuel true false
    documentEnds fuel
    if (← peek).isSome then broken "expected a single document"
    return some n

end Parse

/-- The document of a list of tokens. -/
def Node.ofTokens (ts : List Token) : Result (Option Node) := do
  let (n, _) ← (Parse.document (4 * ts.length + 16)).run { tokens := ts }
  return n

end Yaml

end ScriptFlow
