import RequestScript.OrderedMap
import RequestScript.Yaml.Layout
import RequestScript.Yaml.Tag

/-!
# Nodes of a YAML document

The tokens of a text form a document: a scalar, a sequence of nodes, or a mapping
from nodes to nodes.  Every node has a tag that says what it stands for, given or
found from its form.  An anchor names a node, and an alias stands for the node named
before it.  So a document is a graph: its nodes are numbered in the order in which they
begin, and a node may be part of several nodes, of itself too.

Main results:

- Definition {lit}`document`: the only document of a text, or none when the text
  holds nothing.
-/

namespace RequestScript.Yaml

/-- The number of a node in its document. -/
abbrev NodeId := Nat

/-- What a node is made of. -/
inductive Content where
  | text (text : Text)
  | items (items : List NodeId)
  | entries (entries : List (NodeId × NodeId))
deriving DecidableEq, Inhabited, Repr

/-- A node of a document. -/
structure Node where
  tag : Tag
  content : Content
deriving DecidableEq, Inhabited, Repr

/-- A document: its nodes, and which of them is the whole. -/
structure Document where
  nodes : Array Node
  root : NodeId
deriving Repr

/-! ## Reading tokens -/

/-- The state of reading nodes: the tokens that are left, what ends them early, the
nodes so far, the anchors, and the handles of tags. -/
structure Reading where
  tokens : List Token
  ending : Option Fault := none
  nodes : Array Node := #[]
  anchors : OrderedMap Text NodeId := ∅
  handles : OrderedMap Text Text :=
    .ofList [(['!'], ['!']), ("!!".toList, standardTags)]

/-- Reading nodes. -/
abbrev Reader := StateT Reading (Except Fault)

namespace Reader

/-- The text is not well formed. -/
def fail {α : Type} : Reader α :=
  throw .malformed

/-- The next token.  Where the tokens end early, so does the reading. -/
def peek : Reader (Option Token) := do
  let state ← get
  match state.tokens, state.ending with
  | [], some fault => throw fault
  | tokens, _ => return tokens.head?

/-- Pass over the next token. -/
def skip : Reader Unit :=
  modify fun state => { state with tokens := state.tokens.drop 1 }

/-- Pass over the next token if it is the given one. -/
def accept (token : Token) : Reader Bool := do
  if (← peek) = some token then
    skip
    return true
  else return false

/-- Pass over the next token, which must be the given one. -/
def expect (token : Token) : Reader Unit := do
  if ← accept token then pure () else fail

/-- Whether the next token is one of the given ones. -/
def isAt (choices : List Token) : Reader Bool := do
  match ← peek with
  | some token => return choices.contains token
  | none => return false

/-- Add a node. -/
def add (node : Node) : Reader NodeId := do
  let state ← get
  set { state with nodes := state.nodes.push node }
  return state.nodes.size

/-- Give a name to a node. -/
def register (anchor : Option Text) (id : NodeId) : Reader Unit :=
  match anchor with
  | some name => modify fun state => { state with anchors := state.anchors.insert name id }
  | none => pure ()

/-- Add an empty node. -/
def addEmpty : Reader NodeId :=
  add ⟨.null, .text []⟩

/-- The anchor in front of a node. -/
def anchorHere : Reader (Option Text) := do
  match ← peek with
  | some (.anchor name) =>
    skip
    return some name
  | _ => return none

/-- The tag in front of a node, as it is written. -/
def tagHere : Reader (Option (Option Text × Text)) := do
  match ← peek with
  | some (.tag handle suffix) =>
    skip
    return some (handle, suffix)
  | _ => return none

/-- The anchor and the tag in front of a node, in either order. -/
def writtenProperties : Reader (Option Text × Option (Option Text × Text)) := do
  match ← anchorHere with
  | some anchor => return (some anchor, ← tagHere)
  | none =>
    match ← tagHere with
    | some tag => return (← anchorHere, some tag)
    | none => return (none, none)

/-- The name of a tag: its handle stands for a beginning. -/
def tagName : Option Text × Text → Reader Text
  | (none, suffix) => return suffix
  | (some handle, suffix) => do
    match (← get).handles.get? handle with
    | some leading => return leading ++ suffix
    | none => fail

/-- The anchor and the name of the tag in front of a node. -/
def properties : Reader (Option Text × Option Text) := do
  let (anchor, tag) ← writtenProperties
  match tag with
  | some tag => return (anchor, some (← tagName tag))
  | none => return (anchor, none)

/-- The tag of a collection. -/
def collectionTag (tag : Option Text) (default : Tag) : Tag :=
  match tag with
  | none => default
  | some name => if name = ['!'] then default else .ofText name

/-- The tag of a scalar. -/
def scalarTag (tag : Option Text) (isPlain : Bool) (text : Text) : Tag :=
  match tag with
  | none => if isPlain then .ofPlain text else .str
  | some name => if name = ['!'] then .ofPlain text else .ofText name

/-- Add a scalar with properties. -/
def addScalar (anchor tag : Option Text) (isPlain : Bool) (text : Text) : Reader NodeId := do
  let id ← add ⟨scalarTag tag isPlain text, .text text⟩
  register anchor id
  return id

/-- Add a collection with properties.  It can be named while its parts are read. -/
def addCollection (anchor : Option Text) (tag : Tag) (parts : Reader Content) :
    Reader NodeId := do
  let id ← add ⟨tag, .items []⟩
  register anchor id
  let content ← parts
  modify fun state => { state with nodes := state.nodes.setIfInBounds id ⟨tag, content⟩ }
  return id

mutual

/-- A node.  {lit}`inBlock` says whether indentation may open a collection, and
{lit}`flush` whether a sequence may stand at the indentation of the mapping around
it. -/
def node (inBlock flush : Bool) : Nat → Reader NodeId
  | 0 => fail
  | fuel + 1 => do
    match ← peek with
    | some (.alias name) =>
      skip
      match (← get).anchors.get? name with
      | some id => return id
      | none => fail
    | _ =>
      let (anchor, tag) ← properties
      let next ← peek
      if let some name := anchor then
        if (← get).anchors.contains name then fail
      let sequence (items : Reader (List NodeId)) : Reader NodeId :=
        addCollection anchor (collectionTag tag .seq) (.items <$> items)
      let mapping (entries : Reader (List (NodeId × NodeId))) : Reader NodeId :=
        addCollection anchor (collectionTag tag .map) (.entries <$> entries)
      let nothing : Reader NodeId :=
        if anchor.isSome || tag.isSome then addScalar anchor tag true [] else fail
      match next with
      | some .blockEntry => if flush then sequence (flushEntries fuel) else nothing
      | some (.scalar text isPlain) =>
        skip
        addScalar anchor tag isPlain text
      | some .flowSequenceStart =>
        skip
        sequence (flowItems true fuel)
      | some .flowMappingStart =>
        skip
        mapping (flowEntries true fuel)
      | some .blockSequenceStart =>
        if inBlock then
          skip
          sequence (blockItems fuel)
        else nothing
      | some .blockMappingStart =>
        if inBlock then
          skip
          mapping (blockEntries fuel)
        else nothing
      | _ => nothing

/-- The items of a block sequence. -/
def blockItems : Nat → Reader (List NodeId)
  | 0 => fail
  | fuel + 1 => do
    if ← accept .blockEntry then
      let item ←
        if ← isAt [.blockEntry, .blockEnd] then addEmpty else node true false fuel
      return item :: (← blockItems fuel)
    else
      expect .blockEnd
      return []

/-- The items of a sequence at the indentation of the mapping around it. -/
def flushEntries : Nat → Reader (List NodeId)
  | 0 => fail
  | fuel + 1 => do
    if ← accept .blockEntry then
      let item ←
        if ← isAt [.blockEntry, .key, .value, .blockEnd] then addEmpty
        else node true false fuel
      return item :: (← flushEntries fuel)
    else return []

/-- The entries of a block mapping. -/
def blockEntries : Nat → Reader (List (NodeId × NodeId))
  | 0 => fail
  | fuel + 1 => do
    if ← accept .key then
      let part : Reader NodeId := do
        if ← isAt [.key, .value, .blockEnd] then addEmpty else node true true fuel
      let key ← part
      let value ← if ← accept .value then part else addEmpty
      return (key, value) :: (← blockEntries fuel)
    else
      expect .blockEnd
      return []

/-- The items of a sequence between brackets.  An item with a key is a mapping of
one entry. -/
def flowItems (isFirst : Bool) : Nat → Reader (List NodeId)
  | 0 => fail
  | fuel + 1 => do
    if ← accept .flowSequenceEnd then return []
    if !isFirst then expect .flowEntry
    if ← accept .key then
      let item ← addCollection none .map do
        let key ←
          if ← isAt [.value, .flowEntry, .flowSequenceEnd] then addEmpty
          else node false false fuel
        let value ←
          if ← accept .value then
            if ← isAt [.flowEntry, .flowSequenceEnd] then addEmpty else node false false fuel
          else addEmpty
        return .entries [(key, value)]
      return item :: (← flowItems false fuel)
    else if ← accept .flowSequenceEnd then return []
    else
      let item ← node false false fuel
      return item :: (← flowItems false fuel)

/-- The entries of a mapping between brackets.  A key may stand alone. -/
def flowEntries (isFirst : Bool) : Nat → Reader (List (NodeId × NodeId))
  | 0 => fail
  | fuel + 1 => do
    if ← accept .flowMappingEnd then return []
    if !isFirst then expect .flowEntry
    if ← accept .key then
      let key ←
        if ← isAt [.value, .flowEntry, .flowMappingEnd] then addEmpty
        else node false false fuel
      let value ←
        if ← accept .value then
          if ← isAt [.flowEntry, .flowMappingEnd] then addEmpty else node false false fuel
        else addEmpty
      return (key, value) :: (← flowEntries false fuel)
    else if ← accept .flowMappingEnd then return []
    else
      let key ← node false false fuel
      let value ← addEmpty
      return (key, value) :: (← flowEntries false fuel)

end

/-- The handles that directives define.  The version may be given once, and every
handle once. -/
def directives (versionSeen : Bool) (handles : OrderedMap Text Text) :
    Nat → Reader (OrderedMap Text Text)
  | 0 => fail
  | fuel + 1 => do
    match ← peek with
    | some (.version major) =>
      skip
      if versionSeen || major ≠ 1 then fail
      directives true handles fuel
    | some (.tagHandle handle leading) =>
      skip
      if handles.contains handle then fail
      directives versionSeen (handles.insert handle leading) fuel
    | some .otherDirective =>
      skip
      directives versionSeen handles fuel
    | _ => return handles

/-- Whether a token belongs to the start of a document. -/
def startsDocument : Token → Bool
  | .version _ => true
  | .tagHandle _ _ => true
  | .otherDirective => true
  | .documentStart => true
  | _ => false

/-- The directives and the mark in front of a document. -/
def documentHead : Reader Unit := do
  let handles ← directives false ∅ ((← get).tokens.length + 1)
  expect .documentStart
  modify fun state => { state with handles := state.handles.merge handles }

/-- The node of a document.  After a mark it may be left out. -/
def documentBody (isMarked : Bool) : Reader NodeId := do
  let mayBeEmpty :=
    match ← peek with
    | none => true
    | some token => startsDocument token || token = .documentEnd
  if isMarked && mayBeEmpty then addEmpty
  else node true false (4 * (← get).tokens.length + 8)

/-- Pass over the marks at the end of a document. -/
def documentEnds : Nat → Reader Unit
  | 0 => pure ()
  | fuel + 1 => do
    if ← accept .documentEnd then documentEnds fuel

/-- The only document of a text. -/
def document : Reader (Option NodeId) := do
  match ← peek with
  | none => return none
  | some token =>
    let isMarked := startsDocument token
    if isMarked then documentHead
    let root ← documentBody isMarked
    documentEnds ((← get).tokens.length + 1)
    match ← peek with
    | none => return some root
    | some _ => fail

end Reader

/-- The only document of a text that is cut into tokens; a text without tokens has
none. -/
def document (run : TokenRun) : Except Fault (Option Document) := do
  let (root, state) ← Reader.document.run { tokens := run.tokens, ending := run.ending }
  return root.map fun root => ⟨state.nodes, root⟩

end RequestScript.Yaml
