import RequestScript.Value.Scatter
import RequestScript.Yaml.Node
import RequestScript.Yaml.Scalar

/-!
# What a YAML document stands for

A node stands for a value by its tag: a scalar for nothing, a truth value, a number, a
date, octets or a text, and a collection for a list, a set or a mapping.  A later entry
of a mapping replaces an earlier one with an equal key and keeps its place.  A merge
entry brings in the entries of other mappings in front of the own ones.

Scalars are valued where they are met, and collections are filled one after another in
the order in which they are met, the whole first.  So of two faults the one counts that
is less deep.  A node that is part of several collections is one value in all of them,
and a collection may hold itself.

What is read is one document of YAML 1.1 with the tags of its safe schema: null, truth
values, whole numbers and numbers with a point, octets, times, texts, lists, ordered
lists of pairs, sets, and mappings with merge keys.  Other tags, several documents and
whatever is not well formed are one fault without a wording of its own.  Collections
may be nested to any depth here; a reader that calls itself for every level gives up
at a depth that depends on the room it has.

Main results:

- Definition {lit}`load`: what a text stands for.
- Definition {lit}`Graph.value`: the value of a part, cut off where a collection holds
  itself.
-/

namespace RequestScript.Yaml

/-! ## Parts -/

/-- What a node stands for: a finished scalar, or the collection of a node.  Two
numbers that are none are the same only when they come from the same node or from the
same word; {lit}`origin` is the node, where it counts. -/
inductive Datum where
  | scalar (value : Value) (origin : Option NodeId := none)
  | collection (id : NodeId)
deriving Inhabited, Repr

/-- What a collection is filled with. -/
inductive Filling where
  | list (items : List Datum)
  | pairs (items : List (Datum × Datum))
  | map (entries : List (Datum × Datum))
  | set (items : List Datum)
deriving Inhabited, Repr

/-- The name of the type of a filled collection. -/
def Filling.typeName : Filling → Text
  | .list _ => Value.typeName (.list [])
  | .pairs _ => Value.typeName (.list [])
  | .map _ => Value.typeName (.map [])
  | .set _ => Value.typeName (.set [])

/-- What a filled collection is cut off to where it holds itself. -/
def Filling.repeated : Filling → Value
  | .map _ => .repeatedMap
  | _ => .repeatedList

/-- A document with all its collections filled. -/
structure Graph where
  fillings : Array (Option Filling) := #[]
  root : Datum

/-! ## Keys -/

/-- A number as a fraction, for numbers that are equal although they are written in
different ways. -/
def keyNumber : Value → Option (Bool × Nat × Nat)
  | .bool value => some (false, value.toNat, 1)
  | .int value => some (value < 0, value.natAbs, 1)
  | .float (.finite negative significand exponent) =>
    let (num, den) := Binary64.ratio significand exponent
    some (negative && num ≠ 0, num, den)
  | _ => none

/-- Whether two values are equal as keys, if they are not the same number that is
none. -/
def sameValue (a b : Value) : Bool :=
  match keyNumber a, keyNumber b with
  | some (s, m, p), some (t, n, q) => s == t && m * q == n * p
  | none, none =>
    match a, b with
    | .null, .null => true
    | .float (.infinite s), .float (.infinite t) => s == t
    | .text s, .text t => s == t
    | .octets s, .octets t => s == t
    | .date s, .date t => s == t
    | .moment s, .moment t => s.isSameInstant t
    | _, _ => false
  | _, _ => false

/-- Whether two keys are equal. -/
def sameKey : Datum → Datum → Bool
  | .scalar (.float .nan) p, .scalar (.float .nan) q => p == q
  | .scalar a _, .scalar b _ => sameValue a b
  | _, _ => false

/-- Whether a part may be a key. -/
def Datum.isKey : Datum → Bool
  | .scalar .. => true
  | .collection _ => false

/-- Write an entry of a mapping. -/
def putEntry (key value : Datum) : List (Datum × Datum) → List (Datum × Datum)
  | [] => [(key, value)]
  | entry :: rest =>
    if sameKey entry.1 key then (entry.1, value) :: rest else entry :: putEntry key value rest

/-! ## Merging -/

/-- The state of valuing a document: its nodes, what they stand for so far, the
collections that are filled, and those that wait for it, the latest first. -/
structure Building where
  nodes : Array Node
  data : Array (Option Datum)
  fillings : Array (Option Filling)
  waiting : List NodeId := []

/-- Valuing a document. -/
abbrev Build := StateT Building (Except Fault)

namespace Build

/-- The text is not well formed, or something in it is not supported. -/
def fail {α : Type} : Build α :=
  throw .malformed

/-- A node. -/
def node (id : NodeId) : Build Node := do
  return ((← get).nodes[id]?).getD default

/-- Change a node. -/
def setNode (id : NodeId) (node : Node) : Build Unit :=
  modify fun state => { state with nodes := state.nodes.setIfInBounds id node }

/-- The entries of a node that must be a mapping. -/
def entriesOf (id : NodeId) : Build (List (NodeId × NodeId)) := do
  match (← node id).content with
  | .entries entries => return entries
  | _ => fail

/-- Change the entries of a node. -/
def setEntries (id : NodeId) (entries : List (NodeId × NodeId)) : Build Unit := do
  setNode id { ← node id with content := .entries entries }

/-- The entries that a merge entry brings in: those of a mapping, or those of a
sequence of mappings, the last one first.  All of these are freed from merge entries
before. -/
def broughtIn (free : NodeId → Build Unit) (id : NodeId) : Build (List (NodeId × NodeId)) := do
  match (← node id).content with
  | .entries _ =>
    free id
    entriesOf id
  | .items items =>
    let parts ← items.mapM fun item => do
      let _ ← entriesOf item
      free item
      entriesOf item
    return parts.reverse.flatten
  | .text _ => fail

/-- Go through entries of a mapping, after some that are kept, and take out its merge
entries; what they bring in is added up.  A key that stands for the whole mapping
becomes a text.  A merge entry may free the mapping itself; then nothing is left to be
taken out. -/
def takeMerges (free : NodeId → Build Unit) (id : NodeId)
    (kept brought : List (NodeId × NodeId)) :
    List (NodeId × NodeId) → Build (List (NodeId × NodeId))
  | [] => return brought
  | (key, value) :: rest => do
    let keyNode ← node key
    if keyNode.tag = .merge then
      setEntries id (kept ++ rest)
      let brought := brought ++ (← broughtIn free value)
      if (← entriesOf id) = kept ++ rest then takeMerges free id kept brought rest
      else return brought
    else
      if keyNode.tag = .value then setNode key { keyNode with tag := .str }
      takeMerges free id (kept ++ [(key, value)]) brought rest

/-- Free a mapping from its merge entries.  Every merge entry is taken out once, so that
mappings that merge each other come to an end. -/
def freeOfMerges : Nat → NodeId → Build Unit
  | 0, _ => pure ()
  | fuel + 1, id => do
    let brought ← takeMerges (freeOfMerges fuel) id [] [] (← entriesOf id)
    if !brought.isEmpty then setEntries id (brought ++ (← entriesOf id))

/-- The number of all entries. -/
def entryCount : Build Nat := do
  let sizes := (← get).nodes.toList.map fun node =>
    match node.content with
    | .entries entries => entries.length
    | _ => 0
  return sizes.foldr (· + ·) 0

/-! ## Valuing -/

/-- The text that a node stands for: its own, or for a mapping that of the value whose
key stands for the whole. -/
def textOf (nodes : Array Node) : Nat → NodeId → Except Fault Text
  | 0, _ => .error .endless
  | fuel + 1, id =>
    match ((nodes[id]?).getD default).content with
    | .text text => .ok text
    | .items _ => .error .malformed
    | .entries entries =>
      match entries.find? fun entry => ((nodes[entry.1]?).getD default).tag = .value with
      | some (_, value) => textOf nodes fuel value
      | none => .error .malformed

/-- What a node with the tag of a scalar stands for. -/
def scalar (id : NodeId) : Build Datum := do
  let state ← get
  let node ← node id
  if node.tag = .other then fail
  let text ← textOf state.nodes (state.nodes.size + 1) id
  match node.tag, node.content with
  | .timestamp, .entries _ => throw .timeOfMapping
  | tag, _ =>
    let value ← scalarValue tag text
    return .scalar value (if tag = .float && isNanWord text then none else some id)

/-- What a node stands for.  A collection that is met first has to wait until it is
filled. -/
def datum (id : NodeId) : Build Datum := do
  match ((← get).data[id]?).join with
  | some datum => return datum
  | none =>
    let datum ←
      if [Tag.seq, .omap, .pairs, .map, .set].contains (← node id).tag then
        modify fun state => { state with waiting := id :: state.waiting }
        pure (Datum.collection id)
      else scalar id
    modify fun state => { state with data := state.data.setIfInBounds id (some datum) }
    return datum

/-- The entries of a mapping.  Keys must be scalars. -/
def mapping (id : NodeId) : Build (List (Datum × Datum)) := do
  let _ ← entriesOf id
  freeOfMerges ((← entryCount) + 1) id
  (← entriesOf id).foldlM
    (fun entries (key, value) => do
      let key ← datum key
      if !key.isKey then fail
      return putEntry key (← datum value) entries)
    []

/-- The items of a sequence. -/
def itemsOf (id : NodeId) : Build (List NodeId) := do
  match (← node id).content with
  | .items items => return items
  | _ => fail

/-- The only entry of an item of a sequence of pairs. -/
def pair (id : NodeId) : Build (Datum × Datum) := do
  match ← entriesOf id with
  | [(key, value)] => return (← datum key, ← datum value)
  | _ => fail

/-- What a collection is filled with. -/
def filling (id : NodeId) : Build Filling := do
  match (← node id).tag with
  | .map => return .map (← mapping id)
  | .set => return .set ((← mapping id).map Prod.fst)
  | .seq => return .list (← (← itemsOf id).mapM datum)
  | _ => return .pairs (← (← itemsOf id).mapM pair)

/-- Fill a collection. -/
def fill (id : NodeId) : Build Unit := do
  let filling ← filling id
  modify fun state => { state with fillings := state.fillings.setIfInBounds id (some filling) }

/-- Fill the collections that wait, and those that they make wait. -/
def fillAll : Nat → Build Unit
  | 0 => pure ()
  | fuel + 1 => do
    let waiting := (← get).waiting.reverse
    modify fun state => { state with waiting := [] }
    waiting.forM fill
    if !waiting.isEmpty then fillAll fuel

end Build

/-! ## Documents -/

/-- What a document stands for. -/
def Document.graph (document : Document) : Except Fault Graph := do
  let size := document.nodes.size
  let start : Building :=
    { nodes := document.nodes
      data := Array.replicate size none
      fillings := Array.replicate size none }
  let build : Build Datum := do
    let root ← Build.datum document.root
    Build.fillAll (size + 1)
    return root
  let (root, state) ← build.run start
  return { fillings := state.fillings, root }

/-- What a text stands for; a text without a document stands for nothing. -/
def load (supply : Supply) : Except Fault Graph := do
  match ← document (tokens supply) with
  | none => return { root := .scalar .null }
  | some document => document.graph

namespace Graph

/-- What a collection is filled with. -/
def filling (graph : Graph) (id : NodeId) : Filling :=
  ((graph.fillings[id]?).join).getD (.list [])

/-- The value of a part, inside some collections.  Each of these is cut off where it
stands in itself. -/
def valueWithin (graph : Graph) : Nat → List NodeId → Datum → Value
  | _, _, .scalar value _ => value
  | 0, _, .collection _ => .null
  | fuel + 1, around, .collection id =>
    let value := graph.valueWithin fuel (id :: around)
    let filling := graph.filling id
    if around.contains id then filling.repeated
    else
      match filling with
      | .list items => .list (items.map value)
      | .pairs items => .list (items.map fun item => .pair (value item.1) (value item.2))
      | .map entries => .map (entries.map fun entry => (value entry.1, value entry.2))
      | .set items => .set (Scatter.inOrder (items.map value))

/-- The value of a part. -/
def value (graph : Graph) (datum : Datum) : Value :=
  graph.valueWithin (graph.fillings.size + 1) [] datum

@[simp]
theorem value_scalar (graph : Graph) (value : Value) (origin : Option NodeId) :
    graph.value (.scalar value origin) = value := by
  simp [Graph.value, valueWithin]

end Graph

end RequestScript.Yaml
