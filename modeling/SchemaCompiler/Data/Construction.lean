import SchemaCompiler.Data.SetOrder
import SchemaCompiler.Yaml.Scalar

/-!
# Values of YAML texts

A value is constructed from a composed graph level by level: the scalars in a collection get their
values when the collection is filled, and collections in it are filled after all those that came
before. So of several problems the one nearest to the root is reported.

The entries of merge keys come before a mapping's own ones, and of several entries with one key the
last has the value. A mapping is merged once, when it is filled or when another mapping merges it;
from then on the graph has the merged entries. A mapping that merges itself takes the entries that
it has at that moment.
-/

namespace SchemaCompiler.Data.Construction

open Yaml (Graph Composed Content Failure ScalarValue complain)

/-- What has been constructed of a node. Other nodes are given by number. -/
inductive Built where
  | value (value : Value)
  /-- A collection that is not filled yet. -/
  | waiting
  | list (items : List Nat)
  | tuples (items : List (Nat × Nat))
  | set (items : List Nat)
  | dict (entries : List (Nat × Nat))

/-- The state of a construction. -/
structure State where
  graph : Graph
  /-- What has been constructed of each node. -/
  built : Array (Option Built)
  /-- The collections to be filled, in order. -/
  queue : List Nat := []

/-- A step of a construction. -/
abbrev Build := StateT State (Except Failure)

/-- The node with a number. Edges of a graph lead to its nodes. -/
def nodeAt (id : Nat) : Build Composed := do
  match (← get).graph.node? id with
  | some node => return node
  | none => return { tag := Yaml.Tag.null, mark := {}, content := .scalar "" }

/-- The entries of a mapping. -/
def entriesOf (id : Nat) : Build (List (Nat × Nat)) := do
  match (← nodeAt id).content with
  | .mapping pairs => return pairs
  | _ => return []

/-- Change a node of the graph. -/
def changeNode (id : Nat) (change : Composed → Composed) : Build Unit :=
  modify fun state =>
    { state with graph := { state.graph with nodes := state.graph.nodes.modify id change } }

/-- Record what has been constructed of a node. -/
def record (id : Nat) (built : Built) : Build Unit :=
  modify fun state => { state with built := state.built.setIfInBounds id (some built) }

/-! ## Scalars -/

/-- The tags of collections. -/
def collectionTags : List String :=
  [Yaml.Tag.seq, Yaml.Tag.map, Yaml.Tag.set, Yaml.Tag.omap, Yaml.Tag.pairs]

/-- The tags of scalars. -/
def scalarTags : List String :=
  [Yaml.Tag.str, Yaml.Tag.null, Yaml.Tag.bool, Yaml.Tag.int, Yaml.Tag.float, Yaml.Tag.timestamp,
   Yaml.Tag.binary]

/-- The value of a scalar. -/
def ofScalar : ScalarValue → Value
  | .null => .null
  | .bool value => .bool value
  | .int value => .int value
  | .float value => .float value
  | .text value => .text value
  | .timestamp (.date value) => .date value
  | .timestamp (.moment value) => .moment value
  | .bytes value => .bytes value

/-- The text of a node as a scalar. A mapping stands for its default value, the first one under an
equals sign. There are no more steps than nodes, unless a mapping is its own default value. -/
def scalarText (graph : Graph) : Nat → Nat → Except Failure String
  | 0, _ => .error (.value .endlessDefault)
  | steps + 1, id =>
    match graph.node? id with
    | none => .ok ""
    | some node =>
      let refuse := complain (.expectedScalarNode node.content.kind) node.mark
      match node.content with
      | .scalar text => .ok text
      | .sequence _ => refuse
      | .mapping pairs =>
        let isDefault (pair : Nat × Nat) : Bool :=
          (graph.node? pair.1).any fun key => key.tag == Yaml.Tag.value
        match pairs.find? isDefault with
        | some (_, value) => scalarText graph steps value
        | none => refuse

/-- The value of a node whose tag is that of a scalar. -/
def scalarValue (graph : Graph) (id : Nat) (node : Composed) : Except Failure Value := do
  if scalarTags.contains node.tag then
    let text ← scalarText graph (graph.nodes.size + 1) id
    match node.content with
    | .scalar _ => return ofScalar (← ScalarValue.read node.tag text node.mark)
    | content =>
      if node.tag == Yaml.Tag.timestamp then .error (.value (.timestampNotText content.typeName))
      else return ofScalar (← ScalarValue.read node.tag text node.mark)
  else complain (.noConstructor node.tag) node.mark

/-- Construct a node, unless that has been done. A collection waits to be filled. -/
def construct (id : Nat) : Build Unit := do
  let state ← get
  if (state.built[id]?.join).isSome then return ()
  else
    let node ← nodeAt id
    if collectionTags.contains node.tag then
      record id .waiting
      modify fun state => { state with queue := state.queue ++ [id] }
    else record id (.value (← scalarValue state.graph id node))

/-! ## Merging -/

/-- Take the first merge key out of a mapping; the result is what it merges. -/
def takeMergeSource (id : Nat) : Build (Option Nat) := do
  let graph := (← get).graph
  let isMerge (pair : Nat × Nat) : Bool := (graph.node? pair.1).any (·.tag == Yaml.Tag.merge)
  let pairs ← entriesOf id
  match pairs.find? isMerge with
  | none => return none
  | some (_, source) =>
    changeNode id ({ · with content := .mapping (pairs.eraseP isMerge) })
    return some source

/-- Give a mapping the merged entries. An equals sign as a key is from now on a text. -/
def finishMerge (id : Nat) (merged : List (Nat × Nat)) : Build Unit := do
  let own ← entriesOf id
  changeNode id ({ · with content := .mapping (merged ++ own) })
  for (key, _) in own do
    changeNode key fun node =>
      if node.tag == Yaml.Tag.value then { node with tag := Yaml.Tag.str } else node

/-- Merge into a mapping what its merge keys name, after some entries. Every step takes a merge key
out of the graph, so there are no more steps than merge keys. -/
def mergeAfter : Nat → Nat → List (Nat × Nat) → Build Unit
  | 0, id, merged => finishMerge id merged
  | steps + 1, id, merged => do
    match ← takeMergeSource id with
    | none => finishMerge id merged
    | some source =>
      let node ← nodeAt source
      match node.content with
      | .mapping _ =>
        mergeAfter steps source []
        mergeAfter steps id (merged ++ (← entriesOf source))
      | .sequence items =>
        let lists ← items.mapM fun item => do
          let node ← nodeAt item
          match node.content with
          | .mapping _ =>
            mergeAfter steps item []
            entriesOf item
          | content => complain (.expectedMergeMapping content.kind) node.mark
        mergeAfter steps id (merged ++ lists.reverse.flatten)
      | content => complain (.expectedMergeSource content.kind) node.mark

/-- The number of merge keys of a graph. -/
def mergeKeyCount (graph : Graph) : Nat :=
  let isMerge (pair : Nat × Nat) : Bool := (graph.node? pair.1).any (·.tag == Yaml.Tag.merge)
  graph.nodes.foldl (fun count node =>
    match node.content with
    | .mapping pairs => count + pairs.countP isMerge
    | _ => count) 0

/-- Merge into a mapping what its merge keys name. -/
def merge (id : Nat) : Build Unit := do mergeAfter (mergeKeyCount (← get).graph + 1) id []

/-! ## Filling collections -/

/-- The value that has been constructed of a node, if it is no collection. -/
def State.value? (state : State) (id : Nat) : Option Value :=
  match state.built[id]?.join with
  | some (.value value) => some value
  | _ => none

/-- Is a node the word for not-a-number, rather than some other number that is none? -/
def State.isNanWord (state : State) (id : Nat) : Bool :=
  match scalarText state.graph (state.graph.nodes.size + 1) id with
  | .ok text => ScalarValue.isNanWord text
  | .error _ => false

/-- Do two nodes give the same key? Not-a-number is the same key wherever it is written as a word,
and otherwise only in the same node. -/
def State.sameKey (state : State) (a b : Nat) : Bool :=
  match state.value? a, state.value? b with
  | some (.float .nan), some (.float .nan) => a == b || (state.isNanWord a && state.isNanWord b)
  | some x, some y => x.sameKey y
  | _, _ => false

/-- The entries of a dictionary with a value under a key: in its old place if the key is there
already, otherwise at the end. -/
def State.insert (state : State) (key value : Nat) : List (Nat × Nat) → List (Nat × Nat)
  | [] => [(key, value)]
  | (other, old) :: rest =>
    if state.sameKey other key then (other, value) :: rest
    else (other, old) :: state.insert key value rest

/-- Construct the entries of a mapping. A collection cannot be a key. -/
def constructEntries (id : Nat) : Build (List (Nat × Nat)) := do
  merge id
  let mut entries := []
  for (key, value) in ← entriesOf id do
    construct key
    if ((← get).value? key).isNone then complain .unhashableKey (← nodeAt key).mark
    construct value
    entries := (← get).insert key value entries
  return entries

/-- Construct an item of a list of pairs: a mapping with one entry. -/
def constructPair (id : Nat) : Build (Nat × Nat) := do
  let node ← nodeAt id
  match node.content with
  | .mapping [(key, value)] =>
    construct key
    construct value
    return (key, value)
  | .mapping pairs => complain (.expectedSinglePair pairs.length) node.mark
  | content => complain (.expectedPairMapping content.kind) node.mark

/-- Fill a collection. -/
def fill (id : Nat) : Build Unit := do
  let node ← nodeAt id
  let kind := node.content.kind
  if node.tag == Yaml.Tag.seq then
    match node.content with
    | .sequence items =>
      items.forM construct
      record id (.list items)
    | _ => complain (.expectedSequenceNode kind) node.mark
  else if node.tag == Yaml.Tag.map || node.tag == Yaml.Tag.set then
    match node.content with
    | .mapping _ =>
      let entries ← constructEntries id
      record id (if node.tag == Yaml.Tag.map then .dict entries else .set (entries.map (·.1)))
    | _ => complain (.expectedMappingNode kind) node.mark
  else
    match node.content with
    | .sequence items => record id (.tuples (← items.mapM constructPair))
    | _ =>
      complain
        (if node.tag == Yaml.Tag.omap then .expectedOrderedPairs kind else .expectedPairs kind)
        node.mark

/-- Fill the collections that wait, and then those found in them. Each is filled once, so the steps
are bounded by the number of nodes. -/
def fillAll : Nat → Build Unit
  | 0 => return ()
  | steps + 1 => do
    match (← get).queue with
    | [] => return ()
    | id :: queue =>
      modify ({ · with queue })
      fill id
      fillAll steps

/-! ## Values -/

/-- The value of a node once all collections are filled. A collection inside itself is shown
empty. -/
def State.valueOf (state : State) : Nat → List Nat → Nat → Value
  | 0, _, _ => .null
  | steps + 1, active, id =>
    if active.contains id then .list []
    else
      let inner := state.valueOf steps (id :: active)
      match state.built[id]?.join with
      | none | some .waiting => .null
      | some (.value value) => value
      | some (.list items) => .list (items.map inner)
      | some (.tuples items) =>
        .list (items.map fun (key, value) => .tuple [inner key, inner value])
      | some (.set items) => .set (setOrder (items.map inner))
      | some (.dict entries) => .dict (entries.map fun (key, value) => (inner key, inner value))

/-- The value of a composed document. -/
def ofGraph (graph : Graph) : Except Failure Value := do
  let bound := graph.nodes.size + 1
  let start : State := { graph, built := Array.replicate graph.nodes.size none }
  let (_, state) ← (do construct graph.root; fillAll bound : Build Unit).run start
  return state.valueOf bound [] graph.root

/-- The value of a YAML text. A text without a document is null. -/
def read (source : Yaml.Source) : Except Failure Value := do
  match ← Graph.ofSource source with
  | none => return .null
  | some graph => ofGraph graph

end SchemaCompiler.Data.Construction
