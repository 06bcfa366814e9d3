import SchemaCompiler.Yaml.Tag

/-!
# Composed graphs

Composing the events of a document gives a graph of nodes: an alias is an edge to a node that is
already there, so a node can be reached in several ways, even from within itself. Nodes are known by
their number, in the order in which they start.
-/

namespace SchemaCompiler.Yaml

/-- What a composed node holds; other nodes are given by number. -/
inductive Content where
  | scalar (text : String)
  | sequence (items : List Nat)
  | mapping (pairs : List (Nat × Nat))
  deriving DecidableEq, Repr

/-- The word for a kind of content. -/
def Content.kind : Content → String
  | scalar _ => "scalar"
  | sequence _ => "sequence"
  | mapping _ => "mapping"

/-- The type of what holds the content, as messages name it. -/
def Content.typeName : Content → String
  | scalar _ => "str"
  | sequence _ | mapping _ => "list"

/-- A composed node. -/
structure Composed where
  tag : String
  mark : Mark
  content : Content
  deriving DecidableEq, Repr

/-- A composed document: its nodes and the number of the first. -/
structure Graph where
  nodes : Array Composed
  root : Nat := 0
  deriving DecidableEq, Repr

/-- The node with a number. -/
def Graph.node? (graph : Graph) (id : Nat) : Option Composed := graph.nodes[id]?

/-- A collection whose end has not come yet, with its entries in reverse. -/
structure OpenCollection where
  id : Nat
  entries : List Nat := []

/-- The nodes composed so far. -/
structure Composer where
  nodes : Array Composed := #[]
  anchors : List (String × Nat) := []
  opened : List OpenCollection := []
  root : Option Nat := none
  /-- Has the first document ended? -/
  finished : Bool := false

namespace Composer

/-- Enter a node into the innermost open collection, or make it the root. -/
def enter (id : Nat) (c : Composer) : Composer :=
  match c.opened with
  | [] => { c with root := some id }
  | inner :: outer => { c with opened := { inner with entries := id :: inner.entries } :: outer }

/-- Add a node under an optional anchor, which must be new. -/
def add (anchor : Option String) (node : Composed) (c : Composer) : Except Failure Composer :=
  if anchor.any fun name => (c.anchors.lookup name).isSome then complain .repeatedAnchor node.mark
  else
    let id := c.nodes.size
    .ok ({ c with
      nodes := c.nodes.push node
      anchors := (anchor.map (·, id)).toList ++ c.anchors }.enter id)

/-- Add a collection and open it. -/
def openCollection (anchor : Option String) (node : Composed) (c : Composer) :
    Except Failure Composer := do
  let id := c.nodes.size
  let c ← c.add anchor node
  return { c with opened := { id } :: c.opened }

/-- Put entries two by two. -/
def paired : List Nat → List (Nat × Nat)
  | key :: value :: rest => (key, value) :: paired rest
  | _ => []

/-- Fill a collection with its entries. -/
def fill (entries : List Nat) : Content → Content
  | .scalar text => .scalar text
  | .sequence _ => .sequence entries
  | .mapping _ => .mapping (paired entries)

/-- Close the innermost collection. -/
def closeCollection (c : Composer) : Composer :=
  match c.opened with
  | [] => c
  | inner :: outer =>
    let nodes := c.nodes.modify inner.id fun node =>
      { node with content := fill inner.entries.reverse node.content }
    { c with nodes, opened := outer }

/-- The tag of a node: the one it has, unless that is missing or the mark of no tag. -/
def tagOr (tag : Option String) (otherwise : String) : String :=
  match tag with
  | some tag => if tag == "!" then otherwise else tag
  | none => otherwise

/-- Take in an event. Only one document is accepted. -/
def step (c : Composer) (event : Event) : Except Failure Composer :=
  match event.kind with
  | .streamStart | .streamEnd => .ok c
  | .documentStart => if c.finished then complain .anotherDocument event.mark else .ok c
  | .documentEnd => .ok { c with finished := true }
  | .aliasOf name =>
    match c.anchors.lookup name with
    | some id => .ok (c.enter id)
    | none => complain (.unknownAlias name) event.mark
  | .scalar anchor tag plain text =>
    let tag := tagOr tag (if plain then Tag.ofPlain text else Tag.str)
    c.add anchor { tag, mark := event.mark, content := .scalar text }
  | .sequenceStart anchor tag =>
    c.openCollection anchor
      { tag := tagOr tag Tag.seq, mark := event.mark, content := .sequence [] }
  | .mappingStart anchor tag =>
    c.openCollection anchor { tag := tagOr tag Tag.map, mark := event.mark, content := .mapping [] }
  | .collectionEnd => .ok c.closeCollection

end Composer

/-- Compose a stream of events. There is no graph if the stream has no document. -/
def Graph.ofEvents (stream : EventStream) : Except Failure (Option Graph) := do
  let composer ← stream.events.foldlM Composer.step ({} : Composer)
  match stream.failure with
  | some failure => .error failure
  | none => return composer.root.map fun root => { nodes := composer.nodes, root }

/-- Compose the single document of a source. -/
def Graph.ofSource (source : Source) : Except Failure (Option Graph) :=
  Graph.ofEvents (EventStream.ofTokens (TokenStream.ofSource source))

/-- Compose the single document of a text. -/
def Graph.ofText (text : List Char) : Except Failure (Option Graph) := Graph.ofSource (.ofText text)

end SchemaCompiler.Yaml
