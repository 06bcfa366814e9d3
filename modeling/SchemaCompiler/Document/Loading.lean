import SchemaCompiler.Schema.Failure
import SchemaCompiler.Yaml.Scalar

/-!
# Loading documents

A document tree is the unfolding of a composed graph: a node that is used several times occurs
several times in the tree. A collection that contains itself has no unfolding. Merge keys are
expanded: the entries of their sources come first, unless the mapping or an earlier source has the
key.
-/

namespace SchemaCompiler.Document

open Schema (Cause Failure fail)

/-- The scalar that a value of a document is; dates and binary data stay texts. -/
def Scalar.ofValue (source : String) : Yaml.ScalarValue → Scalar
  | .null => .null
  | .bool value => .bool value
  | .int value => .int value
  | .float value => .float value
  | .text value => .text value
  | .timestamp _ | .bytes _ => .text source

/-- The entries that a mapping inherits: of several with one key only the first, and none whose key
the mapping has itself. -/
def inherited (explicit : List String) : List String → Entries → Entries
  | _, [] => []
  | seen, (key, value) :: rest =>
    if explicit.contains key || seen.contains key then inherited explicit seen rest
    else (key, value) :: inherited explicit (key :: seen) rest

/-- The entries of a mapping with merge keys: inherited ones, then its own. -/
def mergeEntries (merged entries : Entries) : Entries :=
  inherited entries.keys [] merged ++ entries

/-- What unfolding a graph needs to know about scalars: the value of each, or why it has none. -/
abbrev ScalarReader := (tag text : String) → Yaml.Mark → Except Failure Scalar

/-- The line of a composed node. -/
def lineOf (node : Yaml.Composed) : Int := node.mark.line + 1

/-- The nodes whose entries a merge key brings in. -/
def mergeSources (graph : Yaml.Graph) (id : Nat) : List Nat :=
  match graph.node? id with
  | some { content := .sequence items, .. } => items
  | _ => [id]

/-- Unfold the entries of a mapping: the merged ones and its own. -/
def unfoldEntries (graph : Yaml.Graph) (document : String) (unfold : Nat → Except Failure Node) :
    List (Nat × Nat) → Except Failure (Entries × Entries)
  | [] => .ok ([], [])
  | (key, value) :: rest => do
    match graph.node? key with
    | none => unfoldEntries graph document unfold rest
    | some keyNode =>
      if keyNode.tag == Yaml.Tag.merge then
        let sources ← (mergeSources graph value).mapM fun source => do
          match ← unfold source with
          | .mapping _ entries => return entries
          | node => fail .mergeNotMapping { document := some document, line := node.line? }
        let (merged, entries) ← unfoldEntries graph document unfold rest
        return (sources.flatten ++ merged, entries)
      else match keyNode.content with
        | .scalar text =>
          let node ← unfold value
          let (merged, entries) ← unfoldEntries graph document unfold rest
          return (merged, (text, node) :: entries)
        | _ => fail .keyNotScalar { document := some document, line := some (lineOf keyNode) }

/-- Unfold the node with a number. The collections on the way from the root are `active`; there are
no more of them than nodes, so a bound of that many steps is never reached. Running out of steps, or
of nodes, is an outcome of its own. -/
def unfold (graph : Yaml.Graph) (document : String) (reader : ScalarReader) :
    Nat → List Nat → Nat → Except Failure Node
  | 0, _, _ => fail .unfinished { document := some document }
  | steps + 1, active, id =>
    match graph.node? id with
    | none => fail .unfinished { document := some document }
    | some node =>
      let line := lineOf node
      match node.content with
      | .scalar text => (reader node.tag text node.mark).map (.scalar line)
      | .sequence items =>
        if active.contains id then
          fail .recursiveAlias { document := some document, line := some line }
        else
          (items.mapM (unfold graph document reader steps (id :: active))).map (.sequence line)
      | .mapping pairs =>
        if active.contains id then
          fail .recursiveAlias { document := some document, line := some line }
        else do
          let (merged, entries) ←
            unfoldEntries graph document (unfold graph document reader steps (id :: active)) pairs
          return .mapping line (mergeEntries merged entries)

/-- The scalars of a document with some text. -/
def readScalar (document : String) (text : List Char) : ScalarReader := fun tag source mark =>
  match Yaml.ScalarValue.read tag source mark with
  | .ok value => .ok (Scalar.ofValue source value)
  | .error (.problem problem) =>
    fail (.invalidScalar source (problem.describe text))
      { document := some document, line := some (mark.line + 1) }
  | .error (.value fault) => .error (.fault (.value fault))

/-- Load the document with a name and a text. -/
def load (name : String) (text : List Char) : Except Failure Node :=
  match Yaml.Graph.ofText text with
  | .error (.problem problem) =>
    fail (.invalidYaml problem.summary)
      { document := some name, line := problem.line?.map Int.ofNat }
  | .error (.value fault) => .error (.fault (.value fault))
  | .ok none => fail .emptyDocument { document := some name }
  | .ok (some graph) =>
    unfold graph name (readScalar name text) (graph.nodes.size + 1) [] graph.root

end SchemaCompiler.Document
