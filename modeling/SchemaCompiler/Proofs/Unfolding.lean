import Mathlib.Data.List.Nodup
import Mathlib.Data.List.Perm.Subperm
import Mathlib.Logic.Relation
import SchemaCompiler.Proofs.MergeKey

/-!
# Unfolding composed graphs

A node that holds itself, directly or through others, has no unfolding; every other node has exactly
one, however often it is used (`Unfolds`). Unfolding finds that out on the way: it knows the
collections above the node it is at, and finding the node among them means that the node holds
itself (`unfold_outcome`). Conversely a node that has been unfolded holds nothing that holds itself,
since its tree is finite (`Unfolds.acc`). All collections above a node are different, so the bound
on the steps is never what stops it (`unfold_add`).
-/

namespace SchemaCompiler.Yaml

/-- The nodes that stand in a collection: its items, or the values of its entries. -/
def Content.children : Content → List Nat
  | scalar _ => []
  | sequence items => items
  | mapping pairs => pairs.map (·.2)

/-- The text of a scalar. -/
def Content.text? : Content → Option String
  | scalar text => some text
  | _ => none

/-- The entries of a mapping. -/
def Content.pairs? : Content → Option (List (Nat × Nat))
  | mapping pairs => some pairs
  | _ => none

theorem Content.text?_eq_some {content : Content} {text : String} :
    content.text? = some text ↔ content = .scalar text := by
  cases content <;> simp [text?]

theorem Content.pairs?_eq_some {content : Content} {pairs : List (Nat × Nat)} :
    content.pairs? = some pairs ↔ content = .mapping pairs := by
  cases content <;> simp [pairs?]

namespace Graph

/-- A node stands in another. Scalars, and so the keys of mappings, hold nothing. -/
def Holds (graph : Graph) (outer inner : Nat) : Prop :=
  ∃ node, graph.node? outer = some node ∧ inner ∈ node.content.children

/-- The nodes that can be reached from the root. -/
def Reachable (graph : Graph) (id : Nat) : Prop := Relation.ReflTransGen graph.Holds graph.root id

/-- Nodes that can be reached from themselves; these are collections. -/
def Recursive (graph : Graph) (id : Nat) : Prop := Relation.TransGen graph.Holds id id

theorem lt_size {graph : Graph} {id : Nat} {node : Composed} (found : graph.node? id = some node) :
    id < graph.nodes.size := by
  by_contra beyond
  rw [node?, Array.getElem?_eq_none (Nat.le_of_not_lt beyond)] at found
  cases found

/-- A node below which every way ends cannot be reached from itself. -/
theorem not_recursive_of_acc {graph : Graph} {id : Nat}
    (ends : Acc (fun inner outer => graph.Holds outer inner) id) :
    ¬graph.Recursive id := by
  induction ends with
  | intro id _ ih =>
      intro cycle
      obtain ⟨next, first, back⟩ := Relation.TransGen.head'_iff.mp cycle
      exact ih next first (Relation.TransGen.tail' back first)

end Graph

end SchemaCompiler.Yaml

namespace SchemaCompiler.Document

open Relation (ReflTransGen TransGen)
open Schema (Failure)
open Target (forall₂_of_mapM_eq_ok)

/-- Graphs in which nothing but recursion can go wrong: what can be reached from the root are nodes,
the keys of their mappings are scalars, merge keys lead to mappings or to sequences of mappings, and
all other scalars have values. -/
structure Loadable (graph : Yaml.Graph) (reader : ScalarReader) : Prop where
  closed : ∀ id, graph.Reachable id → ∃ node, graph.node? id = some node
  keys : ∀ id node pairs, graph.Reachable id → graph.node? id = some node →
    node.content = .mapping pairs →
    ∀ pair ∈ pairs, ∃ key text, graph.node? pair.1 = some key ∧ key.content = .scalar text
  sources : ∀ id node pairs, graph.Reachable id → graph.node? id = some node →
    node.content = .mapping pairs →
    ∀ source ∈ mergedSources graph pairs, ∃ inner entries, graph.node? source = some inner ∧
      inner.content = .mapping entries
  scalars : ∀ id node text, graph.Reachable id → graph.node? id = some node →
    node.content = .scalar text →
    ∃ value, reader node.tag text node.mark = .ok value

/-- A tree is the unfolding of a node: every node in it is replaced by its own unfolding, and merge
keys are replaced by what they bring in. -/
inductive Unfolds (graph : Yaml.Graph) (reader : ScalarReader) : Nat → Node → Prop
  | scalar {id : Nat} {node : Yaml.Composed} {text : String} {value : Scalar}
      (found : graph.node? id = some node) (isScalar : node.content = .scalar text)
      (read : reader node.tag text node.mark = .ok value) :
      Unfolds graph reader id (.scalar (lineOf node) value)
  | sequence {id : Nat} {node : Yaml.Composed} {items : List Nat} {tree : Nat → Node}
      (found : graph.node? id = some node) (isSequence : node.content = .sequence items)
      (each : ∀ item ∈ items, Unfolds graph reader item (tree item)) :
      Unfolds graph reader id (.sequence (lineOf node) (items.map tree))
  | mapping {id : Nat} {node : Yaml.Composed} {pairs : List (Nat × Nat)} {tree : Nat → Node}
      {entries : Nat → Entries} {own : Entries} (found : graph.node? id = some node)
      (isMapping : node.content = .mapping pairs)
      (sources : ∀ source ∈ mergedSources graph pairs, Unfolds graph reader source (tree source))
      (mappings : ∀ source ∈ mergedSources graph pairs, (tree source).entries? =
        some (entries source))
      (values : ∀ pair ∈ explicitPairs graph pairs, Unfolds graph reader pair.2 (tree pair.2))
      (isOwn : own = (explicitPairs graph pairs).map fun pair => (pair.1, tree pair.2)) :
      Unfolds graph reader id
        (.mapping (lineOf node) (broughtIn ((mergedSources graph pairs).map entries) own ++ own))

section Graph

variable {graph : Yaml.Graph} {reader : ScalarReader} {id : Nat} {node : Yaml.Composed}
    {pairs : List (Nat × Nat)}

/-! ## What stands in a mapping -/

theorem holds_value (found : graph.node? id = some node) (isMapping : node.content = .mapping pairs)
    {pair : Nat × Nat} (member : pair ∈ pairs) : graph.Holds id pair.2 := by
  refine ⟨node, found, ?_⟩
  rw [isMapping]
  exact List.mem_map_of_mem member

theorem holds_explicit (found : graph.node? id = some node)
    (isMapping : node.content = .mapping pairs) {own : String × Nat}
    (member : own ∈ explicitPairs graph pairs) : graph.Holds id own.2 := by
  obtain ⟨pair, isPair, same⟩ := List.mem_filterMap.mp member
  split at same
  · cases same
    exact holds_value found isMapping isPair
  · cases same

/-- The sources of a mapping stand in it, or in a sequence that stands in it. -/
theorem below_source (found : graph.node? id = some node)
    (isMapping : node.content = .mapping pairs) {source : Nat}
    (member : source ∈ mergedSources graph pairs) : TransGen graph.Holds id source := by
  obtain ⟨pair, isPair, isSource⟩ := List.mem_flatMap.mp member
  have value := holds_value found isMapping isPair
  split at isSource
  · unfold mergeSources at isSource
    split at isSource
    next items isSequence => exact .tail (.single value) ⟨_, isSequence, isSource⟩
    next =>
      rw [List.mem_singleton.mp isSource]
      exact .single value
  · cases isSource

theorem Loadable.keyKind (loadable : Loadable graph reader) (reachable : graph.Reachable id)
    (found : graph.node? id = some node) (isMapping : node.content = .mapping pairs)
    {pair : Nat × Nat} (member : pair ∈ pairs) :
    Document.keyKind graph pair.1 = .merge ∨ ∃ text, Document.keyKind graph pair.1 = .own text := by
  obtain ⟨key, text, isKey, isText⟩ :=
    loadable.keys id node pairs reachable found isMapping pair member
  unfold Document.keyKind
  rw [isKey]
  dsimp only
  rw [isText]
  split
  · exact .inl rfl
  · exact .inr ⟨text, rfl⟩

theorem Loadable.scalarKeys (loadable : Loadable graph reader) (reachable : graph.Reachable id)
    (found : graph.node? id = some node) (isMapping : node.content = .mapping pairs) :
    ScalarKeys graph pairs := by
  intro pair member line
  rcases loadable.keyKind reachable found isMapping member with isMerge | ⟨text, isOwn⟩
  · simp [isMerge]
  · simp [isOwn]

/-! ## Trees are finite -/

/-- The unfolding of a node is unique. -/
theorem Unfolds.unique {tree other : Node} (one : Unfolds graph reader id tree)
    (two : Unfolds graph reader id other) :
    tree = other := by
  induction one generalizing other with
  | scalar found isScalar read =>
      cases two with
      | scalar found' isScalar' read' =>
          cases found.symm.trans found'
          cases isScalar.symm.trans isScalar'
          cases read.symm.trans read'
          rfl
      | sequence found' isOther | mapping found' isOther =>
          cases found.symm.trans found'
          cases isScalar.symm.trans isOther
  | sequence found isSequence each ih =>
      cases two with
      | sequence found' isSequence' each' =>
          cases found.symm.trans found'
          cases isSequence.symm.trans isSequence'
          rw [List.map_congr_left fun item member => ih item member (each' item member)]
      | scalar found' isOther | mapping found' isOther =>
          cases found.symm.trans found'
          cases isSequence.symm.trans isOther
  | @mapping _ node pairs tree entries _ found isMapping sources mappings values isOwn
        inSources inValues =>
      cases two with
      | @mapping _ _ _ tree' entries' _ found' isMapping' sources' mappings' values' isOwn' =>
          cases found.symm.trans found'
          cases isMapping.symm.trans isMapping'
          have same : (mergedSources graph pairs).map entries =
              (mergedSources graph pairs).map entries' := by
            refine List.map_congr_left fun source member => ?_
            have isTree := mappings source member
            rw [inSources source member (sources' source member), mappings' source member] at isTree
            exact (Option.some.inj isTree).symm
          have sameOwn : (explicitPairs graph pairs).map (fun pair => (pair.1, tree pair.2)) =
              (explicitPairs graph pairs).map fun pair => (pair.1, tree' pair.2) :=
            List.map_congr_left fun pair member => by
              rw [inValues pair member (values' pair member)]
          rw [isOwn, isOwn', same, sameOwn]
      | scalar found' isOther | sequence found' isOther =>
          cases found.symm.trans found'
          cases isMapping.symm.trans isOther

/-- Every way down from what a merge key leads to ends, if those from its sources do. -/
theorem acc_of_mergeSources {value : Nat}
    (sources : ∀ source ∈ mergeSources graph value,
      Acc (fun inner outer => graph.Holds outer inner) source) :
    Acc (fun inner outer => graph.Holds outer inner) value := by
  unfold mergeSources at sources
  split at sources
  next items isSequence =>
    refine ⟨value, ?_⟩
    rintro inner ⟨other, found, member⟩
    cases isSequence.symm.trans found
    exact sources inner member
  next => exact sources value (List.mem_singleton_self value)

/-- Every way down from a node that has an unfolding ends. -/
theorem Unfolds.acc {tree : Node} (unfolds : Unfolds graph reader id tree)
    (loadable : Loadable graph reader) (reachable : graph.Reachable id) :
    Acc (fun inner outer => graph.Holds outer inner) id := by
  induction unfolds with
  | @scalar id node _ _ found isScalar =>
      refine ⟨id, ?_⟩
      rintro inner ⟨other, found', member⟩
      cases found.symm.trans found'
      rw [isScalar] at member
      cases member
  | @sequence id node items _ found isSequence _ ih =>
      refine ⟨id, fun inner holds => ?_⟩
      have reached := reachable.tail holds
      obtain ⟨other, found', member⟩ := holds
      cases found.symm.trans found'
      rw [isSequence] at member
      exact ih inner member reached
  | @mapping id node pairs _ _ _ found isMapping _ _ _ _ inSources inValues =>
      refine ⟨id, ?_⟩
      rintro inner ⟨other, found', member⟩
      cases found.symm.trans found'
      rw [isMapping] at member
      obtain ⟨pair, isPair, rfl⟩ := List.mem_map.mp member
      rcases loadable.keyKind reachable found isMapping isPair with isMerge | ⟨text, isText⟩
      · -- a sequence of sources is not unfolded itself, but its items are
        refine acc_of_mergeSources fun source isSource => ?_
        have merged : source ∈ mergedSources graph pairs := by
          refine List.mem_flatMap.mpr ⟨pair, isPair, ?_⟩
          rw [isMerge]
          exact isSource
        exact inSources source merged
          (reachable.trans (below_source found isMapping merged).to_reflTransGen)
      · have explicit : (text, pair.2) ∈ explicitPairs graph pairs := by
          refine List.mem_filterMap.mpr ⟨pair, isPair, ?_⟩
          rw [isText]
        exact inValues _ explicit (reachable.tail (holds_explicit found isMapping explicit))

/-! ## The way from the root -/

/-- The collections on the way from the root to a node: they are nodes, all different, and the node
stands in each. -/
structure OnWay (graph : Yaml.Graph) (active : List Nat) (id : Nat) : Prop where
  reachable : graph.Reachable id
  above : ∀ outer ∈ active, TransGen graph.Holds outer id
  once : active.Nodup
  known : ∀ outer ∈ active, outer < graph.nodes.size

theorem OnWay.step {active : List Nat} (way : OnWay graph active id)
    (found : graph.node? id = some node) (fresh : id ∉ active) {inner : Nat}
    (below : TransGen graph.Holds id inner) : OnWay graph (id :: active) inner where
  reachable := way.reachable.trans below.to_reflTransGen
  above := by
    rw [List.forall_mem_cons]
    exact ⟨below, fun outer isOuter => (way.above outer isOuter).trans below⟩
  once := List.nodup_cons.mpr ⟨fresh, way.once⟩
  known := List.forall_mem_cons.mpr ⟨Yaml.Graph.lt_size found, way.known⟩

/-- There are no more nodes on the way than in the graph. -/
theorem length_le_of_nodup {active : List Nat} {count : Nat} (once : active.Nodup)
    (known : ∀ outer ∈ active, outer < count) : active.length ≤ count := by
  have among : active ⊆ List.range count :=
    fun outer isOuter => List.mem_range.mpr (known outer isOuter)
  simpa using (once.subperm among).length_le

/-- More steps than nodes change nothing. -/
theorem unfold_add (document : String) {steps : Nat} {active : List Nat} (once : active.Nodup)
    (known : ∀ outer ∈ active, outer < graph.nodes.size)
    (enough : graph.nodes.size < active.length + steps) (more id : Nat) :
    unfold graph document reader (steps + more) active id =
      unfold graph document reader steps active id := by
  induction steps generalizing active id with
  | zero =>
      have bound := length_le_of_nodup once known
      omega
  | succ steps ih =>
      rw [Nat.add_right_comm, unfold, unfold]
      cases found : graph.node? id with
      | none => rfl
      | some node =>
          by_cases isActive : id ∈ active
          · have contained := List.contains_iff_mem.mpr isActive
            cases node.content <;> simp only [contained, if_true]
          · have below : unfold graph document reader (steps + more) (id :: active) =
                unfold graph document reader steps (id :: active) := by
              funext inner
              refine ih (List.nodup_cons.mpr ⟨isActive, once⟩) ?_ ?_ inner
              · exact List.forall_mem_cons.mpr ⟨Yaml.Graph.lt_size found, known⟩
              · rw [List.length_cons]
                omega
            rw [below]

/-! ## Unfolding -/

/-- The failure of a document with a node that can be reached from itself. -/
def FailsOn (graph : Yaml.Graph) (document : String) (failure : Failure) : Prop :=
  ∃ id node, graph.Reachable id ∧ graph.Recursive id ∧ graph.node? id = some node ∧
    failure = .error
      { cause := .recursiveAlias
        location := { document := some document, line := some (lineOf node) } }

section Collections

variable {convert : Nat → Except Failure Node} {allowed : Failure → Prop}

/-- What a node is unfolded to, if it is. -/
def treeOf (convert : Nat → Except Failure Node) (id : Nat) : Node :=
  (convert id).toOption.getD .absent

theorem treeOf_eq {tree : Node} (done : convert id = .ok tree) : treeOf convert id = tree := by
  rw [treeOf, done]
  rfl

theorem unfolds_treeOf {tree : Node}
    (outcome : Outcome allowed (Unfolds graph reader id) (convert id))
    (done : convert id = .ok tree) : Unfolds graph reader id (treeOf convert id) := by
  rw [treeOf_eq done]
  exact outcome.value tree done

/-- A list that is related to another item by item, to one value each, consists of these values. -/
theorem eq_map_of_forall₂ {α β : Type} {relation : α → β → Prop} {value : α → β} {items : List α}
    {values : List β} (related : List.Forall₂ relation items values)
    (single : ∀ item other, relation item other → value item = other) :
    values = items.map value := by
  have equal := List.forall₂_map_left_iff.mpr (related.imp single)
  rw [List.forall₂_eq_eq_eq] at equal
  exact equal.symm

theorem sequence_outcome {items : List Nat} (found : graph.node? id = some node)
    (isSequence : node.content = .sequence items)
    (each : ∀ item ∈ items, Outcome allowed (Unfolds graph reader item) (convert item)) :
    Outcome allowed (Unfolds graph reader id)
      ((items.mapM convert).map (.sequence (lineOf node))) := by
  have failures := Outcome.mapM_failures fun item member =>
    (each item member).mono fun _ _ => trivial
  refine failures.known.map fun trees done => ?_
  have converted := forall₂_of_mapM_eq_ok done.1
  rw [eq_map_of_forall₂ converted fun _ _ => treeOf_eq]
  refine .sequence found isSequence fun item member => ?_
  obtain ⟨tree, _, isTree⟩ := exists_right_of_mem converted member
  exact unfolds_treeOf (each item member) isTree

/-- Mappings are unfolded to mappings. -/
theorem Unfolds.isMapping {tree : Node} (unfolds : Unfolds graph reader id tree)
    (found : graph.node? id = some node) (isMapping : node.content = .mapping pairs) :
    ∃ line entries, tree = .mapping line entries := by
  cases unfolds with
  | mapping => exact ⟨_, _, rfl⟩
  | scalar found' isOther | sequence found' isOther =>
      cases found.symm.trans found'
      cases isMapping.symm.trans isOther

theorem mapping_outcome {document : String} (found : graph.node? id = some node)
    (isMapping : node.content = .mapping pairs) (scalar : ScalarKeys graph pairs)
    (mappings : ∀ source ∈ mergedSources graph pairs, ∃ inner entries,
      graph.node? source = some inner ∧ inner.content = .mapping entries)
    (sources : ∀ source ∈ mergedSources graph pairs, Outcome allowed (Unfolds graph reader source)
      (convert source))
    (values : ∀ pair ∈ explicitPairs graph pairs, Outcome allowed (Unfolds graph reader pair.2)
      (convert pair.2)) :
    Outcome allowed (Unfolds graph reader id)
      ((unfoldEntries graph document convert pairs).map fun found =>
      .mapping (lineOf node) (mergeEntries found.1 found.2)) := by
  have failures : Outcome allowed (fun _ => True) (unfoldEntries graph document convert pairs) := by
    refine unfoldEntries_outcome scalar (fun source member => ?_) fun pair member =>
      (values pair member).mono ?_
    · obtain ⟨inner, entries, isInner, isEntries⟩ := mappings source member
      exact (sources source member).mono fun _ unfolds => unfolds.isMapping isInner isEntries
    · exact fun _ _ => trivial
  refine failures.known.map fun read done => ?_
  obtain ⟨brought, flat, unfolded⟩ := unfoldEntries_eq_ok done.1
  have areSources : brought = (mergedSources graph pairs).map fun source =>
      (treeOf convert source).entries?.getD [] := by
    refine eq_map_of_forall₂ unfolded.sources ?_
    rintro source entries ⟨line, converted⟩
    rw [treeOf_eq converted]
    rfl
  have isOwn : read.2 = (explicitPairs graph pairs).map fun pair =>
      (pair.1, treeOf convert pair.2) := by
    refine eq_map_of_forall₂ unfolded.explicit ?_
    rintro pair entry ⟨sameKey, converted⟩
    rw [treeOf_eq converted, ← sameKey]
  rw [flat, mergeEntries_flatten, areSources]
  refine .mapping found isMapping (fun source member => ?_) (fun source member => ?_)
    (fun pair member => ?_) isOwn
  · obtain ⟨entries, _, line, converted⟩ := exists_right_of_mem unfolded.sources member
    exact unfolds_treeOf (sources source member) converted
  · obtain ⟨entries, _, line, converted⟩ := exists_right_of_mem unfolded.sources member
    rw [treeOf_eq converted]
    rfl
  · obtain ⟨entry, _, _, converted⟩ := exists_right_of_mem unfolded.explicit member
    exact unfolds_treeOf (values pair member) converted

end Collections

/-- Unfolding a node on the way from the root gives its unfolding, or fails on a node that can be
reached from itself. -/
theorem unfold_outcome (loadable : Loadable graph reader) (document : String) {steps : Nat}
    {active : List Nat} (way : OnWay graph active id)
    (enough : graph.nodes.size < active.length + steps) :
    Outcome (FailsOn graph document) (Unfolds graph reader id)
      (unfold graph document reader steps active id) := by
  induction steps generalizing active id with
  | zero =>
      have bound := length_le_of_nodup way.once way.known
      omega
  | succ steps ih =>
      obtain ⟨node, found⟩ := loadable.closed id way.reachable
      -- one step further down there is one more collection above, and one step less to go
      have below (fresh : id ∉ active) {inner : Nat} (below : TransGen graph.Holds id inner) :
          Outcome (FailsOn graph document) (Unfolds graph reader inner)
            (unfold graph document reader steps (id :: active) inner) := by
        refine ih (way.step found fresh below) ?_
        rw [List.length_cons]
        omega
      have recursive (isActive : id ∈ active) : FailsOn graph document (.error
          { cause := .recursiveAlias
            location := { document := some document, line := some (lineOf node) } }) :=
        ⟨id, node, way.reachable, way.above id isActive, found, rfl⟩
      cases content : node.content with
      | scalar text =>
          obtain ⟨value, read⟩ := loadable.scalars id node text way.reachable found content
          rw [unfold, found]
          dsimp only
          rw [content]
          dsimp only
          rw [read]
          exact .ok (.scalar found content read)
      | sequence items =>
          rw [unfold, found]
          dsimp only
          rw [content]
          refine .byCases (fun isActive => .error (recursive (List.contains_iff_mem.mp isActive)))
            fun fresh => ?_
          rw [List.contains_iff_mem] at fresh
          exact sequence_outcome found content fun item member =>
            below fresh (.single ⟨node, found, by rwa [content]⟩)
      | mapping pairs =>
          rw [unfold_mapping found content]
          refine .byCases (fun isActive => .error (recursive (List.contains_iff_mem.mp isActive)))
            fun fresh => ?_
          rw [List.contains_iff_mem] at fresh
          refine mapping_outcome found content (loadable.scalarKeys way.reachable found content)
            (loadable.sources id node pairs way.reachable found content) (fun source member => ?_)
            fun pair member => ?_
          · exact below fresh (below_source found content member)
          · exact below fresh (.single (holds_explicit found content member))

/-- Nothing that can be reached from a node with an unfolding can be reached from itself. -/
theorem Unfolds.not_recursive {tree : Node} (unfolds : Unfolds graph reader graph.root tree)
    (loadable : Loadable graph reader) (reachable : graph.Reachable id) : ¬graph.Recursive id := by
  refine Yaml.Graph.not_recursive_of_acc ?_
  induction reachable with
  | refl => exact unfolds.acc loadable .refl
  | tail _ holds ih => exact ih.inv holds

/-- A document is unfolded in as many steps as its graph has nodes, and one; the result is never
that they ran out. It is refused for a recursive alias exactly if some node that can be reached from
the root can be reached from itself, and the error points at such a node. Otherwise it is the one
unfolding of its root, however often its nodes are used. -/
theorem recursive_alias_iff (loadable : Loadable graph reader) (document : String) :
    ∃ result,
      (∀ steps, graph.nodes.size < steps →
        unfold graph document reader steps [] graph.root = result) ∧
      ((∃ error : Schema.Error, result = .error (.error error) ∧
          error.cause.kind = .malformedDocument ∧
          error.cause.message = "Recursive YAML alias") ↔
        ∃ id, graph.Reachable id ∧ graph.Recursive id) ∧
      (∀ failure, result = .error failure → FailsOn graph document failure) ∧
      ((∃ tree, result = .ok tree) ↔ ∀ id, graph.Reachable id → ¬graph.Recursive id) ∧
      ∀ tree, result = .ok tree ↔ Unfolds graph reader graph.root tree := by
  have way : OnWay graph [] graph.root := ⟨.refl, by simp, .nil, by simp⟩
  have outcome : Outcome (FailsOn graph document) (Unfolds graph reader graph.root)
      (unfold graph document reader (graph.nodes.size + 1) [] graph.root) :=
    unfold_outcome loadable document way (by simp)
  refine ⟨unfold graph document reader (graph.nodes.size + 1) [] graph.root, ?_, ?_⟩
  · intro steps enough
    obtain ⟨more, rfl⟩ := Nat.exists_eq_add_of_lt enough
    rw [Nat.add_right_comm]
    exact unfold_add document .nil (by simp) (by simp) more graph.root
  generalize unfold graph document reader (graph.nodes.size + 1) [] graph.root = result at outcome
  cases result with
  | error failure =>
      obtain ⟨id, node, reachable, recursive, -, rfl⟩ := outcome.failure failure rfl
      refine ⟨iff_of_true ⟨_, rfl, rfl, rfl⟩ ⟨id, reachable, recursive⟩, outcome.failure,
        iff_of_false ?_ ?_, fun tree => iff_of_false ?_ ?_⟩
      · rintro ⟨tree, done⟩
        cases done
      · exact fun none => none id reachable recursive
      · exact fun done => by cases done
      · exact fun unfolds => unfolds.not_recursive loadable reachable recursive
  | ok tree =>
      have unfolds := outcome.value tree rfl
      have none : ∀ id, graph.Reachable id → ¬graph.Recursive id :=
        fun _ => unfolds.not_recursive loadable
      refine ⟨iff_of_false ?_ ?_, outcome.failure, iff_of_true ⟨tree, rfl⟩ none,
        fun other => ⟨fun same => ?_, fun others => ?_⟩⟩
      · rintro ⟨error, failed, _⟩
        cases failed
      · exact fun ⟨id, reachable, recursive⟩ => none id reachable recursive
      · cases same
        exact unfolds
      · rw [unfolds.unique others]

end Graph

/-- A check of a single node. -/
def loads (graph : Yaml.Graph) (reader : ScalarReader) (node : Yaml.Composed) : Bool :=
  node.content.children.all (· < graph.nodes.size) &&
    match node.content with
    | .scalar text => (reader node.tag text node.mark).toOption.isSome
    | .sequence _ => true
    | .mapping pairs =>
      (pairs.all fun pair => ((graph.node? pair.1).bind (·.content.text?)).isSome) &&
        (mergedSources graph pairs).all fun source =>
          ((graph.node? source).bind (·.content.pairs?)).isSome

/-- Graphs can be loaded, up to recursion, if each of their nodes passes the check. -/
theorem Loadable.of_loads {graph : Yaml.Graph} {reader : ScalarReader}
    (root : graph.root < graph.nodes.size) (each : graph.nodes.toList.all (loads graph reader)) :
    Loadable graph reader := by
  have check {id : Nat} {node : Yaml.Composed} (found : graph.node? id = some node) :
      loads graph reader node = true :=
    List.all_eq_true.mp each node (Array.mem_toList_iff.mpr (Array.mem_of_getElem? found))
  refine ⟨fun id reachable => ?_, ?_, ?_, ?_⟩
  · suffices id < graph.nodes.size from ⟨_, Array.getElem?_eq_getElem this⟩
    cases reachable with
    | refl => exact root
    | tail _ holds =>
        obtain ⟨node, found, member⟩ := holds
        have checked := check found
        rw [loads, Bool.and_eq_true, List.all_eq_true] at checked
        exact of_decide_eq_true (checked.1 id member)
  · intro id node pairs _ found isMapping pair member
    have checked := check found
    rw [loads, isMapping, Bool.and_eq_true, Bool.and_eq_true] at checked
    obtain ⟨text, isKey⟩ :=
      Option.isSome_iff_exists.mp (List.all_eq_true.mp checked.2.1 pair member)
    obtain ⟨key, foundKey, isText⟩ := Option.bind_eq_some_iff.mp isKey
    exact ⟨key, text, foundKey, Yaml.Content.text?_eq_some.mp isText⟩
  · intro id node pairs _ found isMapping source member
    have checked := check found
    rw [loads, isMapping, Bool.and_eq_true, Bool.and_eq_true] at checked
    obtain ⟨entries, isSource⟩ :=
      Option.isSome_iff_exists.mp (List.all_eq_true.mp checked.2.2 source member)
    obtain ⟨inner, foundInner, isEntries⟩ := Option.bind_eq_some_iff.mp isSource
    exact ⟨inner, entries, foundInner, Yaml.Content.pairs?_eq_some.mp isEntries⟩
  · intro id node text _ found isScalar
    have checked := check found
    rw [loads, isScalar, Bool.and_eq_true] at checked
    obtain ⟨value, read⟩ := Option.isSome_iff_exists.mp checked.2
    exact ⟨value, Schema.eq_ok_of_toOption read⟩

/-- The graph of a mapping that merges a sequence of itself. -/
def selfMerged : Yaml.Graph :=
  { nodes := #[
      { tag := Yaml.Tag.map, mark := {}, content := .mapping [(1, 2)] },
      { tag := Yaml.Tag.merge, mark := {}, content := .scalar "<<" },
      { tag := Yaml.Tag.seq, mark := {}, content := .sequence [0] }] }

theorem layered_unfolds_selfMerged_fails :
    (∃ tree, Unfolds layered plainReader 0 tree) ∧
      ∃ error : Schema.Error, unfold selfMerged "" plainReader 4 [] 0 = .error (.error error) ∧
        error.cause.message = "Recursive YAML alias" ∧ FailsOn selfMerged "" (.error error) := by
  have layered' : Loadable layered plainReader := .of_loads (by decide) (by decide)
  have selfMerged' : Loadable selfMerged plainReader := .of_loads (by decide) (by decide)
  constructor
  · obtain ⟨result, same, -, -, -, each⟩ := recursive_alias_iff layered' ""
    have read : (unfold layered "" plainReader 12 [] 0).toOption.isSome := by decide +kernel
    obtain ⟨tree, found⟩ := Option.isSome_iff_exists.mp read
    have done := Schema.eq_ok_of_toOption found
    exact ⟨tree, (each tree).mp ((same 12 (by decide)).symm.trans done)⟩
  · obtain ⟨result, same, failed, points, -, -⟩ := recursive_alias_iff selfMerged' ""
    have down : selfMerged.Holds 0 2 := ⟨_, rfl, by decide⟩
    have up : selfMerged.Holds 2 0 := ⟨_, rfl, by decide⟩
    obtain ⟨error, isFailure, _, message⟩ := failed.mpr ⟨0, .refl, .tail (.single down) up⟩
    exact ⟨error, (same 4 (by decide)).trans isFailure, message, points _ isFailure⟩

end SchemaCompiler.Document
