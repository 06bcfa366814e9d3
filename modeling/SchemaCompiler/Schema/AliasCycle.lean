import SchemaCompiler.Schema.Error
import SchemaCompiler.Schema.Type

/-!
# Cycles of aliases

An alias must not lead back to itself. From an alias one step leads to the type that its target ends
in, inside all arrays. Objects and enumerations end the walk, so objects may refer to each other
through their fields.
-/

namespace SchemaCompiler.Schema

/-- The alias to which one step from an alias target leads. -/
def aliasStep? (types : List NamedType) (target : TypeExpr) :
    Option (Nat × NamedType × TypeExpr) := do
  let id ← target.leafId?
  let type ← types[id]?
  let next ← type.target?
  return (id, type, next)

/-- Follow aliases from a target. The aliases passed so far are `chain`; the result is the part of
them that the next step closes to a cycle. The walk passes each alias once, so it takes no more
steps than there are types. -/
def findCycle (types : List NamedType) : Nat → List Nat → TypeExpr → Option (List Nat)
  | 0, _, _ => none
  | steps + 1, chain, target =>
    match aliasStep? types target with
    | none => none
    | some (id, _, next) =>
      if chain.contains id then some (chain.dropWhile (· != id))
      else findCycle types steps (chain ++ [id]) next

/-- The cycle that is reached from the type with a number. -/
def cycleFrom? (types : List NamedType) (start : Nat) : Option (List Nat) := do
  let type ← types[start]?
  let target ← type.target?
  findCycle types (types.length + 1) [start] target

/-- The names in the document of types given by number. -/
def sourceNames (types : List NamedType) (ids : List Nat) : List String :=
  ids.filterMap fun id => (types[id]?).map (·.sourceName)

/-- Reject the first of some types from which aliases lead to a cycle. -/
def checkAliasCycles (types : List NamedType) : List Nat → Except Error Unit
  | [] => .ok ()
  | start :: rest =>
    match cycleFrom? types start with
    | none => checkAliasCycles types rest
    | some cycle =>
      .error {
        cause := .aliasCycle (sourceNames types (cycle ++ cycle.take 1))
        location := { declaration := (types[start]?).map (·.sourceName) } }

/-- Reject a graph in which aliases lead to a cycle. -/
def TypeGraph.checkCycles (graph : TypeGraph) : Except Error Unit :=
  checkAliasCycles graph.types (List.range graph.types.length)

/-- Reject a graph with an unresolved name. -/
def TypeGraph.verify (graph : TypeGraph) : Except Error Unit :=
  match graph.unresolved with
  | [] => .ok ()
  | (type, field, name, _) :: _ =>
    .error {
      cause := .unresolvedReference name
      location := {
        declaration := some type.sourceName
        field
        document := if graph.document.isEmpty then none else some graph.document } }

end SchemaCompiler.Schema
