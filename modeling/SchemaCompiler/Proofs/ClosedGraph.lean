import SchemaCompiler.Proofs.Analysis
import SchemaCompiler.Proofs.Rendering

/-!
# Closed graphs can be generated

Every type that a closed graph uses can be written in every language, so the errors that generating
its units can end in are those of names: a name that is reserved, or two units in one file.
Compiling constraints keeps a graph closed. Every graph that comes out of the analysis of a section
is closed, and so is everything the two passes have resolved before it is checked.
-/

namespace SchemaCompiler.Target

open Schema (ClosedTypes Failure NamedType TypeExpr TypeGraph)

/-! ## Errors of names -/

/-- Results that are no error, or an error about a name that is taken. -/
def DuplicatesOnly {α : Type} (result : Except Failure α) : Prop :=
  ∀ error, result = .error (.error error) → error.cause.kind = .duplicateName

/-- Every closed type can be written. -/
theorem Language.typeText_eq_ok (language : Language) {types : List NamedType} {type : TypeExpr}
    (closed : type.Closed types.length) : ∃ text, language.typeText types type = .ok text := by
  induction type with
  | scalar kind => exact ⟨_, rfl⟩
  | any => exact ⟨_, rfl⟩
  | array items ih =>
      obtain ⟨text, written⟩ := ih closed
      exact ⟨language.arrayText text, by rw [Language.typeText, written]; rfl⟩
  | named id =>
      have present : types[id]? = some types[id] := List.getElem?_eq_getElem closed
      exact ⟨types[id].name, by rw [Language.typeText, present]⟩
  | unresolved name pointer => cases closed
  | missing => cases closed

/-- Generating the units of a closed graph ends in no error but those of names. -/
theorem generate_duplicatesOnly (style : Style) {graph : TypeGraph} (closed : graph.Closed)
    (comment : String) : DuplicatesOnly (generate style graph comment) := by
  have covers :
      Covers (fun failure => ∀ error, failure = .error error → error.cause.kind = .duplicateName)
      style graph.types := by
    refine ⟨?_, ?_, ?_, ?_⟩
    · intro error isDuplicate other same
      cases same
      exact isDuplicate
    · intro language type member use isUse
      obtain ⟨text, written⟩ :=
        language.typeText_eq_ok (ClosedTypes.closed closed type member use isUse)
      rw [written]
      exact .ok trivial
    -- an argument or a package that cannot be shown is a fault, and no error
    · intro _ _ _ _ _ _ _ error same
      cases same
    · intro _ _ error same
      cases same
  intro error failed
  exact (generate_outcome covers comment).failure _ failed error rfl

end SchemaCompiler.Target

namespace SchemaCompiler.Schema

open Document (Entries)

/-! ## Constraints -/

/-- Setting constraints changes neither the names of types nor the types that they use. -/
theorem map_uses_setConstraints (graph : TypeGraph) (owner : Nat) (fieldName : String)
    (constraints : List Directive) :
    (graph.setConstraints owner fieldName constraints).types.map
      (fun type => (type.name, type.uses)) =
      graph.types.map fun type => (type.name, type.uses) := by
  apply List.ext_getElem?
  intro index
  simp only [TypeGraph.setConstraints, List.getElem?_map, List.getElem?_modify]
  cases graph.types[index]? with
  | none => rfl
  | some type =>
      by_cases isOwner : owner = index
      · -- only fields of objects hold constraints
        obtain ⟨name, sourceName, body⟩ := type
        cases body with
        | object synthesized fields =>
            have kept : (fields.map fun field =>
                if field.name == fieldName then { field with constraints } else field).map
                  (fun field => (some field.sourceName, field.type)) =
                fields.map fun field => (some field.sourceName, field.type) := by
              rw [List.map_map]
              apply List.map_congr_left
              intro field _
              simp only [Function.comp]
              split <;> rfl
            simp only [isOwner, if_true, Option.map_eq_map, Option.map_some, NamedType.uses]
            rw [kept]
        | enumeration values => simp [isOwner, NamedType.uses]
        | aliasOf target => simp [isOwner, NamedType.uses]
      · simp [isOwner]

/-- Whether types are closed depends on their names and on what they use. -/
theorem ClosedTypes.of_map_uses {count : Nat} {left right : List NamedType}
    (types : ClosedTypes count left)
    (same : right.map (fun type => (type.name, type.uses)) = left.map fun type =>
      (type.name, type.uses)) :
    ClosedTypes count right := by
  have found : ∀ type ∈ right, ∃ other ∈ left, other.name = type.name ∧ other.uses = type.uses := by
    intro type member
    have listed := List.mem_map_of_mem (f := fun type : NamedType => (type.name, type.uses)) member
    rw [same] at listed
    obtain ⟨other, isOther, equal⟩ := List.mem_map.mp listed
    exact ⟨other, isOther, (Prod.mk.inj equal).1, (Prod.mk.inj equal).2⟩
  refine ⟨?_, ?_, ?_⟩
  · intro type member
    obtain ⟨other, isOther, name, _⟩ := found type member
    rw [← name]
    exact types.named other isOther
  · have names := congrArg (List.map Prod.fst) same
    rw [List.map_map, List.map_map] at names
    have distinct : (left.map (·.name)).Nodup := types.distinct
    show (right.map (Prod.fst ∘ fun type => (type.name, type.uses))).Nodup
    rw [names]
    exact distinct
  · intro type member
    obtain ⟨other, isOther, _, uses⟩ := found type member
    rw [← uses]
    exact types.closed other isOther

theorem TypeGraph.Closed.setConstraints {graph : TypeGraph} (closed : graph.Closed) (owner : Nat)
    (fieldName : String) (constraints : List Directive) :
    (graph.setConstraints owner fieldName constraints).Closed := by
  have same := map_uses_setConstraints graph owner fieldName constraints
  have length := congrArg List.length same
  rw [List.length_map, List.length_map] at length
  rw [TypeGraph.Closed, length]
  exact ClosedTypes.of_map_uses closed same

/-- Compiling constraints onto a closed graph gives a closed graph. -/
theorem TypeGraph.Closed.attach {rules : ConstraintRules} {graph compiled : TypeGraph}
    {pending : List Pending} (closed : graph.Closed) {log : Log}
    (done : ((Schema.attach rules graph pending).run log).1 = .ok compiled) : compiled.Closed := by
  induction pending generalizing graph log with
  | nil =>
      cases done
      exact closed
  | cons first rest ih =>
      obtain ⟨constraints, between, _, done⟩ := Logged.run_bind_eq_ok done
      exact ih (closed.setConstraints first.owner first.fieldName constraints) done

theorem TypeGraph.Closed.attachAll {rules : ConstraintRules} {graph compiled : TypeGraph}
    {pending : List Pending} (closed : graph.Closed)
    (done : (Schema.attachAll rules graph pending).outcome.1 = .ok compiled) : compiled.Closed := by
  obtain ⟨attached, between, attaching, done⟩ := Logged.run_bind_eq_ok done
  cases done
  exact closed.attach attaching

/-! ## Graphs of sections -/

/-- Graphs whose types can be written in every language, and whose units can be generated unless a
name is taken. -/
structure TypeGraph.Expressible (graph : TypeGraph) : Prop where
  written : ∀ (language : Target.Language), ∀ type ∈ graph.types, ∀ use ∈ type.uses,
    ∃ text, language.typeText graph.types use.2 = .ok text
  generated : ∀ style comment error, Target.generate style graph comment = .error (.error error) →
    error.cause.kind = .duplicateName

theorem TypeGraph.Closed.expressible {graph : TypeGraph} (closed : graph.Closed) :
    graph.Expressible where
  written language type member use isUse :=
    language.typeText_eq_ok (ClosedTypes.closed closed type member use isUse)
  generated style comment := Target.generate_duplicatesOnly style closed comment

/-- What both passes have resolved is closed before it is checked. -/
theorem closed_of_resolveDeclarations {entries : Entries} {table : SymbolTable}
    {resolution : Resolution} (document : String)
    (collects : (collect entries).outcome.1 = .ok table)
    (resolves : ((resolveDeclarations entries).run { table }).outcome.1 = .ok ((), resolution)) :
    TypeGraph.Closed { document, types := resolution.table.types } := by
  rw [(collect_gives entries).outcome_eq, collected_eq_ok_iff] at collects
  obtain ⟨types, isCollected, rfl⟩ := collects
  have given := Logged.Gives.outcome_eq (resolveDeclarations_assembles isCollected)
  rw [given] at resolves
  obtain ⟨shapes, read, same⟩ := map_eq_ok resolves
  cases same
  exact ReadsAs.closed ⟨isCollected.distinct, isCollected.apart, read⟩ document

/-- Whatever a section declares, in whatever order and however nested, the graph that analysing it
gives is closed: all names in it are there, all different, and every type used in it is resolved and
is one of its own. So nothing is left to verify once the bodies are resolved, types for objects
without a name are always registered, every type can be written in every language, and generating
units can fail for a taken name only, also after constraints have been compiled. -/
theorem analyzed_graph_closed (document : String) (entries : Entries) :
    (∀ graph pending, (analyze document entries).outcome.1 = .ok (graph, pending) →
      graph.Closed ∧ graph.Expressible ∧
        ∀ rules deferred compiled, (attachAll rules graph deferred).outcome.1 = .ok compiled →
          compiled.Closed ∧ compiled.Expressible) ∧
    (∀ table resolution, (collect entries).outcome.1 = .ok table →
      ((resolveDeclarations entries).run { table }).outcome.1 = .ok ((), resolution) →
      TypeGraph.verify { document, types := resolution.table.types } = .ok ()) ∧
    ∀ baseName declaration path before log, ∃ id after,
      (((Resolve.synthesize baseName declaration path).run before).run log).1 =
        .ok (id, after) := by
  refine ⟨?_, ?_, ?_⟩
  · intro graph pending returns
    obtain ⟨shapes, reads, _, rfl, _⟩ := analyze_eq_ok_iff.mp returns
    have closed := reads.closed document
    refine ⟨closed, closed.expressible, ?_⟩
    intro rules deferred compiled done
    have compiledClosed := closed.attachAll done
    exact ⟨compiledClosed, compiledClosed.expressible⟩
  · intro table resolution collects resolves
    exact (closed_of_resolveDeclarations document collects resolves).verify
  · intro baseName declaration path before log
    exact ⟨_, _, Resolve.gives_synthesize baseName declaration path before log⟩

/-- A section with references forwards and back to itself, and an object without a name whose name
is taken by a declaration. -/
def recursiveSection : Entries :=
  [("a", .mapping 1 [("type", .scalar 1 (.text "array")), ("items", .mapping 2 [
      ("type", .scalar 2 (.text "object")), ("properties", .mapping 3 [
        ("next", .mapping 3 [("$ref", .scalar 3 (.text "#/a"))]),
        ("kind",
          .mapping 4 [("type", .scalar 4 (.text "b")), ("required", .scalar 4 (.bool true))]),
        ("code", .mapping 5 [("type", .scalar 5 (.text "string")), ("validate", .sequence 5 [
          .mapping 5
            [("pattern", .scalar 5 (.text "minLength")), ("value", .scalar 5 (.int 2))]])])])])]),
   ("b", .mapping 6
     [("type", .scalar 6 (.text "string")), ("enum", .sequence 6 [.scalar 6 (.text "x")])]),
   ("AItem", .mapping 7 [("type", .scalar 7 (.text "object")), ("properties", .mapping 7 [
      ("self", .mapping 7 [("type", .scalar 7 (.text "AItem"))])])])]

theorem recursiveSection_closed :
    ∃ graph pending compiled table resolution,
      (analyze "" recursiveSection).outcome.1 = .ok (graph, pending) ∧
      (attachAll {} graph pending).outcome.1 = .ok compiled ∧
      compiled.types.map (·.name) = ["A", "B", "AItem", "AItem2"] ∧
      graph.Closed ∧ compiled.Closed ∧ compiled.Expressible ∧
      (collect recursiveSection).outcome.1 = .ok table ∧
      ((resolveDeclarations recursiveSection).run { table }).outcome.1 = .ok ((), resolution) ∧
      TypeGraph.verify { document := "", types := resolution.table.types } = .ok () := by
  have compiles : ((analyze "" recursiveSection).outcome.1.toOption.bind fun result =>
      (attachAll {} result.1 result.2).outcome.1.toOption.map fun compiled =>
        compiled.types.map (·.name)) = some ["A", "B", "AItem", "AItem2"] := by
    decide +kernel
  have resolves : ((collect recursiveSection).outcome.1.toOption.bind fun table =>
      ((resolveDeclarations recursiveSection).run { table }).outcome.1.toOption).isSome = true := by
    decide +kernel
  obtain ⟨⟨graph, pending⟩, analyzed, compiles⟩ := Option.bind_eq_some_iff.mp compiles
  obtain ⟨compiled, attached, names⟩ := Option.map_eq_some_iff.mp compiles
  obtain ⟨⟨_, resolution⟩, resolves⟩ := Option.isSome_iff_exists.mp resolves
  obtain ⟨table, collects, resolves⟩ := Option.bind_eq_some_iff.mp resolves
  have isAnalyzed := eq_ok_of_toOption analyzed
  have isAttached := eq_ok_of_toOption attached
  have isCollected := eq_ok_of_toOption collects
  have isResolved := eq_ok_of_toOption resolves
  have closed := analyzed_graph_closed "" recursiveSection
  obtain ⟨graphClosed, _, compiledClosed⟩ := closed.1 graph pending isAnalyzed
  obtain ⟨isClosed, isExpressible⟩ := compiledClosed {} pending compiled isAttached
  exact ⟨graph, pending, compiled, table, resolution, isAnalyzed, isAttached, names,
    graphClosed, isClosed,
    isExpressible, isCollected, isResolved, closed.2.1 table resolution isCollected isResolved⟩

end SchemaCompiler.Schema
