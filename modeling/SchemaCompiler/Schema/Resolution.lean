import SchemaCompiler.Schema.Constraint
import SchemaCompiler.Schema.Declaration

/-!
# Resolving bodies

The second pass fills the bodies of the declared types: fields of objects, values of enumerations,
element types of arrays. An object without a name becomes a named type of its own, registered before
its own fields are resolved.
-/

namespace SchemaCompiler.Schema

open Document (Node Entries Scalar)

/-- The `validate` node of a field, to be compiled once all types are resolved. -/
structure Pending where
  /-- The number of the object that the field belongs to. -/
  owner : Nat
  /-- The name of the field in generated code. -/
  fieldName : String
  node : Node
  path : PropertyPath

/-- What resolving has produced so far. -/
structure Resolution where
  table : SymbolTable
  pending : List Pending := []

/-- A step of resolving. -/
abbrev Resolve := StateT Resolution Logged

namespace Resolve

/-- A step that only looks at the table and fails with errors. -/
def ofTable {α : Type} (step : SymbolTable → Except Error α) : Resolve α := do
  Logged.ofResult (step (← get).table)

/-- A step that changes nothing. -/
def ofExcept {α : Type} (result : Except Failure α) : Resolve α := liftM (Logged.ofExcept result)

/-- Fail with an error. -/
def reject {α : Type} (cause : Cause) (location : Location) : Resolve α :=
  ofExcept (fail cause location)

/-- Fail with an error on the line of a node. -/
def rejectAt {α : Type} (node : Node) (cause : Cause) (location : Location) : Resolve α :=
  ofExcept (failAt node cause location)

/-- Change the body of a type. -/
def setBody (id : Nat) (body : Body) : Resolve Unit :=
  modify fun r => { r with table := r.table.setBody id body }

/-- Register a type for an object without a name, and give its number. -/
def synthesize (baseName declaration path : String) : Resolve Nat := do
  let table := (← get).table
  let name := table.uniqueName (Naming.typeName baseName)
  let table' ← Logged.ofResult
    (table.register { name, sourceName := baseName, body := .object true [] })
  modify fun r => { r with table := table' }
  Logged.note (.synthesized name declaration path)
  return table.types.length

/-- Remember a `validate` node. -/
def defer (pending : Pending) : Resolve Unit :=
  modify fun r => { r with pending := r.pending ++ [pending] }

end Resolve

/-- The path of a property inside another, or on its own. -/
def fieldPath (path name : String) : String := if path.isEmpty then name else s!"{path}.{name}"

/-- A path as part of a location: the empty path is none. -/
def pathOrNone (path : String) : Option String := if path.isEmpty then none else some path

/-- Is a property required? -/
def requiredOf (location : Location) (entries : Entries) : Except Failure Bool :=
  match entries.get? "required" with
  | none => .ok false
  | some (.scalar _ (.bool required)) => .ok required
  | some node => failAt node .requiredNotBool location

mutual

/-- Resolve the fields of an object from its `properties`. -/
def resolveObject (declaration path : String) (owner : Nat) (synthesized : Bool)
    (entries : Entries) :
    Resolve Unit := do
  match _found : entries.get? "properties" with
  | none => return ()
  | some (.scalar _ .null) => return ()
  | some (.mapping _ properties) =>
    let fields ← resolveFields declaration path owner [] properties
    Resolve.setBody owner (.object synthesized fields)
  | some node =>
    Resolve.rejectAt node .propertiesNotMapping
      { declaration := some declaration, field := pathOrNone path }
termination_by 2 * sizeOf entries
decreasing_by
  have smaller := Entries.sizeOf_lt_of_get? _found
  simp only [Node.mapping.sizeOf_spec] at smaller ⊢
  omega

/-- Resolve properties in order. Those before gave the field names in `seen`, each with the name of
the property. -/
def resolveFields (declaration path : String) (owner : Nat) (seen : List (String × String))
    (properties : Entries) : Resolve (List Field) := do
  match properties with
  | [] => return []
  | (name, node) :: rest =>
    let inner := fieldPath path name
    let fieldName := Naming.fieldName name
    let location : Location :=
      { declaration := some declaration, field := some inner }
    if fieldName.isEmpty then Resolve.rejectAt node (.unusableFieldName name) location
    else match seen.lookup fieldName with
      | some other => Resolve.rejectAt node (.sameFieldName other name fieldName) location
      | none =>
        match node with
        | .mapping line entries =>
          let required ← Resolve.ofExcept (requiredOf location entries)
          let type ← resolveType declaration inner name line entries
          if let some validate := Entries.get? entries "validate" then
            Resolve.defer
              { owner, fieldName, node := validate, path := { declaration, field := inner } }
          let fields ← resolveFields declaration path owner (seen ++ [(fieldName, name)]) rest
          return { name := fieldName, sourceName := name, type, required, optional := !required } ::
            fields
        | _ => Resolve.rejectAt node .propertyNotMapping location
termination_by 2 * sizeOf properties

/-- Resolve the type of a property or array element. -/
def resolveType (declaration path baseName : String) (line : Int) (entries : Entries) :
    Resolve TypeExpr := do
  let location : Location :=
    { declaration := some declaration, field := some path, line := some line }
  match entries.get? "$ref" with
  | some node =>
    let reference ← Resolve.ofExcept (referenceText location node)
    Resolve.ofTable fun table => table.resolvePointer reference { location with line := node.line? }
  | none =>
    let token := entries.scalar "type"
    let word := token.text?
    if word == some "object" then
      let id ← Resolve.synthesize baseName declaration path
      resolveObject declaration path id true entries
      return .named id
    else if word == some "array" || (token == .null && entries.contains "items") then
      resolveArray declaration path (Naming.typeName baseName) entries
    else match word.bind ScalarKind.ofToken? with
      | some kind => return .scalar kind
      | none =>
        if word.any (!·.isEmpty) then
          Resolve.ofTable fun table => table.resolveToken (word.getD "") location
        else if !entries.contains "type" then Resolve.reject (.propertyWithoutType path) location
        else
          let shown ← Resolve.ofExcept (showScalar token)
          Resolve.reject (.unsupportedProperty shown path) location
termination_by 2 * sizeOf entries + 1

/-- Resolve an array from its `items`. Without them the elements can be anything. -/
def resolveArray (declaration path ownerName : String) (entries : Entries) : Resolve TypeExpr := do
  match _found : entries.get? "items" with
  | none => return .array .any
  | some (.scalar _ .null) => return .array .any
  | some (.mapping line items) =>
    let inner := if path.isEmpty then "[]" else s!"{path}[]"
    return .array (← resolveType declaration inner (ownerName ++ "Item") line items)
  | some node =>
    Resolve.rejectAt node .itemsNotMapping
      { declaration := some declaration, field := pathOrNone path }
termination_by 2 * sizeOf entries
decreasing_by
  have smaller := Entries.sizeOf_lt_of_get? _found
  simp only [Node.mapping.sizeOf_spec] at smaller ⊢
  omega

end

/-! ## Enumerations -/

/-- The constants of enumeration values. Those before gave the constants in `seen`, each with its
value. -/
def enumConstants (declaration : String) (seen : List (String × Scalar)) :
    List Node → Except Failure (List String)
  | [] => .ok []
  | node :: rest => do
    let location : Location := { declaration := some declaration, line := node.line? }
    match node with
    | .scalar _ value =>
      if value == .null then fail .enumerationValueNotScalar location
      else match value.plain? with
        | none => .error (.fault .integerTooLong)
        | some text =>
          let constant := Naming.enumConstant text
          if constant.isEmpty then fail (.unusableEnumerationValue (← showScalar value)) location
          else match seen.lookup constant with
            | some other =>
              fail (.sameConstant (← showScalar other) (← showScalar value) constant) location
            | none =>
              let constants ← enumConstants declaration (seen ++ [(constant, value)]) rest
              return constant :: constants
    | _ => failAt node .enumerationValueNotScalar location

/-- The constants of an enumeration that stands on a line. -/
def resolveEnum (declaration : String) (line : Int) (entries : Entries) :
    Except Failure (List String) :=
  match entries.get? "enum" with
  | some (.sequence valuesLine []) =>
    fail .noEnumerationValues { declaration := some declaration, line := some valuesLine }
  | some (.sequence _ values) => enumConstants declaration [] values
  | some (.scalar valuesLine .null) =>
    fail .noEnumerationValues { declaration := some declaration, line := some valuesLine }
  | _ => fail .enumerationNotList { declaration := some declaration, line := some line }

/-! ## Declarations -/

/-- Resolve the body of the type that an entry declares. -/
def resolveDeclaration (name : String) (node : Node) : Resolve Unit := do
  let table := (← get).table
  match table.lookup name, node with
  | some id, .mapping line entries =>
    match (table.types[id]?).map NamedType.body with
    | some (.object synthesized _) => resolveObject name "" id synthesized entries
    | some (.enumeration _) =>
      let values ← Resolve.ofExcept (resolveEnum name line entries)
      Resolve.setBody id (.enumeration values)
    | some (.aliasOf .missing) =>
      let ownerName := ((table.types[id]?).map NamedType.name).getD ""
      let target ← resolveArray name "" ownerName entries
      Resolve.setBody id (.aliasOf target)
    | _ => return ()
  | _, _ => return ()

/-- Resolve all declarations of a section. -/
def resolveDeclarations : Entries → Resolve Unit
  | [] => return ()
  | (name, node) :: rest => do
    resolveDeclaration name node
    resolveDeclarations rest

/-- Resolve the declarations of a section into the type graph of a document, and give what is still
to be compiled. -/
def resolve (document : String) (table : SymbolTable) (entries : Entries) :
    Logged (TypeGraph × List Pending) := do
  let ((), resolution) ← (resolveDeclarations entries).run { table }
  let graph : TypeGraph := { document, types := resolution.table.types }
  Logged.ofResult graph.checkCycles
  Logged.ofResult graph.verify
  Logged.note (.resolved graph.types.length)
  return (graph, resolution.pending)

/-- Collect the declarations of a section and resolve them. -/
def analyze (document : String) (entries : Entries) : Logged (TypeGraph × List Pending) := do
  let table ← collect entries
  resolve document table entries

/-! ## Constraints -/

/-- Set the constraints of a field. -/
def TypeGraph.setConstraints (graph : TypeGraph) (owner : Nat) (fieldName : String)
    (constraints : List Directive) : TypeGraph :=
  let change (field : Field) : Field :=
    if field.name == fieldName then { field with constraints } else field
  let changeBody : Body → Body
    | .object synthesized fields => .object synthesized (fields.map change)
    | body => body
  { graph with
    types := graph.types.modify owner fun type => { type with body := changeBody type.body } }

/-- Compile pending constraints onto their fields. -/
def attach (rules : ConstraintRules) : TypeGraph → List Pending → Logged TypeGraph
  | graph, [] => return graph
  | graph, pending :: rest => do
    let constraints ← compileConstraints rules pending.path (some pending.node)
    attach rules (graph.setConstraints pending.owner pending.fieldName constraints) rest

/-- Compile all pending constraints onto their fields. -/
def attachAll (rules : ConstraintRules) (graph : TypeGraph) (pending : List Pending) :
    Logged TypeGraph := do
  let graph ← attach rules graph pending
  Logged.note (.compiledConstraints pending.length)
  return graph

end SchemaCompiler.Schema
