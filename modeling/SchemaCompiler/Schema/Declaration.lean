import SchemaCompiler.Naming
import SchemaCompiler.Schema.AliasCycle
import SchemaCompiler.Schema.Logged
import SchemaCompiler.Schema.Reference

/-!
# Collecting declarations

The first pass over the declarations registers every one of them by its shallow shape, so that
references between them can be resolved whatever their order. Aliases of other declarations are
resolved once all names are known.
-/

namespace SchemaCompiler.Schema

open Document (Node Entries Scalar)

/-- The type that a reference node asks for, by pointer. -/
def referenceText (location : Location) : Node → Except Failure String
  | .scalar _ (.text reference) => .ok reference
  | node => failAt node .referenceNotText location

/-- The body of a declaration as far as its shallow shape gives it. -/
def provisionalBody (location : Location) (entries : Entries) : Except Failure Body := do
  let token := entries.scalar "type"
  let word := token.text?
  if word == some "string" && entries.contains "enum" then return .enumeration []
  else if word == some "object" then return .object false []
  else match word.bind ScalarKind.ofToken? with
    | some kind => return .aliasOf (.scalar kind)
    | none =>
      if word == some "array" then return .aliasOf .missing
      else match entries.get? "$ref" with
        | some node => return .aliasOf (.unresolved (← referenceText location node) true)
        | none =>
          match token with
          | .null => fail .declarationWithoutType location
          | .text word =>
            if word.isEmpty then fail (.unsupportedDeclaration (← showScalar token)) location
            else return .aliasOf (.unresolved word false)
          | token => fail (.unsupportedDeclaration (← showScalar token)) location

/-- The type that a declaration registers. -/
def provisional (name : String) (node : Node) : Except Failure NamedType := do
  let typeName := Naming.typeName name
  let location : Location := { declaration := some name, line := node.line? }
  if typeName.isEmpty then failAt node (.unusableTypeName name) location
  else match node with
    | .mapping _ entries =>
      return { name := typeName, sourceName := name, body := ← provisionalBody location entries }
    | _ => failAt node .declarationNotMapping location

/-- Declare every entry of a section. -/
def declareAll : SymbolTable → Entries → Except Failure SymbolTable
  | table, [] => .ok table
  | table, (name, node) :: rest => do
    let type ← provisional name node
    let table ← (table.declare name type node.line?).mapError .error
    declareAll table rest

/-- The alias target of a declared type, if it is a name that is not resolved yet. -/
def pendingTarget? (type : NamedType) : Option (String × Bool) :=
  match type.body with
  | .aliasOf (.unresolved name pointer) => some (name, pointer)
  | _ => none

/-- Resolve the target of the alias that an entry declares. -/
def resolveAlias (table : SymbolTable) (name : String) (line : Option Int) :
    Except Error SymbolTable :=
  match table.lookup name with
  | none => .ok table
  | some id =>
    match (table.types[id]?).bind pendingTarget? with
    | none => .ok table
    | some (target, pointer) => do
      let type ← table.resolveName target pointer { declaration := some name, line }
      return table.setBody id (.aliasOf type)

/-- Resolve the targets of all aliases that entries declare. -/
def resolveAliases : SymbolTable → Entries → Except Error SymbolTable
  | table, [] => .ok table
  | table, (name, node) :: rest => do
    let table ← resolveAlias table name node.line?
    resolveAliases table rest

/-- Collect the declarations of a section. -/
def collect (entries : Entries) : Logged SymbolTable := do
  let table ← Logged.ofExcept (declareAll {} entries)
  Logged.note (.collected table.declared.length (table.types.filterMap pendingTarget?).length)
  let table ← Logged.ofResult (resolveAliases table entries)
  Logged.ofResult (checkAliasCycles table.types (table.declared.map (·.2)))
  return table

end SchemaCompiler.Schema
