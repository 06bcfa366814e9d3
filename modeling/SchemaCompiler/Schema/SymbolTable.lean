import SchemaCompiler.Schema.Error
import SchemaCompiler.Schema.Type

/-!
# Symbol tables

The symbol table of a document holds its named types in the order in which they came. Declared types
are also found by their name in the document. Types made from objects without a name are not; they
get a name that is still free.
-/

namespace SchemaCompiler.Schema

/-- The named types known so far, and which of them are declared under which name. -/
structure SymbolTable where
  declared : List (String × Nat) := []
  types : List NamedType := []
  deriving DecidableEq, Repr

namespace SymbolTable

/-- The type with a name in generated code. -/
def named? (table : SymbolTable) (name : String) : Option NamedType :=
  table.types.find? fun type => type.name == name

/-- Is the name in generated code still free? -/
def isFree (table : SymbolTable) (name : String) : Bool := (table.named? name).isNone

/-- The number of the type that is declared under a name. -/
def lookup (table : SymbolTable) (sourceName : String) : Option Nat :=
  table.declared.lookup sourceName

/-- The names under which types are declared, in order. -/
def declaredNames (table : SymbolTable) : List String := table.declared.map (·.1)

/-- Add a type that is not declared under a name. -/
def push (table : SymbolTable) (type : NamedType) : SymbolTable :=
  { table with types := table.types ++ [type] }

/-- Changes of a table, which can fail. What has been changed stays so when a later step fails. -/
abbrev Change := ExceptT Error (StateM SymbolTable)

namespace Change

/-- Note that the type that comes next is declared under a name. -/
def enterName (sourceName : String) : Change Unit :=
  modify fun table =>
    { table with declared := table.declared ++ [(sourceName, table.types.length)] }

/-- Add a type behind those that are there. -/
def enterType (type : NamedType) : Change Unit := modify (·.push type)

/-- Declare a type under its name in the document. Neither that name nor the one in generated code
may be taken. -/
def declare (sourceName : String) (type : NamedType) (line : Option Int) : Change Unit := do
  let location : Location := { declaration := some sourceName, line }
  if ((← get).lookup sourceName).isSome then
    throw { cause := .declaredTwice sourceName, location }
  match (← get).named? type.name with
  | some existing =>
    throw { cause := .sameTypeName existing.sourceName sourceName type.name, location }
  | none => pure ()
  enterName sourceName
  enterType type

/-- Register a type that no declaration names. Its name in generated code must be free. -/
def register (type : NamedType) : Change Unit := do
  if !(← get).isFree type.name then
    throw { cause := .typeExists type.name, location := { declaration := some type.sourceName } }
  enterType type

/-- The table after a change, unless it fails. -/
def outcome (change : Change Unit) (table : SymbolTable) : Except Error SymbolTable :=
  let run := change.run.run table
  run.1.map fun _ => run.2

end Change

/-- The table with one more declared type. -/
def declare (table : SymbolTable) (sourceName : String) (type : NamedType) (line : Option Int) :
    Except Error SymbolTable :=
  (Change.declare sourceName type line).outcome table

/-- The table with one more type that no declaration names. -/
def register (table : SymbolTable) (type : NamedType) : Except Error SymbolTable :=
  (Change.register type).outcome table

/-- A name with a number behind it. -/
def numbered (base : String) (number : Nat) : String :=
  base ++ String.ofList (Nat.toDigits 10 number)

/-- A free name: the one asked for, or else with the least number from two on behind it. Among one
more numbers than there are types, one is free. -/
def uniqueName (table : SymbolTable) (base : String) : String :=
  if table.isFree base then base
  else
    let numbers := (List.range (table.types.length + 1)).map (· + 2)
    match numbers.find? fun number => table.isFree (numbered base number) with
    | some number => numbered base number
    | none => base

/-- Change the body of a type. -/
def setBody (table : SymbolTable) (id : Nat) (body : Body) : SymbolTable :=
  { table with types := table.types.modify id fun type => { type with body } }

end SymbolTable

end SchemaCompiler.Schema
