import SchemaCompiler.Target.Kotlin
import SchemaCompiler.Target.Python

/-!
# Generating units

The units of a type graph are one for each named type, in order, and then the shared units. Names
that the shared units define cannot be names of types, and no two units may be written to one file.
-/

namespace SchemaCompiler.Target

open Schema (Failure NamedType TypeExpr TypeGraph fail)

/-- The text of the unit of a named type. In Python what it imports is gathered on the way. -/
def renderNext (style : Style) (types : List NamedType) (header : String) (type : NamedType) :
    Python.Gather String := do
  let lines ←
    match style.language with
    | .python => Python.gatherLines style types type
    | .kotlin => MonadExcept.ofExcept (Kotlin.typeLines style types type)
  return header ++ unlines lines

/-- The text of the unit of a type. Only named types have one. -/
def render (style : Style) (types : List NamedType) (header : String) (type : TypeExpr) :
    Except Failure String :=
  match type.definition? types with
  | some named => ((renderNext style types header named).run.run {}).1
  | none => fail (.notEmittable type.sort) {}

/-- The lines of a shared unit in a language, from those of each. -/
def sharedLines (style : Style) (python kotlin : List String) : Except Failure (List String) :=
  match style.language with
  | .python => .ok python
  | .kotlin => (Kotlin.packageLines style).map (· ++ kotlin)

/-- The shared units. -/
def sharedUnits (style : Style) : Except Failure (List OutputUnit) := do
  let header := style.header sharedComment
  let validation ← sharedLines style Python.validationLines Kotlin.validationLines
  let marker ← sharedLines style Python.markerLines Kotlin.markerLines
  return [
    { name := validationUnit, body := header ++ unlines validation, shared := true },
    { name := markerUnit, body := header ++ unlines marker, shared := true }]

/-- Refuse types with reserved names. -/
def checkReserved : List NamedType → Except Failure Unit
  | [] => .ok ()
  | type :: rest =>
    if reservedNames.contains type.name then
      fail (.reservedName type.name) { declaration := some type.sourceName }
    else checkReserved rest

/-- Refuse units that would be written to one file. Those before have the file names in `seen`, each
with the name of the unit. -/
def checkFiles (language : Language) (seen : List (String × String)) :
    List OutputUnit → Except Failure Unit
  | [] => .ok ()
  | unit :: rest =>
    let file := language.fileName unit.name
    match seen.lookup file with
    | some other => fail (.sameFile other unit.name file) { declaration := some unit.name }
    | none => checkFiles language (seen ++ [(file, unit.name)]) rest

/-- The units of a type graph, each of the types with a comment. -/
def generateNext (style : Style) (graph : TypeGraph) (comment : String) :
    Python.Gather (List OutputUnit) := do
  let header := style.header comment
  let typeUnits ← graph.types.mapM fun type => do
    return ({ name := type.name, body := ← renderNext style graph.types header type } : OutputUnit)
  let shared ←
    if style.validations then do
      MonadExcept.ofExcept (checkReserved graph.types)
      MonadExcept.ofExcept (sharedUnits style)
    else pure []
  let units := typeUnits ++ shared
  MonadExcept.ofExcept (checkFiles style.language [] units)
  return units

/-- The units of a type graph, where something has been gathered before. -/
def generateFrom (gathered : Python.Gathered) (style : Style) (graph : TypeGraph)
    (comment : String) :
    Except Failure (List OutputUnit) :=
  ((generateNext style graph comment).run.run gathered).1

/-- The units of a type graph. -/
def generate (style : Style) (graph : TypeGraph) (comment : String) :
    Except Failure (List OutputUnit) :=
  generateFrom {} style graph comment

end SchemaCompiler.Target
