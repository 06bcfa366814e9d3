import SchemaCompiler.Target.Unit

/-!
# Python units

An object is a dataclass, an enumeration a class of texts, an alias a type alias. A unit imports the
types it names from their modules: an alias needs them at run time, an object only for type
checkers, so that objects can refer to each other. What a unit imports is gathered while its types
are written, in two sets that are left from the unit before and are emptied when an object or an
alias is begun.
-/

namespace SchemaCompiler.Target.Python

open Schema (Failure Field NamedType TypeExpr fail)

/-! ## Imports -/

/-- Is one text before another, or the same? -/
def textLe (a b : String) : Bool := !decide (b < a)

/-- Texts in order, each once. -/
def sorted (texts : List String) : List String := (texts.mergeSort textLe).eraseDups

/-- An import of names from a module. -/
structure Import where
  module : String
  names : List String
  deriving DecidableEq, Repr

/-- The line of an import. -/
def Import.line (item : Import) : String :=
  "from " ++ item.module ++ " import " ++ ", ".intercalate item.names

/-- Is the module one of the package? -/
def isLocalModule (module : String) : Bool := ['.'].isPrefixOf module.toList

/-- Group imported names by module, in order. -/
def groupImports (imports : List (String × String)) : List Import :=
  (sorted (imports.map (·.1))).map fun module =>
    { module, names := sorted ((imports.filter (·.1 == module)).map (·.2)) }

/-- The imports of types from their own modules, in the order of the modules. -/
def typeImports (names : List String) : List Import :=
  let inOrder := (sorted names).mergeSort fun a b =>
    textLe (Naming.moduleName a) (Naming.moduleName b)
  inOrder.map fun name => { module := "." ++ Naming.moduleName name, names := [name] }

/-- The imports of a unit in order: the standard library, and then the package. -/
structure ImportBlock where
  standard : List Import
  package : List Import
  deriving DecidableEq, Repr

/-- Sort imports into a block, with further imports of types behind. -/
def ImportBlock.make (imports : List (String × String)) (types : List Import) : ImportBlock :=
  let groups := groupImports imports
  { standard := groups.filter fun item => !isLocalModule item.module
    package := groups.filter (fun item => isLocalModule item.module) ++ types }

/-- The lines of a block, with an empty line between its parts. -/
def ImportBlock.lines (block : ImportBlock) : List String :=
  let gap := if block.standard.isEmpty || block.package.isEmpty then [] else [""]
  block.standard.map Import.line ++ gap ++ block.package.map Import.line

/-! ## Gathering -/

/-- What has been gathered: the imports of names from modules, and the names of the types to be
imported from modules of their own. Both are sets, of which each member is listed once. -/
structure Gathered where
  imports : List (String × String) := []
  types : List String := []
  deriving DecidableEq, Repr

/-- Computations that gather imports, and can fail. What has been gathered before a failure is left
there. -/
abbrev Gather := ExceptT Failure (StateM Gathered)

/-- Forget what has been gathered. -/
def reset : Gather Unit := set ({} : Gathered)

/-- Gather imports. -/
def addImports (items : List (String × String)) : Gather Unit :=
  modify fun gathered => { gathered with imports := items.foldr List.insert gathered.imports }

/-- Gather the import of a type. -/
def addType (name : String) : Gather Unit :=
  modify fun gathered => { gathered with types := gathered.types.insert name }

/-- Leave out the import of a type. -/
def discardType (name : String) : Gather Unit :=
  modify fun gathered => { gathered with types := gathered.types.filter (· != name) }

/-- How a type is written, given the named types. What it needs is gathered. Only resolved types can
be written. -/
def translate (types : List NamedType) : TypeExpr → Gather String
  | .scalar kind => return Language.python.scalarText kind
  | .any => do
    addImports [("typing", "Any")]
    return Language.python.anyText
  | .array items => return Language.python.arrayText (← translate types items)
  | .named id =>
    match types[id]? with
    | some type => do
      addType type.name
      return type.name
    | none => MonadExcept.ofExcept (fail (.inexpressible "NamedType" Language.python.title) {})
  | type => MonadExcept.ofExcept (fail (.inexpressible type.sort Language.python.title) {})

/-! ## Objects -/

/-- A member of a dataclass. -/
structure Member where
  name : String
  type : String
  optional : Bool
  directives : List String
  deriving DecidableEq, Repr

/-- The module of the markers. -/
def markerModule : String := "." ++ Naming.moduleName markerUnit

/-- What a member with constraints needs. -/
def markerImports : List (String × String) :=
  [("dataclasses", "field as _field"), (markerModule, "Constraint"),
   (markerModule, "constrained as _constrained")]

/-- The value that a member starts with. -/
def Member.initial? (member : Member) : Option String :=
  if !member.directives.isEmpty then
    let metadata := "_constrained(" ++ ", ".intercalate member.directives ++ ")"
    if member.optional then some ("_field(default=None, metadata=" ++ metadata ++ ")")
    else some ("_field(metadata=" ++ metadata ++ ")")
  else if member.optional then some "None"
  else none

/-- The line of a member. -/
def Member.line (member : Member) : String :=
  let declaration :=
    member.name ++ ": " ++ member.type ++ (if member.optional then " | None" else "")
  match member.initial? with
  | some value => declaration ++ " = " ++ value
  | none => declaration

/-- The member for a field. What it needs is gathered. -/
def gatherMember (style : Style) (types : List NamedType) (field : Field) : Gather Member := do
  let type ← translate types field.type
  let directives ← MonadExcept.ofExcept (style.directives field)
  addImports (if directives.isEmpty then [] else markerImports)
  return { name := Language.python.memberName field.name, type,
           optional := field.optional, directives }

/-- The parts of the unit of an object. -/
structure ObjectUnit where
  className : String
  imports : ImportBlock
  /-- Imports for type checkers only. -/
  typeImports : List Import
  members : List Member
  deriving DecidableEq, Repr

/-- The unit of an object. It does not import itself. -/
def gatherObject (style : Style) (types : List NamedType) (name : String) (fields : List Field) :
    Gather ObjectUnit := do
  reset
  addImports [("dataclasses", "dataclass")]
  let members ← fields.mapM (gatherMember style types)
  discardType name
  let referenced := typeImports (← get).types
  addImports (if referenced.isEmpty then [] else [("typing", "TYPE_CHECKING")])
  return {
    className := name
    imports := ImportBlock.make (← get).imports []
    typeImports := referenced
    members }

/-- The lines of a list, each indented. -/
def indented (lines : List String) : List String := lines.map ("    " ++ ·)

/-- The lines of the unit of an object. -/
def ObjectUnit.lines (unit : ObjectUnit) : List String :=
  ["from __future__ import annotations", ""] ++ unit.imports.lines ++
  (if unit.typeImports.isEmpty then []
   else ["", "if TYPE_CHECKING:"] ++ indented (unit.typeImports.map Import.line)) ++
  ["", "", "@dataclass(kw_only=True)", "class " ++ unit.className ++ ":"] ++
  (if unit.members.isEmpty then ["    pass"] else indented (unit.members.map Member.line))

/-! ## Enumerations and aliases -/

/-- The lines of the unit of an enumeration. -/
def enumLines (name : String) (values : List String) : List String :=
  let literal := Language.python.literals.literal
  ["from __future__ import annotations", "", "from enum import Enum", "", "",
   "class " ++ name ++ "(str, Enum):"] ++
  indented (values.map fun value => value ++ " = " ++ literal value)

/-- The parts of the unit of an alias. -/
structure AliasUnit where
  className : String
  imports : ImportBlock
  target : String
  deriving DecidableEq, Repr

/-- The unit of an alias. -/
def gatherAlias (types : List NamedType) (name : String) (target : TypeExpr) :
    Gather AliasUnit := do
  reset
  addImports [("typing", "TypeAlias")]
  let text ← translate types target
  let gathered ← get
  return {
    className := name
    imports := ImportBlock.make gathered.imports (typeImports gathered.types)
    target := text }

/-- The lines of the unit of an alias. -/
def AliasUnit.lines (unit : AliasUnit) : List String :=
  ["from __future__ import annotations", ""] ++ unit.imports.lines ++
  ["", unit.className ++ ": TypeAlias = " ++ unit.target]

/-- The lines of the unit of a named type. An enumeration needs no type, and leaves the sets as they
are. -/
def gatherLines (style : Style) (types : List NamedType) (type : NamedType) :
    Gather (List String) :=
  match type.body with
  | .object _ fields => return (← gatherObject style types type.name fields).lines
  | .enumeration values => return enumLines type.name values
  | .aliasOf target => return (← gatherAlias types type.name target).lines

/-! ## Shared units -/

/-- The lines of the unit that checks constraints. -/
def validationLines : List String :=
  ["from __future__ import annotations",
   "",
   "import dataclasses",
   "import re",
   "from typing import Any, NamedTuple",
   "",
   "from .validate import CONSTRAINTS, Constraint",
   "",
   "",
   "class ValidationError(NamedTuple):",
   "    field_name: str",
   "    message: str",
   "",
   "",
   "def validate(instance: Any) -> list[ValidationError]:",
   "    \"\"\"Check every constrained field of a generated dataclass instance.",
   "",
   "    Errors are returned in field declaration order, then constraint order.",
   "    Fields holding None or a non-string value are skipped.",
   "    \"\"\"",
   "    errors = []",
   "    for item in dataclasses.fields(instance):",
   "        value = getattr(instance, item.name)",
   "        if not isinstance(value, str):",
   "            continue",
   "        for constraint in item.metadata.get(CONSTRAINTS, ()):",
   "            message = check(constraint, value)",
   "            if message is not None:",
   "                errors.append(ValidationError(item.name, message))",
   "    return errors",
   "",
   "",
   "def check(constraint: Constraint, value: str) -> str | None:",
   "    \"\"\"Return the failure message of one constraint, or None when it holds.\"\"\"",
   "    predicate, argument = constraint.predicate, constraint.argument",
   "    if predicate == \"isAlpha\":",
   "        if value and not value.isalpha():",
   "            return \"Must contain only letters\"",
   "    elif predicate == \"isNumeric\":",
   "        if value and not value.isdigit():",
   "            return \"Must contain only numeric characters\"",
   "    elif predicate == \"minLength\":",
   "        if len(value) < int(argument):",
   "            return f\"Must be at least \x7bargument\x7d characters long\"",
   "    elif predicate == \"maxLength\":",
   "        if len(value) > int(argument):",
   "            return f\"Must not exceed \x7bargument\x7d characters\"",
   "    elif predicate == \"regex\":",
   "        if re.fullmatch(str(argument), value) is None:",
   "            return \"Does not match the required pattern\"",
   "    else:",
   "        raise ValueError(f\"Unknown constraint predicate: \x7bpredicate\x7d\")",
   "    return None"]

/-- The lines of the unit that marks constraints. -/
def markerLines : List String :=
  ["from __future__ import annotations",
   "",
   "from dataclasses import dataclass",
   "",
   "# Metadata key of the constraints attached to a dataclass field",
   "CONSTRAINTS = \"constraints\"",
   "",
   "",
   "@dataclass(frozen=True)",
   "class Constraint:",
   "    \"\"\"One validation rule of a field: a predicate name and its optional argument.\"\"\"",
   "",
   "    predicate: str",
   "    argument: str | int | None = None",
   "",
   "",
   "def constrained(*constraints: Constraint) -> dict[str, tuple[Constraint, ...]]:",
   "    \"\"\"Field metadata carrying the given constraints.\"\"\"",
   "    return \x7bCONSTRAINTS: constraints\x7d"]

end SchemaCompiler.Target.Python
