import SchemaCompiler.Document.Scalar

/-!
# Types

A schema declares named types: objects with fields, enumerations, and aliases of other types. Named
types are known by their number in the list of all of them, so two declarations are never the same
type, whatever their names. All other types are written where they are used.
-/

namespace SchemaCompiler.Schema

/-- The kinds of scalar values. -/
inductive ScalarKind where
  | string
  | integer
  | number
  | boolean
  deriving DecidableEq, Repr

namespace ScalarKind

/-- The word that names a kind in a schema. -/
def token : ScalarKind → String
  | string => "string"
  | integer => "integer"
  | number => "number"
  | boolean => "boolean"

/-- All kinds. -/
def all : List ScalarKind := [string, integer, number, boolean]

/-- The kind that a word names. -/
def ofToken? (token : String) : Option ScalarKind := all.find? fun kind => kind.token == token

end ScalarKind

/-- A type as it is used by a field or an alias. -/
inductive TypeExpr where
  | scalar (kind : ScalarKind)
  | any
  | array (items : TypeExpr)
  /-- A named type, by its number. -/
  | named (id : Nat)
  /-- A name that has not been looked up yet; `pointer` if it was written as a reference. -/
  | unresolved (name : String) (pointer : Bool)
  /-- No type: the target of an alias whose body has not been resolved yet. -/
  | missing
  deriving DecidableEq, Repr, Inhabited

namespace TypeExpr

/-- The type inside all arrays. -/
def leaf : TypeExpr → TypeExpr
  | array items => items.leaf
  | type => type

/-- The number of the named type inside all arrays. -/
def leafId? (type : TypeExpr) : Option Nat :=
  match type.leaf with
  | named id => some id
  | _ => none

/-- Are two types equal as values? Named types are equal to themselves, arrays and unresolved names
to nothing that is written elsewhere. -/
def sameValue : TypeExpr → TypeExpr → Bool
  | scalar a, scalar b => a == b
  | any, any => true
  | named a, named b => a == b
  | missing, missing => true
  | _, _ => false

/-- The word for a sort of type in messages. -/
def sort : TypeExpr → String
  | scalar _ => "ScalarType"
  | any => "AnyType"
  | array _ => "ArrayType"
  | named _ => "NamedType"
  | unresolved _ _ => "UnresolvedReference"
  | missing => "NoneType"

end TypeExpr

/-- The predicates that a value of a field can be checked with. -/
inductive Predicate where
  | isAlpha
  | isNumeric
  | minLength
  | maxLength
  | regex
  deriving DecidableEq, Repr

namespace Predicate

/-- The name of a predicate in generated code. -/
def name : Predicate → String
  | isAlpha => "isAlpha"
  | isNumeric => "isNumeric"
  | minLength => "minLength"
  | maxLength => "maxLength"
  | regex => "regex"

/-- The name of a predicate in a schema. -/
def pattern : Predicate → String
  | isAlpha => "isLetter"
  | predicate => predicate.name

/-- All predicates. -/
def all : List Predicate := [isAlpha, isNumeric, minLength, maxLength, regex]

/-- The predicate with a name in a schema. -/
def ofPattern? (pattern : String) : Option Predicate :=
  all.find? fun predicate => predicate.pattern == pattern

end Predicate

/-- A validation rule of a field. -/
structure Directive where
  predicate : Predicate
  argument : Document.Scalar := .null
  deriving DecidableEq, Repr

/-- Directives as schemas can state them: lengths have a natural number, regular expressions a text,
and the other predicates no argument. -/
def Directive.WellFormed (directive : Directive) : Prop :=
  match directive.predicate, directive.argument with
  | .isAlpha, .null => True
  | .isNumeric, .null => True
  | .minLength, .int length => 0 ≤ length
  | .maxLength, .int length => 0 ≤ length
  | .regex, .text _ => True
  | _, _ => False

/-- A field of an object. -/
structure Field where
  /-- The name in generated code. -/
  name : String
  /-- The name in the document. -/
  sourceName : String
  type : TypeExpr
  required : Bool := false
  optional : Bool := true
  constraints : List Directive := []
  deriving DecidableEq, Repr

/-- What a named type is. -/
inductive Body where
  /-- An object; `synthesized` if it was made from an object without a name. -/
  | object (synthesized : Bool) (fields : List Field)
  | enumeration (values : List String)
  | aliasOf (target : TypeExpr)
  deriving DecidableEq, Repr

/-- A named type. -/
structure NamedType where
  /-- The name in generated code. -/
  name : String
  /-- The name in the document. -/
  sourceName : String
  body : Body
  deriving DecidableEq, Repr

/-- The named type that a type is. -/
def TypeExpr.definition? (types : List NamedType) : TypeExpr → Option NamedType
  | .named id => types[id]?
  | _ => none

namespace NamedType

/-- The fields, if the type is an object. -/
def fields (type : NamedType) : List Field :=
  match type.body with
  | .object _ fields => fields
  | _ => []

/-- The target, if the type is an alias. -/
def target? (type : NamedType) : Option TypeExpr :=
  match type.body with
  | .aliasOf target => some target
  | _ => none

/-- The types that a named type uses, each with the field that uses it. -/
def uses (type : NamedType) : List (Option String × TypeExpr) :=
  match type.body with
  | .object _ fields => fields.map fun field => (some field.sourceName, field.type)
  | .enumeration _ => []
  | .aliasOf target => [(none, target)]

end NamedType

/-- The named types of a document, in the order in which they are generated. -/
structure TypeGraph where
  document : String := ""
  types : List NamedType := []
  deriving DecidableEq, Repr

namespace TypeGraph

/-- The first type with a name. -/
def get? (graph : TypeGraph) (name : String) : Option NamedType :=
  graph.types.find? fun type => type.name == name

/-- The unresolved name inside all arrays of a type. -/
def unresolvedLeaf? (type : TypeExpr) : Option (String × Bool) :=
  match type.leaf with
  | .unresolved name pointer => some (name, pointer)
  | _ => none

/-- Every unresolved name, with the type and the field that use it. -/
def unresolved (graph : TypeGraph) : List (NamedType × Option String × String × Bool) :=
  graph.types.flatMap fun type =>
    type.uses.filterMap fun (field, used) =>
      (unresolvedLeaf? used).map fun (name, pointer) => (type, field, name, pointer)

end TypeGraph

end SchemaCompiler.Schema
