import SchemaCompiler.Literal
import SchemaCompiler.Naming
import SchemaCompiler.Schema.Failure
import SchemaCompiler.Schema.Type

/-!
# Target languages

Code is generated for Python or Kotlin. The languages differ in how they write types, string
literals, comments and names, and in how files are named.
-/

namespace SchemaCompiler.Target

open Schema (Failure NamedType TypeExpr ScalarKind fail)

/-- The languages that code is generated for. -/
inductive Language where
  | python
  | kotlin
  deriving DecidableEq, Repr

namespace Language

/-- The name of a language in settings. -/
def name : Language → String
  | python => "python"
  | kotlin => "kotlin"

/-- All languages. -/
def all : List Language := [python, kotlin]

/-- The language with a name. -/
def ofName? (name : String) : Option Language := all.find? fun language => language.name == name

/-- The name of a language in messages. -/
def title : Language → String
  | python => "Python"
  | kotlin => "Kotlin"

/-- What starts a comment that ends with its line. -/
def commentStart : Language → String
  | python => "#"
  | kotlin => "//"

/-- The rules of string literals. -/
def literals : Language → LiteralSyntax
  | python => {}
  | kotlin => { marker := some "$" }

/-- Are regular expressions matched by the checker of this library's dialect at run time? -/
def checksRegex : Language → Bool
  | python => true
  | kotlin => false

/-- The keywords that cannot be names. -/
def keywords : Language → List String
  | python =>
    ["False", "None", "True", "and", "as", "assert", "async", "await", "break", "class", "continue",
     "def", "del", "elif", "else", "except", "finally", "for", "from", "global", "if",
     "import", "in",
     "is", "lambda", "nonlocal", "not", "or", "pass", "raise", "return", "try", "while",
     "with", "yield"]
  | kotlin =>
    ["as", "break", "class", "continue", "do", "else", "false", "for", "fun", "if",
     "in", "interface",
     "is", "null", "object", "package", "return", "super", "this", "throw", "true",
     "try", "typealias",
     "typeof", "val", "var", "when", "while"]

/-- The name of a member: a keyword gets an underscore behind it, or backticks around it. -/
def memberName (language : Language) (name : String) : String :=
  if language.keywords.contains name then
    match language with
    | python => name ++ "_"
    | kotlin => "`" ++ name ++ "`"
  else name

/-- The name of the file that a unit is written to. -/
def fileName : Language → String → String
  | python, unit => Naming.moduleName unit ++ ".py"
  | kotlin, unit => unit ++ ".kt"

/-- The files that an output directory needs besides the units. -/
def supportFiles : Language → List (String × String)
  | python => [("__init__.py", "")]
  | kotlin => []

/-- How a kind of scalar is written. -/
def scalarText : Language → ScalarKind → String
  | python, .string => "str"
  | python, .integer => "int"
  | python, .number => "float"
  | python, .boolean => "bool"
  | kotlin, .string => "String"
  | kotlin, .integer => "Int"
  | kotlin, .number => "Double"
  | kotlin, .boolean => "Boolean"

/-- How a type without limits is written. -/
def anyText : Language → String
  | python => "Any"
  | kotlin => "Any?"

/-- How an array is written, given its elements. -/
def arrayText : Language → String → String
  | python, items => "list[" ++ items ++ "]"
  | kotlin, items => "List<" ++ items ++ ">"

/-- How a type is written, given the named types. Only resolved types can be written. -/
def typeText (language : Language) (types : List NamedType) : TypeExpr → Except Failure String
  | .scalar kind => .ok (language.scalarText kind)
  | .any => .ok language.anyText
  | .array items => (language.typeText types items).map language.arrayText
  | .named id =>
    match types[id]? with
    | some type => .ok type.name
    | none => fail (.inexpressible "NamedType" language.title) {}
  | .unresolved name pointer =>
    fail (.inexpressible (TypeExpr.unresolved name pointer).sort language.title) {}
  | .missing => fail (.inexpressible TypeExpr.missing.sort language.title) {}

end Language

end SchemaCompiler.Target
