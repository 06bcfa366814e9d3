import SchemaCompiler.Target.Unit

/-!
# Kotlin units

An object is a data class, an enumeration an enum class, an alias a type alias. Every unit names its
package.
-/

namespace SchemaCompiler.Target.Kotlin

open Schema (Failure Field NamedType TypeExpr)

/-- A property of a data class. -/
structure Member where
  name : String
  type : String
  optional : Bool
  directives : List String
  deriving DecidableEq, Repr

/-- The type of a member: an optional one can be null, if it cannot anyway. -/
def Member.typeText (member : Member) : String :=
  if member.optional && member.type.toList.getLast? != some '?' then member.type ++ "?"
  else member.type

/-- The lines of a member: its constraints, and the property. -/
def Member.lines (member : Member) : List String :=
  (if member.directives.isEmpty then []
   else ["    @property:Validate(" ++ ", ".intercalate member.directives ++ ")"]) ++
  ["    val " ++ member.name ++ ": " ++ member.typeText ++
    (if member.optional then " = null" else "") ++ ","]

/-- The member for a field. -/
def member (style : Style) (types : List NamedType) (field : Field) : Except Failure Member := do
  let type ← Language.kotlin.typeText types field.type
  let directives ← style.directives field
  return { name := Language.kotlin.memberName field.name, type,
           optional := field.optional, directives }

/-- The lines of an object with members. -/
def objectLines (name : String) (members : List Member) : List String :=
  if members.isEmpty then ["class " ++ name]
  else ["data class " ++ name ++ "("] ++ members.flatMap Member.lines ++ [")"]

/-- The lines of an enumeration. -/
def enumLines (name : String) (values : List String) : List String :=
  ["enum class " ++ name ++ " \x7b"] ++ values.map (fun value => "    " ++ value ++ ",") ++ ["\x7d"]

/-- The line that names the package, and an empty one. -/
def packageLines (style : Style) : Except Failure (List String) :=
  style.packageText.map fun package => ["package " ++ package, ""]

/-- The lines of the definition of a named type. -/
def definitionLines (style : Style) (types : List NamedType) (type : NamedType) :
    Except Failure (List String) :=
  match type.body with
  | .object _ fields => (fields.mapM (member style types)).map (objectLines type.name)
  | .enumeration values => .ok (enumLines type.name values)
  | .aliasOf target =>
    (Language.kotlin.typeText types target).map fun text =>
      ["typealias " ++ type.name ++ " = " ++ text]

/-- The lines of the unit of a named type. -/
def typeLines (style : Style) (types : List NamedType) (type : NamedType) :
    Except Failure (List String) := do
  let definition ← definitionLines style types type
  return (← packageLines style) ++ definition

/-- The lines of the unit that checks constraints, after the package. -/
def validationLines : List String :=
  ["import kotlin.reflect.full.findAnnotation",
   "import kotlin.reflect.full.memberProperties",
   "import kotlin.reflect.full.primaryConstructor",
   "",
   "data class ValidationError(val property: String, val message: String)",
   "",
   "object Validation \x7b",
   "    /**",
   "     * Check every annotated property of a generated class instance.",
   "     *",
   "     * Errors are returned in constructor parameter order, then constraint order.",
   "     * Properties holding null or a non-string value are skipped.",
   "     */",
   "    fun validate(obj: Any): List<ValidationError> \x7b",
   "        val errors = mutableListOf<ValidationError>()",
   "        val kClass = obj::class",
   "        val properties = kClass.memberProperties.associateBy \x7b it.name \x7d",
   "        val order = kClass.primaryConstructor?.parameters?.mapNotNull \x7b it.name \x7d ?: " ++
     "properties.keys.sorted()",
   "        for (name in order) \x7b",
   "            val property = properties[name] ?: continue",
   "            val annotation = property.findAnnotation<Validate>() ?: continue",
   "            val value = property.getter.call(obj) as? String ?: continue",
   "            for (constraint in annotation.constraints) \x7b",
   "                check(constraint, value)?.let \x7b errors.add(ValidationError(name, it)) \x7d",
   "            \x7d",
   "        \x7d",
   "        return errors",
   "    \x7d",
   "",
   "    /** Return the failure message of one constraint, or null when it holds. */",
   "    fun check(constraint: Constraint, value: String): String? = " ++
     "when (constraint.predicate) \x7b",
   "        \"isAlpha\" -> if (value.all \x7b it.isLetter() \x7d) null else " ++
     "\"Must contain only letters\"",
   "        \"isNumeric\" -> if (value.all \x7b it.isDigit() \x7d) null else " ++
     "\"Must contain only numeric characters\"",
   "        \"minLength\" -> if (value.length >= constraint.argument.toInt()) null else " ++
     "\"Must be at least $\x7bconstraint.argument\x7d characters long\"",
   "        \"maxLength\" -> if (value.length <= constraint.argument.toInt()) null else " ++
     "\"Must not exceed $\x7bconstraint.argument\x7d characters\"",
   "        \"regex\" -> if (Regex(constraint.argument).matches(value)) null else " ++
     "\"Does not match the required pattern\"",
   "        else -> throw IllegalArgumentException(\"Unknown constraint predicate: " ++
     "$\x7bconstraint.predicate\x7d\")",
   "    \x7d",
   "\x7d"]

/-- The lines of the unit that marks constraints, after the package. -/
def markerLines : List String :=
  ["/** One validation rule of a property: a predicate name and its optional argument. */",
   "@Retention(AnnotationRetention.RUNTIME)",
   "annotation class Constraint(val predicate: String, val argument: String = \"\")",
   "",
   "/** Validation rules attached to a property, checked in order. */",
   "@Target(AnnotationTarget.PROPERTY)",
   "@Retention(AnnotationRetention.RUNTIME)",
   "annotation class Validate(vararg val constraints: Constraint)"]

end SchemaCompiler.Target.Kotlin
