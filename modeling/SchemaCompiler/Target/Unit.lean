import SchemaCompiler.Target.Language
import SchemaCompiler.Text.Lines

/-!
# Output units

The code for one named type is a unit. Besides there are two shared units, the markers of
constraints and the checks at run time. A unit starts with a header: the lines of a comment, and an
empty line.
-/

namespace SchemaCompiler.Target

open Schema (Directive Failure)

/-- A generated file, named after the type it defines. -/
structure OutputUnit where
  name : String
  body : String
  /-- Is the unit the same for all documents? -/
  shared : Bool := false
  deriving DecidableEq, Repr

/-- How units are rendered. -/
structure Style where
  language : Language
  /-- The package of the generated code, if it can be shown. -/
  package : Option String := some "generated"
  /-- Are constraints and the units that check them generated? -/
  validations : Bool := true
  /-- Do units start with a comment? -/
  comments : Bool := true
  deriving DecidableEq, Repr

/-- The unit that checks constraints at run time. -/
def validationUnit : String := "Validation"

/-- The unit that marks constraints. -/
def markerUnit : String := "Validate"

/-- The names that the shared units define. -/
def reservedNames : List String := ["Validation", "ValidationError", "Validate", "Constraint"]

/-- The comment at the start of shared units. -/
def sharedComment : String := "Generated by yaml_schema_to_code"

/-- The line of a header for a line of a comment. -/
def headerLine (language : Language) (line : String) : String :=
  language.commentStart ++ " " ++ line ++ "\n"

/-- The header for a comment. -/
def Style.header (style : Style) (comment : String) : String :=
  if comment.isEmpty || !style.comments then ""
  else String.join ((Text.lines comment).map (headerLine style.language)) ++ "\n"

/-- Lines, each with its end. -/
def unlines (lines : List String) : String := String.join (lines.map (· ++ "\n"))

/-- The text of the package; a fault if it cannot be shown. -/
def Style.packageText (style : Style) : Except Failure String :=
  match style.package with
  | some text => .ok text
  | none => .error (.fault .integerTooLong)

/-- A directive in the target language. -/
def directiveText (language : Language) (directive : Directive) : Except Failure String := do
  let predicate := language.literals.literal directive.predicate.name
  match language, directive.argument with
  | .python, .null => return "Constraint(" ++ predicate ++ ")"
  | .python, .text argument =>
    return "Constraint(" ++ predicate ++ ", " ++ language.literals.literal argument ++ ")"
  | .kotlin, .null => return "Constraint(predicate = " ++ predicate ++ ")"
  | language, argument =>
    match argument.plain? with
    | none => .error (.fault .integerTooLong)
    | some text =>
      match language with
      | .python => return "Constraint(" ++ predicate ++ ", " ++ text ++ ")"
      | .kotlin =>
        return "Constraint(predicate = " ++ predicate ++ ", argument = " ++
          language.literals.literal text ++ ")"

/-- The directives of a field, unless constraints are turned off. -/
def Style.directives (style : Style) (field : Schema.Field) : Except Failure (List String) :=
  if style.validations then field.constraints.mapM (directiveText style.language) else .ok []

end SchemaCompiler.Target
