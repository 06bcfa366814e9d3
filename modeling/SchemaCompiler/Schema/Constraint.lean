import SchemaCompiler.Pattern.Reading
import SchemaCompiler.Schema.Logged
import SchemaCompiler.Schema.Type

/-!
# Compiling constraints

The `validate` list of a property becomes a list of directives. An entry with an unknown pattern is
dropped with a warning, or is an error when constraints are strict.
-/

namespace SchemaCompiler.Schema

open Document (Node Entries Scalar)

/-- How constraints are compiled. -/
structure ConstraintRules where
  /-- Are unknown patterns errors? -/
  strict : Bool := false
  /-- Must regular expressions be well-formed? -/
  checkRegex : Bool := true
  deriving DecidableEq, Repr

/-- The property whose constraints are compiled. -/
structure PropertyPath where
  declaration : String
  field : String
  deriving DecidableEq, Repr

/-- The location of a node of a property. -/
def PropertyPath.location (path : PropertyPath) (node : Node) : Location :=
  { declaration := some path.declaration, field := some path.field, line := node.line? }

/-- An argument in words. -/
def describeArgument : Option Node → Except Failure String
  | none => .ok "nothing"
  | some (.scalar _ .null) => .ok "nothing"
  | some (.scalar _ value) => return value.typeName ++ " " ++ (← showScalar value)
  | some _ => .ok "a nested structure"

/-- The argument of a length: a natural number. -/
def compileLength (predicate : Predicate) (location : Location) (argument : Option Node) :
    Except Failure Directive := do
  match argument.bind Node.scalar? with
  | some (.int length) =>
    if 0 ≤ length then return { predicate, argument := .int length }
    else fail (.lengthExpected predicate.pattern (← describeArgument argument)) location
  | _ => fail (.lengthExpected predicate.pattern (← describeArgument argument)) location

/-- Refuse a text that is no regular expression. -/
def checkRegex (location : Location) (text : String) : Except Failure Unit :=
  match Pattern.check text.toList with
  | .ok () => .ok ()
  | .error (.issue issue position) =>
    fail (.invalidRegex (Text.quoted text) (Pattern.describeIssue text.toList issue position))
      location
  | .error (.fault fault) => .error (.fault (.pattern fault))

/-- The argument of a regular expression: a text, which is checked if the rules ask for it. -/
def compileRegex (rules : ConstraintRules) (location : Location) (argument : Option Node) :
    Except Failure Directive := do
  match argument.bind Node.scalar? with
  | some (.text text) =>
    if rules.checkRegex then checkRegex location text
    return { predicate := .regex, argument := .text text }
  | _ => fail (.regexExpected (← describeArgument argument)) location

/-- The directive with a predicate and an argument. -/
def compilePredicate (rules : ConstraintRules) (location : Location) (argument : Option Node) :
    Predicate → Except Failure Directive
  | .isAlpha => .ok { predicate := .isAlpha }
  | .isNumeric => .ok { predicate := .isNumeric }
  | .minLength => compileLength .minLength location argument
  | .maxLength => compileLength .maxLength location argument
  | .regex => compileRegex rules location argument

/-- The predicate that an entry asks for. -/
def entryPredicate? (entries : Entries) : Option Predicate :=
  (entries.scalar "pattern").text?.bind Predicate.ofPattern?

/-- Compile one entry; nothing if it is dropped. -/
def compileEntry (rules : ConstraintRules) (path : PropertyPath) : Node → Logged (Option Directive)
  | .mapping line entries => do
    let location := path.location (.mapping line entries)
    match entryPredicate? entries with
    | some predicate =>
      let directive ← Logged.ofExcept
        (compilePredicate rules location (Entries.get? entries "value") predicate)
      return some directive
    | none =>
      let shown ← Logged.ofExcept (showScalar (Entries.scalar entries "pattern"))
      if rules.strict then Logged.ofExcept (fail (.unknownPattern shown) location)
      else
        Logged.note (.droppedPattern shown path.declaration path.field)
        return none
  | node => Logged.ofExcept (failAt node .validateEntryNotMapping (path.location node))

/-- Compile entries in order. -/
def compileEntries (rules : ConstraintRules) (path : PropertyPath) :
    List Node → Logged (List Directive)
  | [] => return []
  | entry :: rest => do
    let directive ← compileEntry rules path entry
    let directives ← compileEntries rules path rest
    return directive.toList ++ directives

/-- Compile the `validate` node of a property. -/
def compileConstraints (rules : ConstraintRules) (path : PropertyPath) :
    Option Node → Logged (List Directive)
  | none => return []
  | some (.scalar _ .null) => return []
  | some (.sequence _ entries) => compileEntries rules path entries
  | some node => Logged.ofExcept (failAt node .validateNotList (path.location node))

end SchemaCompiler.Schema
