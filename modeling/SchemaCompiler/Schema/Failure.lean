import SchemaCompiler.Document.Node
import SchemaCompiler.Pattern.Issue
import SchemaCompiler.Schema.Error
import SchemaCompiler.Yaml.Fault

/-!
# Failures

Compiling a document fails with an error of the document, or with a fault: a value that does not
exist, cannot be shown or cannot be used. Errors have a location and a batch can go on after them;
faults stop everything.
-/

namespace SchemaCompiler.Schema

/-- Why compiling cannot go on, apart from errors of a document. -/
inductive Fault where
  | value (fault : Yaml.ValueFault)
  | pattern (fault : Pattern.Fault)
  /-- The path of a document has a zero character. -/
  | zeroInPath
  /-- An integer with too many digits to be shown. -/
  | integerTooLong
  /-- The path to the declarations is no list. -/
  | pathNotIterable (type : String)
  /-- The path to the declarations is a mapping. -/
  | pathNotSliceable
  /-- The path to the declarations is a set. -/
  | pathNotOrdered
  /-- There is no path to the declarations. -/
  | pathMissing
  /-- A step of the path to the declarations is no text. -/
  | pathStepNotText (index : Nat) (type : String)
  /-- An error in an open place of a tree, which has no line. -/
  | nodeAbsent
  deriving DecidableEq, Repr

/-- The wording of a fault. -/
def Fault.message : Fault → String
  | value fault => fault.message
  | pattern fault => fault.message
  | zeroInPath => "embedded null byte"
  | integerTooLong =>
    "Exceeds the limit (4300 digits) for integer string conversion; " ++
      "use sys.set_int_max_str_digits() to increase the limit"
  | pathNotIterable type => s!"'{type}' object is not iterable"
  | pathNotSliceable => "unhashable type: 'slice'"
  | pathNotOrdered => "'set' object is not subscriptable"
  | pathMissing => "'CodeGeneratorConfig' object has no attribute 'schemas_path'"
  | pathStepNotText index type => s!"sequence item {index}: expected str instance, {type} found"
  | nodeAbsent => "'NoneType' object has no attribute 'line'"

/-- Why compiling fails. -/
inductive Failure where
  | error (error : Error)
  | fault (fault : Fault)
  deriving DecidableEq, Repr

/-- The text of a failure. -/
def Failure.text : Failure → String
  | .error cause => cause.text
  | .fault cause => cause.message

/-- The failure in a document, unless another document is named already. -/
def Failure.within (document : String) : Failure → Failure
  | .error cause => .error (cause.within document)
  | .fault cause => .fault cause

/-- Fail with an error. -/
def fail {α : Type} (cause : Cause) (location : Location) : Except Failure α :=
  .error (.error { cause, location })

/-- Fail with an error on the line of a node; a fault in an open place. -/
def failAt {α : Type} (node : Document.Node) (cause : Cause) (location : Location) :
    Except Failure α :=
  match node.line? with
  | some line => fail cause { location with line := some line }
  | none => .error (.fault .nodeAbsent)

/-- The form of a scalar in messages; a fault if it cannot be shown. -/
def showScalar (scalar : Document.Scalar) : Except Failure String :=
  match scalar.shown? with
  | some shown => .ok shown
  | none => .error (.fault .integerTooLong)

end SchemaCompiler.Schema
