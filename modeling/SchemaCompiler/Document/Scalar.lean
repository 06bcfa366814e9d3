import SchemaCompiler.Number.Decimal
import SchemaCompiler.Number.Shortest
import SchemaCompiler.Text.Quoted

/-!
# Scalars

A scalar of a document is null, a truth value, a number or a text. It has a plain text, and a quoted
form for messages; both are missing for integers with too many digits.
-/

namespace SchemaCompiler.Document

/-- A scalar of a document. -/
inductive Scalar where
  | null
  | bool (value : Bool)
  | int (value : Int)
  | float (value : Binary64)
  | text (value : String)
  deriving DecidableEq, Repr, Inhabited

namespace Scalar

/-- The text of a scalar, which for a text is the text itself. -/
def plain? : Scalar → Option String
  | null => some "None"
  | bool value => some (if value then "True" else "False")
  | int value => Number.decimal? value
  | float value => some value.text
  | text value => some value

/-- The form of a scalar in messages, where texts are quoted. -/
def shown? : Scalar → Option String
  | text value => some (Text.quoted value)
  | scalar => scalar.plain?

/-- The name of a scalar's type in messages. -/
def typeName : Scalar → String
  | null => "NoneType"
  | bool _ => "bool"
  | int _ => "int"
  | float _ => "float"
  | text _ => "str"

/-- The text, if the scalar is one. -/
def text? : Scalar → Option String
  | text value => some value
  | _ => none

end Scalar

end SchemaCompiler.Document
