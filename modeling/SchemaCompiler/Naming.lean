import SchemaCompiler.Text.Blank
import SchemaCompiler.Text.Matcher

/-!
# Names

A declared identifier is cut into words of ASCII letters and digits; everything else only separates.
The words are joined again in the convention of the place where the name is used: `TypeName`,
`fieldName`, `module_name` or `ENUM_CONSTANT`.
-/

namespace SchemaCompiler.Naming

open Text (Matcher)

/-- A word is a run of small letters, a run of capitals that no small letter follows, a capital with
the small letters behind it, or a run of digits. A run of capitals gives its last one back when a
small letter follows. -/
def wordMatcher : Matcher :=
  .orElse (.atLeastOne Char.isLower) <|
  .orElse (.andThen (.atLeastOne Char.isUpper) (.notBefore Char.isLower)) <|
  .orElse (.andThen (.one Char.isUpper) (.many Char.isLower)) (.atLeastOne Char.isDigit)

/-- Underscores, hyphens and periods stand for spaces between words. -/
def spaced (c : Char) : Char := if c == '_' || c == '-' || c == '.' then ' ' else c

/-- The words of a text. -/
def words (text : List Char) : List (List Char) := wordMatcher.findAll (text.map spaced)

/-- A run of characters that no constant can have. -/
def separatorMatcher : Matcher := .atLeastOne (!·.isAlphanum)

/-- The word with its first letter as a capital. -/
def capitalize : List Char → List Char
  | [] => []
  | c :: rest => c.toUpper :: rest

/-- The text with every ASCII letter small. -/
def lower (text : List Char) : List Char := text.map Char.toLower

/-- The text with every ASCII letter a capital. -/
def upper (text : List Char) : List Char := text.map Char.toUpper

/-- Join parts with an underscore between neighbours. -/
def joinUnderscore (pieces : List (List Char)) : List Char := ['_'].intercalate pieces

/-- The name of a type: every word starts with a capital. -/
def typeName (text : String) : String :=
  String.ofList ((words text.toList).flatMap capitalize)

/-- The name of a field: a type name whose first word is in lower case. -/
def fieldName (text : String) : String :=
  match words text.toList with
  | [] => ""
  | first :: rest => String.ofList (lower first ++ rest.flatMap capitalize)

/-- The name of a module: words in lower case joined by underscores. -/
def moduleName (text : String) : String :=
  String.ofList (joinUnderscore ((words text.toList).map lower))

/-- An underscore comes before a constant that would start with a digit. -/
def markDigit : List Char → List Char
  | [] => []
  | c :: rest => if c.isDigit then '_' :: c :: rest else c :: rest

/-- The constant of an enumeration value: without the white space around it, with an underscore for
every run of other characters than letters and digits, without underscores around it, and in
capitals. -/
def enumConstant (text : String) : String :=
  let joined := separatorMatcher.replaceAll ['_'] (Text.trim Text.isSeparating text.toList)
  String.ofList (markDigit (upper (Text.trim (· == '_') joined)))

end SchemaCompiler.Naming
