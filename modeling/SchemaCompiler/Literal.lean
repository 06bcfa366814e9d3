import SchemaCompiler.Text.Replace

/-!
# String literals

A target language writes a text between quotes. Inside, an escape text goes before itself, before
the quote, before the marker that starts an interpolation, and before the letters that stand for
line feed, carriage return and tab.
-/

namespace SchemaCompiler

/-- The lexical rules of string literals in a target language. -/
structure LiteralSyntax where
  quote : String := "\""
  escape : String := "\\"
  /-- What starts an interpolation inside a literal, if the language has one. -/
  marker : Option String := none
  deriving DecidableEq, Repr

namespace LiteralSyntax

/-- Put the escape before every occurrence of a text. -/
def guard (syn : LiteralSyntax) (target text : List Char) : List Char :=
  Text.replaceAll target (syn.escape.toList ++ target) text

/-- The control characters that a literal writes with a letter. -/
def controls : List (Char × Char) := [('\n', 'n'), ('\r', 'r'), ('\t', 't')]

/-- Write a control character as the escape and its letter, wherever it occurs. -/
def spellControl (syn : LiteralSyntax) (text : List Char) (control : Char × Char) : List Char :=
  Text.replaceAll [control.1] (syn.escape.toList ++ [control.2]) text

/-- The text between the quotes of a literal. The escape is doubled first, so that the escapes added
after it stay single. -/
def escapeText (syn : LiteralSyntax) (text : String) : String :=
  let doubled :=
    Text.replaceAll syn.escape.toList (syn.escape.toList ++ syn.escape.toList) text.toList
  let unquoted := syn.guard syn.quote.toList doubled
  let unmarked := match syn.marker with
    | some marker => if marker.isEmpty then unquoted else syn.guard marker.toList unquoted
    | none => unquoted
  String.ofList (controls.foldl syn.spellControl unmarked)

/-- The literal that stands for a text. -/
def literal (syn : LiteralSyntax) (text : String) : String :=
  syn.quote ++ syn.escapeText text ++ syn.quote

end LiteralSyntax

end SchemaCompiler
