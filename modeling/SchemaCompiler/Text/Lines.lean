/-!
# Lines

A text is cut into lines at line feeds, carriage returns, the pair of both, vertical tabs, form
feeds, the file, group and record separators, the next-line character and the line and paragraph
separators. A break at the very end starts no further line.
-/

namespace SchemaCompiler.Text

/-- Does the character end a line? -/
def isLineEnd (c : Char) : Bool :=
  let code := c.toNat
  (10 ≤ code && code ≤ 13) || (28 ≤ code && code ≤ 30) || code == 0x85 ||
  code == 0x2028 || code == 0x2029

/-- The lines of a text, given the characters of the current line in reverse. -/
def linesFrom (current : List Char) : List Char → List (List Char)
  | [] => if current.isEmpty then [] else [current.reverse]
  | '\r' :: '\n' :: rest => current.reverse :: linesFrom [] rest
  | c :: rest =>
    if isLineEnd c then current.reverse :: linesFrom [] rest else linesFrom (c :: current) rest

/-- The lines of a text, without the characters that end them. -/
def lines (text : String) : List String := (linesFrom [] text.toList).map String.ofList

/-- The text with carriage returns, alone or before a line feed, read as line feeds. -/
def unifyLineEnds : List Char → List Char
  | [] => []
  | '\r' :: '\n' :: rest => '\n' :: unifyLineEnds rest
  | '\r' :: rest => '\n' :: unifyLineEnds rest
  | c :: rest => c :: unifyLineEnds rest

end SchemaCompiler.Text
