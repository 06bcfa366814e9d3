import SchemaCompiler.Yaml.Mark

/-!
# Reading a text

A cursor is a mark together with the characters after it. Lines and columns are counted on the way:
a carriage return before a line feed does not end the line yet, and a byte order mark takes no
column.
-/

namespace SchemaCompiler.Yaml

/-- A place in a text and what follows it. -/
structure Cursor where
  mark : Mark := {}
  rest : List Char
  deriving DecidableEq, Repr

namespace Cursor

/-- The character at a distance from the cursor. -/
def look (cursor : Cursor) (distance : Nat) : Option Char := cursor.rest[distance]?

/-- The character after the cursor. -/
def next (cursor : Cursor) : Option Char := cursor.rest.head?

/-- The mark after one more character, of which the rest of the text is given. -/
def stepMark (mark : Mark) (c : Char) (rest : List Char) : Mark :=
  if isBreak c && !(c == '\r' && rest.head? == some '\n') then
    { index := mark.index + 1, line := mark.line + 1, column := 0 }
  else
    { mark with
      index := mark.index + 1
      column := if c == '\uFEFF' then mark.column else mark.column + 1 }

/-- Move over one character. -/
def advance (cursor : Cursor) : Cursor :=
  match cursor.rest with
  | [] => cursor
  | c :: rest => { mark := stepMark cursor.mark c rest, rest }

/-- Move over a number of characters. -/
def advanceBy : Nat → Cursor → Cursor
  | 0, cursor => cursor
  | count + 1, cursor => advanceBy count cursor.advance

/-- Take the characters of a kind after the cursor, and move over them. -/
def takeWhile (kind : Char → Bool) (cursor : Cursor) : List Char × Cursor :=
  let taken := cursor.rest.takeWhile kind
  (taken, cursor.advanceBy taken.length)

/-- Move over the characters of a kind. -/
def skipWhile (kind : Char → Bool) (cursor : Cursor) : Cursor := (cursor.takeWhile kind).2

/-- Move over spaces. -/
def skipSpaces (cursor : Cursor) : Cursor := cursor.skipWhile (· == ' ')

/-- Move over a comment, if one starts here, to the end of its line. -/
def skipComment (cursor : Cursor) : Cursor :=
  if cursor.next == some '#' then cursor.skipWhile (!isBreak ·) else cursor

/-- Move over a line break. It is read as a line feed, unless it is a line or paragraph
separator. -/
def takeBreak (cursor : Cursor) : Option Char × Cursor :=
  match cursor.rest with
  | '\r' :: '\n' :: _ => (some '\n', cursor.advanceBy 2)
  | c :: _ =>
    if c == '\u2028' || c == '\u2029' then (some c, cursor.advance)
    else if isBreak c then (some '\n', cursor.advance)
    else (none, cursor)
  | [] => (none, cursor)

end Cursor

/-- Is the place at the end of a line or of the text? -/
def endsLine (next : Option Char) : Bool := next.all isBreak

/-- Is the place before a space, or at the end of a line or of the text? -/
def endsWord (next : Option Char) : Bool := next.all fun c => c == ' ' || isBreak c

/-- Is the place before a space or tab, or at the end of a line or of the text? -/
def endsItem (next : Option Char) : Bool := next.all fun c => c == ' ' || c == '\t' || isBreak c

/-- Does a line that holds only `---` or `...`, or starts with it and a blank, start here? -/
def Cursor.atSeparator (cursor : Cursor) : Bool :=
  match cursor.rest with
  | '-' :: '-' :: '-' :: rest => endsItem rest.head?
  | '.' :: '.' :: '.' :: rest => endsItem rest.head?
  | _ => false

end SchemaCompiler.Yaml
