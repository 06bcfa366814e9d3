import SchemaCompiler.Text.Pieces
import SchemaCompiler.Yaml.Fault

/-!
# Sources

A YAML text may hold certain characters only. A text at hand is checked before it is read. A file is
checked in batches while it is read, so a problem in an early batch comes before a character in a
later one that is not allowed, or before bytes that are no characters. A source is therefore a text
and the failure that comes when reading looks beyond it.
-/

namespace SchemaCompiler.Yaml

/-- Is the character allowed in a YAML text? -/
def isAllowed (c : Char) : Bool :=
  c == '\t' || c == '\n' || c == '\r' || (' ' ≤ c && c ≤ '~') || c == '\u0085' ||
    ('\u00A0' ≤ c && c != '\uFFFE' && c != '\uFFFF')

/-- The place of the first character that is not allowed. -/
def forbidden? (text : List Char) : Option Problem :=
  (text.zipIdx.find? fun (c, _) => !isAllowed c).map fun (c, index) =>
    { complaint := .forbiddenCharacter c, mark := { index } }

/-- What can be read, and the problem that comes behind it, unless the text ends there. -/
structure Source where
  text : List Char
  edge : Option Problem := none
  deriving DecidableEq, Repr

namespace Source

/-- The start of the batch with the character at a place. The first two batches are read as one. -/
def batchStart (index : Nat) : Nat :=
  if index < 2 * Text.batchLength then 0 else index - index % Text.batchLength

/-- A text at hand, all of which is checked first. -/
def ofText (text : List Char) : Source :=
  match forbidden? text with
  | some problem => { text := [], edge := some problem }
  | none => { text }

/-- The bytes of a file. The batches before a fault and before a character that is not allowed can
be read. -/
def ofBytes (bytes : List UInt8) : Source :=
  let (text, fault) := Text.decodePieces bytes
  let source : Source :=
    match fault with
    | some fault =>
      { text := text.take (batchStart text.length)
        edge := some { complaint := .notUtf8 fault, mark := {} } }
    | none => { text }
  match forbidden? source.text with
  | some problem =>
    { text := source.text.take (batchStart problem.mark.index), edge := some problem }
  | none => source

end Source

end SchemaCompiler.Yaml
