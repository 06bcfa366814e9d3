import SchemaCompiler.Yaml.Cursor
import SchemaCompiler.Yaml.Fault
import SchemaCompiler.Number.Reading

/-!
# Scalar tokens

Scalars come in three styles. Plain scalars end where an indicator or less indentation ends them,
quoted scalars at their quote, block scalars where the indentation falls below that of the first
line. In all of them a single line break is folded to a space (except in literal block scalars), and
further line breaks are kept.
-/

namespace SchemaCompiler.Yaml

/-- What a scalar token holds: its text, and the cursor and mark after it. -/
structure ScannedScalar where
  text : List Char
  stop : Mark
  cursor : Cursor

/-- What a folded line break leaves: the break itself if it is no plain line feed, a space if it
stands alone, and the breaks after it. -/
def foldBreaks (first : Option Char) (more : List Char) : List Char :=
  match first with
  | some '\n' => if more.isEmpty then [' '] else more
  | first => first.toList ++ more

/-! ## Plain scalars -/

/-- How many characters of a plain scalar are at the front of a text: up to a blank, a colon before
a blank, and between brackets also up to a bracket, a comma or a question mark. -/
def plainRun (inFlow : Bool) : List Char → Nat
  | [] => 0
  | c :: rest =>
    let bracket (d : Char) : Bool := d == ',' || d == '[' || d == ']' || d == '\x7b' || d == '\x7d'
    if endsItem (some c) then 0
    else if c == ':' && (endsItem rest.head? || (inFlow && rest.head?.any bracket)) then 0
    else if inFlow && (c == '?' || bracket c) then 0
    else plainRun inFlow rest + 1

/-- The line breaks after a first one in a plain scalar, with the spaces around them; nothing if a
line that separates documents follows a break. -/
def plainBreaks : Nat → Cursor → Option (List Char) × Cursor
  | 0, cursor => (some [], cursor)
  | fuel + 1, cursor =>
    let cursor := cursor.skipSpaces
    match cursor.takeBreak with
    | (none, _) => (some [], cursor)
    | (some c, cursor) =>
      if cursor.atSeparator then (none, cursor)
      else
        let (breaks, cursor) := plainBreaks fuel cursor
        (breaks.map (c :: ·), cursor)

/-- The blanks between two pieces of a plain scalar: what they stand for and whether they hold a
line break. An empty result ends the scalar. -/
def plainSpaces (cursor : Cursor) : List Char × Bool × Cursor :=
  let (spaces, cursor) := cursor.takeWhile (· == ' ')
  match cursor.takeBreak with
  | (none, _) => (spaces, false, cursor)
  | (some c, cursor) =>
    if cursor.atSeparator then ([], true, cursor)
    else match plainBreaks (cursor.rest.length + 1) cursor with
      | (none, cursor) => ([], true, cursor)
      | (some breaks, cursor) => (foldBreaks (some c) breaks, true, cursor)

/-- The pieces of a plain scalar. The flag tells whether the blanks just passed hold a line break,
so that a new key may start. -/
def plainPieces (inFlow : Bool) (indent : Int) :
    Nat → List Char → Bool → Mark → Cursor → List Char × Bool × Mark × Cursor
  | 0, _, broken, stop, cursor => ([], broken, stop, cursor)
  | fuel + 1, spaces, broken, stop, cursor =>
    let length := if cursor.next == some '#' then 0 else plainRun inFlow cursor.rest
    if length = 0 then ([], broken, stop, cursor)
    else
      let piece := cursor.rest.take length
      let cursor := cursor.advanceBy length
      let stop := cursor.mark
      let (after, broken, cursor) := plainSpaces cursor
      let (text, broken, stop, cursor) :=
        if after.isEmpty || cursor.next == some '#' ||
          (!inFlow && (cursor.mark.column : Int) < indent)
        then ([], broken, stop, cursor)
        else plainPieces inFlow indent fuel after broken stop cursor
      (spaces ++ piece ++ text, broken, stop, cursor)

/-- A plain scalar, and whether a line break stands behind it. -/
def scanPlain (inFlow : Bool) (indent : Int) (cursor : Cursor) : ScannedScalar × Bool :=
  let (text, broken, stop, after) :=
    plainPieces inFlow indent (cursor.rest.length + 1) [] false cursor.mark cursor
  ({ text, stop, cursor := after }, broken)

/-! ## Quoted scalars -/

/-- The characters with a one-letter escape. -/
def shortEscapes : List (Char × Char) :=
  [('0', '\x00'), ('a', '\x07'), ('b', '\x08'), ('t', '\t'), ('\t', '\t'), ('n', '\n'),
   ('v', '\x0b'),
   ('f', '\x0c'), ('r', '\r'), ('e', '\x1b'), (' ', ' '), ('"', '"'), ('\\', '\\'), ('/', '/'),
   ('N', '\u0085'), ('_', '\u00A0'), ('L', '\u2028'), ('P', '\u2029')]

/-- The number of hexadecimal digits after an escape letter. -/
def escapeWidths : List (Char × Nat) := [('x', 2), ('u', 4), ('U', 8)]

/-- Is the character a hexadecimal digit? -/
def isHexadecimal (c : Char) : Bool :=
  c.isDigit || ('a' ≤ c && c ≤ 'f') || ('A' ≤ c && c ≤ 'F')

/-- A fixed number of hexadecimal digits, or the first character that is none. -/
def hexadecimal? : Nat → List Char → Except (Option Char) (List Char)
  | 0, _ => .ok []
  | _ + 1, [] => .error none
  | count + 1, c :: rest =>
    if isHexadecimal c then (hexadecimal? count rest).map (c :: ·) else .error (some c)

/-- The value of hexadecimal digits. -/
def hexadecimalValue (digits : List Char) : Nat :=
  Number.ofDigits 16 (digits.filterMap Number.digitOf?)

/-- The character with a number. Halves of a character are not joined. -/
def escapedChar (code : Nat) : Except Failure Char :=
  if 0x110000 ≤ code then .error (.value (.noSuchCharacter code)) else .ok (Text.charOfCode code)

/-- The line breaks after a first one in a quoted scalar, without the blanks around them. -/
def quotedBreaks : Nat → Cursor → Except Failure (List Char × Cursor)
  | 0, cursor => .ok ([], cursor)
  | fuel + 1, cursor =>
    if cursor.atSeparator then complain .separatorInsideQuotes cursor.mark
    else
      let cursor := cursor.skipWhile fun c => c == ' ' || c == '\t'
      match cursor.takeBreak with
      | (none, _) => .ok ([], cursor)
      | (some c, cursor) => do
        let (breaks, cursor) ← quotedBreaks fuel cursor
        return (c :: breaks, cursor)

/-- The line breaks at a cursor in a quoted scalar. -/
def allQuotedBreaks (cursor : Cursor) : Except Failure (List Char × Cursor) :=
  quotedBreaks (cursor.rest.length + 1) cursor

/-- One escape of a double-quoted scalar, from after its backslash. -/
def scanEscape (cursor : Cursor) : Except Failure (List Char × Cursor) :=
  match cursor.next with
  | none => complain (.unknownEscape none) cursor.mark
  | some c =>
    match shortEscapes.lookup c, escapeWidths.lookup c with
    | some meant, _ => .ok ([meant], cursor.advance)
    | none, some width =>
      let cursor := cursor.advance
      match hexadecimal? width cursor.rest with
      | .error found => complain (.expectedHexadecimal width found) cursor.mark
      | .ok digits => do
        return ([← escapedChar (hexadecimalValue digits)], cursor.advanceBy width)
    | none, none =>
      if isBreak c then allQuotedBreaks cursor.takeBreak.2
      else complain (.unknownEscape (some c)) cursor.mark

/-- The characters of a quoted scalar up to a blank, a line break or the closing quote. -/
def quotedWord (double : Bool) : Nat → Cursor → Except Failure (List Char × Cursor)
  | 0, cursor => .ok ([], cursor)
  | fuel + 1, cursor =>
    let (plain, cursor) :=
      cursor.takeWhile fun c => !(c == '\x27' || c == '"' || c == '\\' || endsItem (some c))
    let continueWith (piece : List Char) (cursor : Cursor) :
        Except Failure (List Char × Cursor) := do
      let (text, cursor) ← quotedWord double fuel cursor
      return (plain ++ piece ++ text, cursor)
    match cursor.next with
    | none => .ok (plain, cursor)
    | some c =>
      if !double && c == '\x27' && cursor.look 1 == some '\x27'
        then continueWith [c] (cursor.advanceBy 2)
      else if (double && c == '\x27') || (!double && (c == '"' || c == '\\')) then
        continueWith [c] cursor.advance
      else if double && c == '\\' then do
        let (piece, cursor) ← scanEscape cursor.advance
        continueWith piece cursor
      else .ok (plain, cursor)

/-- The blanks and line breaks between two words of a quoted scalar. -/
def quotedSpaces (cursor : Cursor) : Except Failure (List Char × Cursor) :=
  let (spaces, cursor) := cursor.takeWhile fun c => c == ' ' || c == '\t'
  match cursor.next with
  | none => complain .endInsideQuotes cursor.mark
  | some _ =>
    match cursor.takeBreak with
    | (none, _) => .ok (spaces, cursor)
    | (some c, cursor) => do
      let (breaks, cursor) ← allQuotedBreaks cursor
      return (foldBreaks (some c) breaks, cursor)

/-- The words of a quoted scalar after the first, up to the closing quote. -/
def quotedWords (quote : Char) : Nat → Cursor → Except Failure (List Char × Cursor)
  | 0, cursor => .ok ([], cursor)
  | fuel + 1, cursor =>
    if cursor.next == some quote then .ok ([], cursor)
    else do
      let (spaces, cursor) ← quotedSpaces cursor
      let (word, cursor) ← quotedWord (quote == '"') (cursor.rest.length + 1) cursor
      let (text, cursor) ← quotedWords quote fuel cursor
      return (spaces ++ word ++ text, cursor)

/-- A quoted scalar that starts at its opening quote. -/
def scanQuoted (quote : Char) (cursor : Cursor) : Except Failure ScannedScalar := do
  let cursor := cursor.advance
  let (word, cursor) ← quotedWord (quote == '"') (cursor.rest.length + 1) cursor
  let (text, cursor) ← quotedWords quote (cursor.rest.length + 1) cursor
  let cursor := cursor.advance
  return { text := word ++ text, stop := cursor.mark, cursor }

/-! ## Block scalars -/

/-- What becomes of the line breaks at the end of a block scalar. -/
inductive Chomping where
  | strip
  | clip
  | keep
  deriving DecidableEq, Repr

/-- The chomping indicator at a cursor, if there is one. -/
def chomping? (cursor : Cursor) : Option (Chomping × Cursor) :=
  match cursor.next with
  | some '+' => some (.keep, cursor.advance)
  | some '-' => some (.strip, cursor.advance)
  | _ => none

/-- The indentation indicator at a cursor, if there is one. -/
def increment? (cursor : Cursor) : Except Failure (Option Nat × Cursor) :=
  match cursor.next with
  | some c =>
    if c == '0' then complain .zeroIndentation cursor.mark
    else if c.isDigit then .ok (some (c.toNat - 48), cursor.advance)
    else .ok (none, cursor)
  | none => .ok (none, cursor)

/-- The indicators of a block scalar in either order. -/
def blockIndicators (cursor : Cursor) : Except Failure (Chomping × Option Nat × Cursor) := do
  let (chomping, increment, cursor) ←
    match chomping? cursor with
    | some (chomping, cursor) => do
      let (increment, cursor) ← increment? cursor
      pure (chomping, increment, cursor)
    | none => do
      match ← increment? cursor with
      | (some increment, cursor) =>
        match chomping? cursor with
        | some (chomping, cursor) => pure (chomping, some increment, cursor)
        | none => pure (.clip, some increment, cursor)
      | (none, cursor) => pure (.clip, none, cursor)
  if endsWord cursor.next then return (chomping, increment, cursor)
  else complain (.expectedBlockIndicator cursor.next) cursor.mark

/-- The rest of a line that may hold only a comment, and its line break. -/
def skipLineRest (cursor : Cursor) : Except Failure Cursor :=
  let cursor := cursor.skipSpaces.skipComment
  if endsLine cursor.next then .ok cursor.takeBreak.2
  else complain (.expectedLineEnd cursor.next) cursor.mark

/-- Move over spaces up to a column. -/
def skipIndentation (indent : Nat) (cursor : Cursor) : Cursor :=
  let spaces := (cursor.rest.takeWhile (· == ' ')).length
  cursor.advanceBy (min spaces (indent - cursor.mark.column))

/-- The line breaks before a line of a block scalar, and the mark after the last of them. -/
def blockBreaks (indent : Nat) : Nat → Mark → Cursor → List Char × Mark × Cursor
  | 0, stop, cursor => ([], stop, cursor)
  | fuel + 1, stop, cursor =>
    let cursor := skipIndentation indent cursor
    match cursor.takeBreak with
    | (none, _) => ([], stop, cursor)
    | (some c, cursor) =>
      let (breaks, stop, cursor) := blockBreaks indent fuel cursor.mark cursor
      (c :: breaks, stop, cursor)

/-- The blank lines at the start of a block scalar, and the greatest indentation among them and the
first line with text. -/
def blockIndentation : Nat → Nat → Mark → Cursor → List Char × Nat × Mark × Cursor
  | 0, widest, stop, cursor => ([], widest, stop, cursor)
  | fuel + 1, widest, stop, cursor =>
    let after := cursor.skipSpaces
    let widest := if after.mark.index = cursor.mark.index then widest
      else max widest after.mark.column
    match after.takeBreak with
    | (none, _) => ([], widest, stop, after)
    | (some c, cursor) =>
      let (breaks, widest, stop, cursor) := blockIndentation fuel widest cursor.mark cursor
      (c :: breaks, widest, stop, cursor)

/-- The lines of a block scalar from a line with text on. The result ends with the last line break
and the breaks after it, which chomping decides about. -/
def blockLines (folded : Bool) (indent : Nat) :
    Nat → List Char → Mark → Cursor → List Char × Option Char × List Char × Mark × Cursor
  | 0, breaks, stop, cursor => ([], none, breaks, stop, cursor)
  | fuel + 1, breaks, _, cursor =>
    let blank (next : Option Char) : Bool := next == some ' ' || next == some '\t'
    let leading := !blank cursor.next
    let (line, cursor) := cursor.takeWhile (!isBreak ·)
    let (lineBreak, cursor) := cursor.takeBreak
    let (more, stop, cursor) := blockBreaks indent (cursor.rest.length + 1) cursor.mark cursor
    if cursor.mark.column = indent && cursor.next.isSome then
      let joint :=
        if folded && lineBreak == some '\n' && leading && !blank cursor.next then
          if more.isEmpty then [' '] else []
        else lineBreak.toList
      let (text, final) := blockLines folded indent fuel more stop cursor
      (breaks ++ line ++ joint ++ text, final)
    else (breaks ++ line, lineBreak, more, stop, cursor)

/-- A block scalar that starts at its style indicator, inside a collection with some indentation. -/
def scanBlock (folded : Bool) (parent : Int) (cursor : Cursor) : Except Failure ScannedScalar := do
  let (chomping, increment, cursor) ← blockIndicators cursor.advance
  let cursor ← skipLineRest cursor
  let least := (max (parent + 1) 1).toNat
  let fuel := cursor.rest.length + 1
  let (indent, breaks, stop, cursor) :=
    match increment with
    | some increment =>
      let indent := least + increment - 1
      (indent, blockBreaks indent fuel cursor.mark cursor)
    | none =>
      let (breaks, widest, stop, cursor) := blockIndentation fuel 0 cursor.mark cursor
      (max least widest, breaks, stop, cursor)
  let (text, lineBreak, breaks, stop, cursor) :=
    if cursor.mark.column = indent && cursor.next.isSome then
      blockLines folded indent fuel breaks stop cursor
    else ([], none, breaks, stop, cursor)
  let ending :=
    match chomping with
    | .strip => []
    | .clip => lineBreak.toList
    | .keep => lineBreak.toList ++ breaks
  return { text := text ++ ending, stop, cursor }

end SchemaCompiler.Yaml
