import SchemaCompiler.Yaml.Cursor
import SchemaCompiler.Yaml.Fault
import SchemaCompiler.Yaml.Token
import SchemaCompiler.Yaml.Token.Scalar

/-!
# Anchors, tags and directives

The tokens that are not content: an anchor or alias is a name after its indicator, a tag is a handle
and a suffix in which bytes may be escaped, and a directive is a line that starts with a percent
sign.
-/

namespace SchemaCompiler.Yaml

/-- May the character stand in the name of an anchor, a tag handle or a directive? -/
def isNameChar (c : Char) : Bool := c.isAlphanum || c == '-' || c == '_'

/-- May the character follow the name of an anchor or alias? -/
def endsName (next : Option Char) : Bool :=
  endsItem next || next.any fun c => "?:,]\x7d%@`".toList.contains c

/-- The name after the indicator of an anchor or alias. -/
def scanAnchorName (cursor : Cursor) : Except Failure (String × Cursor) :=
  let (name, after) := cursor.advance.takeWhile isNameChar
  if name.isEmpty || !endsName after.next then complain (.expectedName after.next) after.mark
  else .ok (String.ofList name, after)

/-! ## Tags -/

/-- May the character stand in the suffix of a tag? -/
def isUriChar (c : Char) : Bool :=
  c.isAlphanum || "-;/?:@&=+$,_.!~*'()[]%".toList.contains c

/-- The bytes written by escapes of a percent sign and two hexadecimal digits. -/
def uriBytes : Nat → Cursor → Except Failure (List UInt8 × Cursor)
  | 0, cursor => .ok ([], cursor)
  | fuel + 1, cursor =>
    if cursor.next == some '%' then
      let cursor := cursor.advance
      match hexadecimal? 2 cursor.rest with
      | .error found => complain (.expectedUriEscape found) cursor.mark
      | .ok digits => do
        let (bytes, cursor) ← uriBytes fuel (cursor.advanceBy 2)
        return ((hexadecimalValue digits).toUInt8 :: bytes, cursor)
    else .ok ([], cursor)

/-- The characters that a run of escapes encodes. -/
def scanUriEscapes (cursor : Cursor) : Except Failure (List Char × Cursor) := do
  let (bytes, after) ← uriBytes (cursor.rest.length + 1) cursor
  match Text.decodeUtf8 bytes with
  | .ok text => return (text, after)
  | .error fault => complain (.uriNotUtf8 fault) cursor.mark

/-- The pieces of a tag's suffix: characters that stand for themselves and runs of escapes. -/
def uriPieces : Nat → Cursor → Except Failure (List Char × Cursor)
  | 0, cursor => .ok ([], cursor)
  | fuel + 1, cursor => do
    let (literal, cursor) := cursor.takeWhile fun c => isUriChar c && c != '%'
    if cursor.next == some '%' then
      let (escaped, cursor) ← scanUriEscapes cursor
      let (text, cursor) ← uriPieces fuel cursor
      return (literal ++ escaped ++ text, cursor)
    else return (literal, cursor)

/-- The suffix of a tag. -/
def scanUri (cursor : Cursor) : Except Failure (String × Cursor) := do
  let (text, after) ← uriPieces (cursor.rest.length + 1) cursor
  if text.isEmpty then complain (.expectedUri after.next) after.mark
  else return (String.ofList text, after)

/-- A tag handle: an exclamation mark alone before a space, or a name between two of them. -/
def scanHandle (cursor : Cursor) : Except Failure (String × Cursor) :=
  if cursor.next != some '!' then complain (.expectedHandle cursor.next) cursor.mark
  else if cursor.look 1 == some ' ' then .ok ("!", cursor.advance)
  else
    let (name, after) := cursor.advance.takeWhile isNameChar
    if after.next == some '!' then .ok (String.ofList ('!' :: name ++ ['!']), after.advance)
    else complain (.expectedHandle after.next) after.mark

/-- A tag without the check of what follows it: written in full between angle brackets, the mark of
no tag at all, or a suffix with or without a handle. -/
def scanTagName (cursor : Cursor) : Except Failure (Option String × String × Cursor) := do
  if cursor.look 1 == some '<' then
    let (suffix, cursor) ← scanUri (cursor.advanceBy 2)
    if cursor.next == some '>' then return (none, suffix, cursor.advance)
    else complain (.expectedTagEnd cursor.next) cursor.mark
  else if endsItem (cursor.look 1) then return (none, "!", cursor.advance)
  else
    let word := cursor.advance.rest.takeWhile fun c => !endsWord (some c)
    let (handle, cursor) ←
      if word.contains '!' then scanHandle cursor else pure ("!", cursor.advance)
    let (suffix, cursor) ← scanUri cursor
    return (some handle, suffix, cursor)

/-- A tag, which ends at a space or the end of its line. -/
def scanTag (cursor : Cursor) : Except Failure (Option String × String × Cursor) := do
  let (handle, suffix, cursor) ← scanTagName cursor
  if endsWord cursor.next then return (handle, suffix, cursor)
  else complain (.expectedSpace cursor.next) cursor.mark

/-! ## Directives -/

/-- A number in a version. -/
def scanVersionNumber (cursor : Cursor) : Except Failure (Nat × Cursor) :=
  match cursor.takeWhile Char.isDigit with
  | ([], _) => complain (.expectedDigit cursor.next) cursor.mark
  | (digits, after) =>
    if Number.digitLimit < digits.length then .error (.value (.tooManyDigits digits.length))
    else .ok (Number.ofDigits 10 (digits.filterMap Number.digitOf?), after)

/-- The version of a version directive. -/
def scanVersion (cursor : Cursor) : Except Failure (Directive × Cursor) := do
  let (major, cursor) ← scanVersionNumber cursor.skipSpaces
  if cursor.next != some '.' then complain (.expectedDigitOrDot cursor.next) cursor.mark
  else
    let (minor, cursor) ← scanVersionNumber cursor.advance
    if endsWord cursor.next then return (.version major minor, cursor)
    else complain (.expectedDigitOrSpace cursor.next) cursor.mark

/-- The handle and the start of the full tag of a tag directive. -/
def scanTagHandle (cursor : Cursor) : Except Failure (Directive × Cursor) := do
  let (handle, cursor) ← scanHandle cursor.skipSpaces
  if cursor.next != some ' ' then complain (.expectedSpace cursor.next) cursor.mark
  else
    let (uri, cursor) ← scanUri cursor.skipSpaces
    if endsWord cursor.next then return (.tagHandle handle uri, cursor)
    else complain (.expectedSpace cursor.next) cursor.mark

/-- A directive line, the mark after its content, and the cursor after the line. -/
def scanDirective (cursor : Cursor) : Except Failure (Directive × Mark × Cursor) := do
  let (name, after) := cursor.advance.takeWhile isNameChar
  if name.isEmpty || !endsWord after.next then complain (.expectedName after.next) after.mark
  else
    let name := String.ofList name
    let (directive, after) ←
      if name == "YAML" then scanVersion after
      else if name == "TAG" then scanTagHandle after
      else pure (.other name, after)
    let rest := match directive with
      | .other _ => after.skipWhile (!isBreak ·)
      | _ => after
    let final ← skipLineRest rest
    return (directive, after.mark, final)

end SchemaCompiler.Yaml
