import SchemaCompiler.Data.Value

/-!
# Reading JSON

A text is read as one JSON value with nothing but white space around it. Numbers without a fraction
or an exponent are integers. The names for infinities and not-a-number are accepted. Of several
entries with one key the last value counts.
-/

namespace SchemaCompiler.Data.Json

/-- What can be wrong with a JSON text. -/
inductive Complaint where
  | byteOrderMark
  | expectingValue
  | extraData
  | expectingName
  | expectingColon
  | expectingComma
  | unterminatedString
  | controlCharacter
  | invalidEscape
  | invalidUnicodeEscape
  deriving DecidableEq, Repr

/-- The wording of a complaint. -/
def Complaint.message : Complaint → String
  | byteOrderMark => "Unexpected UTF-8 BOM (decode using utf-8-sig)"
  | expectingValue => "Expecting value"
  | extraData => "Extra data"
  | expectingName => "Expecting property name enclosed in double quotes"
  | expectingColon => "Expecting ':' delimiter"
  | expectingComma => "Expecting ',' delimiter"
  | unterminatedString => "Unterminated string starting at"
  | controlCharacter => "Invalid control character at"
  | invalidEscape => "Invalid \\escape"
  | invalidUnicodeEscape => "Invalid \\uXXXX escape"

/-- Why a text is no JSON value: a complaint about a position, or an integer with too many
digits. -/
inductive Failure where
  | complaint (complaint : Complaint) (position : Nat)
  | tooManyDigits (count : Nat)
  deriving DecidableEq, Repr

/-- A complaint with the line, the column and the position in a text. -/
def describe (text : List Char) (complaint : Complaint) (position : Nat) : String :=
  let before := text.take position
  let line := before.count '\n' + 1
  let column := (before.reverse.takeWhile (· != '\n')).length + 1
  s!"{complaint.message}: line {line} column {column} (char {position})"

/-- A place in a text and what follows it. -/
structure Place where
  position : Nat
  rest : List Char

namespace Place

/-- Move over a number of characters. -/
def advanceBy (count : Nat) (place : Place) : Place :=
  { position := place.position + count, rest := place.rest.drop count }

/-- Move over white space. -/
def skipBlank (place : Place) : Place :=
  place.advanceBy
    (place.rest.takeWhile fun c => c == ' ' || c == '\t' || c == '\n' || c == '\r').length

end Place

/-- Fail with a complaint about a position. -/
def complain {α : Type} (complaint : Complaint) (position : Nat) : Except Failure α :=
  .error (.complaint complaint position)

/-! ## Strings -/

/-- Is the character a hexadecimal digit? -/
def isHexDigit (c : Char) : Bool := c.isDigit || ('a' ≤ c && c ≤ 'f') || ('A' ≤ c && c ≤ 'F')

/-- The escapes of one letter. -/
def shortEscapes : List (Char × Char) :=
  [('"', '"'), ('\\', '\\'), ('/', '/'), ('b', '\x08'), ('f', '\x0c'), ('n', '\n'), ('r', '\r'),
   ('t', '\t')]

/-- The four digits of an escape from after its letter. Something must follow them. -/
def readUnit (place : Place) : Except Failure Nat :=
  let digits := place.rest.take 4
  if (place.rest.drop 4).isEmpty || !digits.all isHexDigit then
    complain .invalidUnicodeEscape (place.position - 1)
  else .ok (Number.ofDigits 16 (digits.filterMap Number.digitOf?))

/-- A character given by number, from after the letter of its escape. Two halves of a character are
joined. -/
def readCodePoint (place : Place) : Except Failure (Char × Place) := do
  let first ← readUnit place
  let after := place.advanceBy 4
  let alone := (Text.charOfCode first, after)
  match after.rest with
  | '\\' :: 'u' :: rest =>
    if 0xD800 ≤ first && first < 0xDC00 && !(rest.drop 4).isEmpty then
      let second ← readUnit (after.advanceBy 2)
      match Text.joinHalves? first second with
      | some c => return (c, after.advanceBy 6)
      | none => return alone
    else return alone
  | _ => return alone

/-- The characters of a string that starts at a position, up to its closing quote. -/
def readChars (start : Nat) : Nat → Place → Except Failure (List Char × Place)
  | 0, _ => complain .unterminatedString start
  | fuel + 1, place =>
    match place.rest with
    | [] => complain .unterminatedString start
    | '"' :: _ => .ok ([], place.advanceBy 1)
    | ['\\'] => complain .unterminatedString start
    | '\\' :: 'u' :: _ => do
      let (c, after) ← readCodePoint (place.advanceBy 2)
      let (text, after) ← readChars start fuel after
      return (c :: text, after)
    | '\\' :: c :: _ =>
      match shortEscapes.lookup c with
      | none => complain .invalidEscape place.position
      | some meant => do
        let (text, after) ← readChars start fuel (place.advanceBy 2)
        return (meant :: text, after)
    | c :: _ =>
      if c.toNat < 0x20 then complain .controlCharacter place.position
      else do
        let (text, after) ← readChars start fuel (place.advanceBy 1)
        return (c :: text, after)

/-- A string from its opening quote. -/
def readString (place : Place) : Except Failure (String × Place) := do
  let (text, after) ← readChars place.position (place.rest.length + 1) (place.advanceBy 1)
  return (String.ofList text, after)

/-! ## Numbers -/

/-- How many characters the fraction at the front of a text takes. -/
def fractionLength : List Char → Nat
  | '.' :: rest =>
    let digits := (rest.takeWhile Char.isDigit).length
    if digits = 0 then 0 else digits + 1
  | _ => 0

/-- How many characters the exponent at the front of a text takes. -/
def exponentLength : List Char → Nat
  | mark :: rest =>
    if mark == 'e' || mark == 'E' then
      let signed := rest.head?.any fun c => c == '-' || c == '+'
      let sign := if signed then 1 else 0
      let digits := ((rest.drop sign).takeWhile Char.isDigit).length
      if digits = 0 then 0 else 1 + sign + digits
    else 0
  | [] => 0

/-- A number. -/
def readNumber (place : Place) : Except Failure (Value × Place) :=
  let (negative, unsigned) :=
    match place.rest with
    | '-' :: rest => (true, rest)
    | rest => (false, rest)
  let whole :=
    match unsigned with
    | '0' :: _ => ['0']
    | rest => rest.takeWhile Char.isDigit
  if whole.isEmpty then complain .expectingValue place.position
  else
    let after := unsigned.drop whole.length
    let fraction := fractionLength after
    let exponent := exponentLength (after.drop fraction)
    let length := (if negative then 1 else 0) + whole.length + fraction + exponent
    let next := place.advanceBy length
    if fraction + exponent = 0 then
      if Number.digitLimit < whole.length then .error (.tooManyDigits whole.length)
      else
        let magnitude : Int := Number.ofDigits 10 (whole.filterMap Number.digitOf?)
        .ok (.int (if negative then -magnitude else magnitude), next)
    else
      match Number.readFloat? (place.rest.take length) with
      | some value => .ok (.float value, next)
      | none => complain .expectingValue place.position

/-! ## Values -/

/-- The words that are values. -/
def words : List (String × Value) :=
  [("null", .null), ("true", .bool true), ("false", .bool false), ("NaN", .float .nan),
   ("Infinity", .float (.infinite false)), ("-Infinity", .float (.infinite true))]

/-- The word at a place. -/
def readWord? (place : Place) : Option (Value × Place) :=
  (words.find? fun (word, _) => word.toList.isPrefixOf place.rest).map fun (word, value) =>
    (value, place.advanceBy word.length)

mutual

/-- A value. -/
def readValue : Nat → Place → Except Failure (Value × Place)
  | 0, place => complain .expectingValue place.position
  | fuel + 1, place =>
    match place.rest with
    | '"' :: _ => (readString place).map fun (text, after) => (.text text, after)
    | '\x7b' :: _ =>
      let place := (place.advanceBy 1).skipBlank
      if place.rest.head? == some '\x7d' then .ok (.dict [], place.advanceBy 1)
      else readEntries fuel [] place
    | '[' :: _ =>
      let place := (place.advanceBy 1).skipBlank
      if place.rest.head? == some ']' then .ok (.list [], place.advanceBy 1)
      else readItems fuel [] place
    | _ =>
      match readWord? place with
      | some found => .ok found
      | none => readNumber place

/-- The items of a list after some. -/
def readItems : Nat → List Value → Place → Except Failure (Value × Place)
  | 0, _, place => complain .expectingValue place.position
  | fuel + 1, before, place => do
    let (item, place) ← readValue fuel place
    let items := before ++ [item]
    let place := place.skipBlank
    match place.rest.head? with
    | some ']' => return (.list items, place.advanceBy 1)
    | some ',' => readItems fuel items (place.advanceBy 1).skipBlank
    | _ => complain .expectingComma place.position

/-- The entries of a dictionary after some. -/
def readEntries : Nat → List (Value × Value) → Place → Except Failure (Value × Place)
  | 0, _, place => complain .expectingName place.position
  | fuel + 1, before, place => do
    if place.rest.head? != some '"' then complain .expectingName place.position
    else
      let (key, place) ← readString place
      let place := place.skipBlank
      if place.rest.head? != some ':' then complain .expectingColon place.position
      else
        let (value, place) ← readValue fuel (place.advanceBy 1).skipBlank
        let entries := Value.insert (.text key) value before
        let place := place.skipBlank
        match place.rest.head? with
        | some '\x7d' => return (.dict entries, place.advanceBy 1)
        | some ',' => readEntries fuel entries (place.advanceBy 1).skipBlank
        | _ => complain .expectingComma place.position

end

/-- Read a whole text. -/
def read (text : List Char) : Except Failure Value := do
  if text.head? == some '\uFEFF' then complain .byteOrderMark 0
  else
    let start : Place := { position := 0, rest := text }
    let (value, place) ← readValue (2 * text.length + 2) start.skipBlank
    let place := place.skipBlank
    if place.rest.isEmpty then return value else complain .extraData place.position

end SchemaCompiler.Data.Json
