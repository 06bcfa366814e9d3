import SchemaCompiler.Yaml.Fault

/-!
# Base 64

Four characters of the alphabet make three bytes. Characters outside the alphabet are skipped, and
padding ends the data.
-/

namespace SchemaCompiler.Yaml.Base64

/-- The value of a character of the alphabet. -/
def digit? (c : Char) : Option Nat :=
  if c.isUpper then some (c.toNat - 65)
  else if c.isLower then some (c.toNat - 71)
  else if c.isDigit then some (c.toNat + 4)
  else if c == '+' then some 62
  else if c == '/' then some 63
  else none

/-- What has been read of a group of four characters: how many, and the bits not yet given out. -/
structure Group where
  count : Nat := 0
  bits : Nat := 0
  pads : Nat := 0

/-- Decode from within a group. `written` is the number of bytes given out before. -/
def decodeFrom (written : Nat) : Group → List Char → Except String (List UInt8)
  | group, [] =>
    if group.count = 0 then .ok []
    else if group.count = 1 then
      .error
        (s!"Invalid base64-encoded string: number of data characters ({written / 3 * 4 + 1}) " ++
        "cannot be 1 more than a multiple of 4")
    else .error "Incorrect padding"
  | group, c :: rest =>
    if c == '=' then
      if 2 ≤ group.count then
        if 4 ≤ group.count + group.pads + 1 then .ok []
        else decodeFrom written { group with pads := group.pads + 1 } rest
      else decodeFrom written group rest
    else match digit? c with
      | none => decodeFrom written group rest
      | some digit =>
        let bits := group.bits * 64 + digit
        let give (byte left : Nat) (count : Nat) : Except String (List UInt8) :=
          (decodeFrom (written + 1) { count, bits := left } rest).map (byte.toUInt8 :: ·)
        match group.count with
        | 0 => decodeFrom written { count := 1, bits } rest
        | 1 => give (bits / 16) (bits % 16) 2
        | 2 => give (bits / 4) (bits % 4) 3
        | _ => give bits 0 0

/-- Why a text is not made of ASCII characters: the first run of others. -/
def asciiFault? (text : List Char) : Option String :=
  let isAscii (c : Char) : Bool := c.toNat < 128
  match text.dropWhile isAscii with
  | [] => none
  | first :: rest =>
    let start := (text.takeWhile isAscii).length
    let more := (rest.takeWhile (!isAscii ·)).length
    let covered :=
      if more = 0 then
        "character '" ++ String.ofList (Text.numericEscape first) ++ s!"' in position {start}"
      else s!"characters in position {start}-{start + more}"
    some s!"'ascii' codec can't encode {covered}: ordinal not in range(128)"

/-- The bytes that a text encodes. -/
def decode (text : String) : Except Complaint (List UInt8) :=
  match asciiFault? text.toList with
  | some detail => .error (.notAscii detail)
  | none => (decodeFrom 0 {} text.toList).mapError .notBase64

end SchemaCompiler.Yaml.Base64
