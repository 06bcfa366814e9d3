import SchemaCompiler.Text.Quoted

/-!
# UTF-8

A text is written as bytes, unless it has halves of characters, which have no bytes. Bytes are read
character by character. A fault names the bytes it covers: a byte that cannot start a character, the
bytes of a character up to a wrong continuation, or a character cut off by the end.
-/

namespace SchemaCompiler.Text

/-! ## Writing -/

/-- The first halves of characters in a text that stand together. -/
structure EncodeFault where
  position : Nat
  first : Char
  count : Nat
  deriving DecidableEq, Repr

/-- The wording of a fault: one half is shown, several are by their positions. -/
def EncodeFault.message (fault : EncodeFault) : String :=
  "'utf-8' codec can't encode " ++
    (if fault.count = 1 then
      "character '" ++ String.ofList (numericEscape fault.first) ++
        s!"' in position {fault.position}"
    else s!"characters in position {fault.position}-{fault.position + fault.count - 1}") ++
    ": surrogates not allowed"

/-- Why a text has no bytes. -/
def encodeFault? (text : List Char) : Option EncodeFault :=
  match text.dropWhile (!isHalf ·) with
  | [] => none
  | first :: rest =>
    some {
      position := (text.takeWhile (!isHalf ·)).length
      first
      count := (rest.takeWhile isHalf).length + 1 }

/-- The bytes of a text. -/
def encodeUtf8 (text : String) : Except EncodeFault (List UInt8) :=
  match encodeFault? text.toList with
  | some fault => .error fault
  | none => .ok text.toUTF8.toList

/-! ## Reading -/

/-- Why bytes are not UTF-8. -/
inductive Utf8Reason where
  | invalidStart
  | invalidContinuation
  | unexpectedEnd
  deriving DecidableEq, Repr

/-- The first fault in a sequence of bytes: the position and the bytes it covers. -/
structure Utf8Fault where
  position : Nat
  covered : List UInt8
  reason : Utf8Reason
  deriving DecidableEq, Repr

/-- The wording of a reason. -/
def Utf8Reason.message : Utf8Reason → String
  | .invalidStart => "invalid start byte"
  | .invalidContinuation => "invalid continuation byte"
  | .unexpectedEnd => "unexpected end of data"

/-- The wording of a fault: one byte is shown by value, several by their positions. -/
def Utf8Fault.message (fault : Utf8Fault) : String :=
  match fault.covered with
  | [byte] =>
    "'utf-8' codec can't decode byte 0x" ++ String.ofList (hexDigits 2 byte.toNat) ++
      s!" in position {fault.position}: " ++ fault.reason.message
  | covered =>
    s!"'utf-8' codec can't decode bytes in position {fault.position}-" ++
      s!"{fault.position + covered.length - 1}: " ++ fault.reason.message

/-- What stands at the front of some bytes. -/
inductive Utf8Head where
  /-- A whole character, and how many bytes it takes. -/
  | char (c : Char) (width : Nat)
  /-- A fault that covers the given number of bytes. -/
  | fault (reason : Utf8Reason) (width : Nat)

/-- The number of continuation bytes that a first byte asks for, the bounds of the first of them and
the bits that the first byte contributes. -/
def utf8Shape? (first : Nat) : Option (Nat × Nat × Nat × Nat) :=
  if first < 0xC2 then none
  else if first < 0xE0 then some (1, 0x80, 0xBF, first - 0xC0)
  else if first < 0xF0 then
    some (2, (if first == 0xE0 then 0xA0 else 0x80), (if first == 0xED then 0x9F else 0xBF),
      first - 0xE0)
  else if first < 0xF5 then
    some (3, (if first == 0xF0 then 0x90 else 0x80), (if first == 0xF4 then 0x8F else 0xBF),
      first - 0xF0)
  else none

/-- Read the continuation bytes of a character, of which `seen` bytes have been read. -/
def utf8Continue (seen code : Nat) : Nat → Nat → Nat → List UInt8 → Utf8Head
  | 0, _, _, _ => .char (Char.ofNat code) seen
  | _ + 1, _, _, [] => .fault .unexpectedEnd seen
  | owed + 1, low, high, byte :: rest =>
    if low ≤ byte.toNat && byte.toNat ≤ high then
      utf8Continue (seen + 1) (code * 64 + (byte.toNat - 0x80)) owed 0x80 0xBF rest
    else .fault .invalidContinuation seen

/-- What stands at the front of the bytes that start with the given one. -/
def utf8Head (first : UInt8) (rest : List UInt8) : Utf8Head :=
  if first.toNat < 0x80 then .char (Char.ofNat first.toNat) 1
  else match utf8Shape? first.toNat with
    | none => .fault .invalidStart 1
    | some (owed, low, high, bits) => utf8Continue 1 bits owed low high rest

/-- Read bytes from a position on, skipping those that the character before has covered. -/
def decodeUtf8From (position : Nat) : Nat → List UInt8 → Except Utf8Fault (List Char)
  | _, [] => .ok []
  | skip + 1, _ :: rest => decodeUtf8From (position + 1) skip rest
  | 0, byte :: rest =>
    match utf8Head byte rest with
    | .char c width => (decodeUtf8From (position + 1) (width - 1) rest).map (c :: ·)
    | .fault reason width => .error { position, covered := (byte :: rest).take width, reason }

/-- The characters that some bytes encode, or the first fault. -/
def decodeUtf8 (bytes : List UInt8) : Except Utf8Fault (List Char) := decodeUtf8From 0 0 bytes

/-- Show bytes as text; a byte that is part of no character is shown by its number. -/
def showUtf8From : Nat → List UInt8 → List Char
  | _, [] => []
  | skip + 1, _ :: rest => showUtf8From skip rest
  | 0, byte :: rest =>
    match utf8Head byte rest with
    | .char c width => c :: showUtf8From (width - 1) rest
    | .fault _ width =>
      ((byte :: rest).take width).flatMap (fun b => '\\' :: 'x' :: hexDigits 2 b.toNat) ++
        showUtf8From (width - 1) rest

/-- Show bytes as text, whatever they hold. -/
def showUtf8 (bytes : List UInt8) : String := String.ofList (showUtf8From 0 bytes)

end SchemaCompiler.Text
