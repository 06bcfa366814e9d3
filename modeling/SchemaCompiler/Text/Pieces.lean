import SchemaCompiler.Text.Lines
import SchemaCompiler.Text.Utf8

/-!
# Bytes read in pieces

The bytes of a long text are not decoded all at once. Characters are asked for in batches, and
whenever a batch needs more of them, a piece of the bytes is decoded. Two things can be split
between pieces: a character, whose first bytes are then kept for the next piece, and a line end,
whose carriage return is.

Pieces show in faults: the position of a fault is counted from the first byte that its piece was
decoded with, and none of the characters of that piece can be read.
-/

namespace SchemaCompiler.Text

/-- How many characters are asked for at a time. -/
def batchLength : Nat := 4096

/-- The least number of bytes in a piece, unless the bytes end. -/
def leastPiece : Nat := 8192

/-- What has been decoded so far. -/
structure PieceReader where
  /-- The bytes that are left. -/
  bytes : List UInt8
  /-- The first bytes of a character that the last piece has cut off. -/
  cut : List UInt8 := []
  /-- Did the last piece end with a carriage return? -/
  heldReturn : Bool := false
  /-- The characters of each piece, the last piece first. -/
  pieces : List (List Char) := []
  /-- How many characters there are. -/
  count : Nat := 0
  /-- The number of bytes and of characters in the last piece. -/
  last : Nat × Nat := (0, 0)

namespace PieceReader

/-- How many bytes the next piece takes: enough for the batch if its characters are as wide as those
of the last piece. -/
def pieceLength (r : PieceReader) : Nat :=
  max leastPiece (r.last.1 * (batchLength - r.count % batchLength) / r.last.2)

/-- The characters that some bytes encode, and the bytes of a character cut off by their end. -/
def decodePiece (bytes : List UInt8) : Except Utf8Fault (List Char × List UInt8) :=
  match decodeUtf8 bytes with
  | .ok text => .ok (text, [])
  | .error fault =>
    match fault.reason with
    | .unexpectedEnd => (decodeUtf8 (bytes.take fault.position)).map (·, bytes.drop fault.position)
    | _ => .error fault

/-- Take in the characters of a piece of bytes. -/
def add (bytes : Nat) (text : List Char) (r : PieceReader) : PieceReader :=
  let text := if r.heldReturn && !text.isEmpty then '\r' :: text else text
  let heldReturn := if text.isEmpty then r.heldReturn else text.getLast? == some '\r'
  let text := unifyLineEnds (if heldReturn then text.dropLast else text)
  { r with
    heldReturn
    pieces := text :: r.pieces
    count := r.count + text.length
    last := (bytes, text.length) }

/-- The characters decoded so far. -/
def text (r : PieceReader) : List Char := r.pieces.reverse.flatten

/-- Decode pieces until the bytes end or one has a fault. A character that the end of the bytes cuts
off is a piece of its own. -/
def readAll : Nat → PieceReader → List Char × Option Utf8Fault
  | 0, r => (r.text, none)
  | fuel + 1, r =>
    match r.bytes with
    | [] =>
      match decodeUtf8 r.cut with
      | .error fault => (r.text, some fault)
      | .ok _ => (r.text ++ (if r.heldReturn then ['\n'] else []), none)
    | _ =>
      let taken := r.bytes.take r.pieceLength
      match decodePiece (r.cut ++ taken) with
      | .error fault => (r.text, some fault)
      | .ok (text, cut) =>
        readAll fuel ({ r with bytes := r.bytes.drop r.pieceLength, cut }.add taken.length text)

end PieceReader

/-- The characters that some bytes encode, read in pieces and with unified line ends, and the fault
behind them, if there is one. -/
def decodePieces (bytes : List UInt8) : List Char × Option Utf8Fault :=
  PieceReader.readAll (bytes.length + 1) { bytes }

end SchemaCompiler.Text
