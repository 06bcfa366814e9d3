import SchemaCompiler.Text.LowerCase
import SchemaCompiler.Yaml.Base64
import SchemaCompiler.Yaml.Graph
import SchemaCompiler.Yaml.Timestamp

/-!
# The values of scalars

The tag of a scalar decides how its text is read. An explicit tag can ask for a value that the text
does not have; then there is a fault, or a problem at the place of the scalar.
-/

namespace SchemaCompiler.Yaml

/-- The value of a scalar. -/
inductive ScalarValue where
  | null
  | bool (value : Bool)
  | int (value : Int)
  | float (value : Binary64)
  | text (value : String)
  | timestamp (value : Timestamp)
  | bytes (value : List UInt8)
  deriving DecidableEq, Repr

namespace ScalarValue

/-- Read an integer in a base, with a fault that shows the text. -/
def readDigits (base : Nat) (text : List Char) : Except ValueFault Int :=
  match Number.readInt base text with
  | .ok value => .ok value
  | .error .malformed => .error (.notInteger base (String.ofList text))
  | .error (.tooManyDigits count) => .error (.tooManyDigits count)

/-- Add up the parts of an integer in base sixty. -/
def sexagesimal (parts : List Int) : Int := parts.foldl (fun value part => value * 60 + part) 0

/-- Read the magnitude of an integer. -/
def readMagnitude : List Char → Except ValueFault Int
  | [] => .error .emptyNumber
  | ['0'] => .ok 0
  | '0' :: 'b' :: digits => readDigits 2 digits
  | '0' :: 'x' :: digits => readDigits 16 digits
  | '0' :: rest => readDigits 8 ('0' :: rest)
  | digits =>
    if digits.contains ':' then ((Tag.colonParts digits).mapM (readDigits 10)).map sexagesimal
    else readDigits 10 digits

/-- Read an integer; underscores count for nothing. -/
def readInteger (text : String) : Except ValueFault Int :=
  let (negative, magnitude) := Number.splitSign (text.toList.filter (· != '_'))
  (readMagnitude magnitude).map fun value => if negative then -value else value

/-- Read a floating-point number without a sign. -/
def readReal (text : List Char) : Except ValueFault Binary64 :=
  match Number.readFloat? text with
  | some value => .ok value
  | none => .error (.notFloat (String.ofList text))

/-- Add up the parts of a number in base sixty, the least significant first. -/
def addSixtieths (total : Binary64) (base : Nat) :
    List Binary64 → Except ValueFault Binary64
  | [] => .ok total
  | part :: rest =>
    match Binary64.ofInt base with
    | .infinite _ => .error .floatTooLarge
    | weight => addSixtieths (total.add (part.mul weight)) (base * 60) rest

/-- The text of a floating-point number in lower case; underscores count for nothing. -/
def floatText (text : String) : List Char := Text.lowerCase (text.toList.filter (· != '_'))

/-- Is a text the word for not-a-number, with or without a sign? -/
def isNanWord (text : String) : Bool := (Number.splitSign (floatText text)).2 == ".nan".toList

/-- Read a floating-point number. -/
def readFloat (text : String) : Except ValueFault Binary64 := do
  let written := floatText text
  if written.isEmpty then .error .emptyNumber
  else
    let (negative, magnitude) := Number.splitSign written
    let value ←
      if magnitude == ".inf".toList then pure (.infinite false)
      else if isNanWord text then pure .nan
      else if magnitude.contains ':' then do
        let parts ← (Tag.colonParts magnitude).mapM readReal
        addSixtieths (.signedZero false) 1 parts.reverse
      else readReal magnitude
    return if negative then value.neg else value

/-- Read a truth value in any case of letters. -/
def readBool (text : String) : Except ValueFault Bool :=
  let word := String.ofList (Text.lowerCase text.toList)
  if ["yes", "true", "on"].contains word then .ok true
  else if ["no", "false", "off"].contains word then .ok false
  else .error (.notBoolean word)

/-- Turn a fault of a value into a failure. -/
def lift {α : Type} (result : Except ValueFault α) : Except Failure α := result.mapError .value

/-- The value of a scalar with a tag, a text and a place. -/
def read (tag text : String) (mark : Mark) : Except Failure ScalarValue :=
  if tag == Tag.str then .ok (.text text)
  else if tag == Tag.null then .ok .null
  else if tag == Tag.bool then lift ((readBool text).map .bool)
  else if tag == Tag.int then lift ((readInteger text).map .int)
  else if tag == Tag.float then lift ((readFloat text).map .float)
  else if tag == Tag.timestamp then lift ((Timestamp.read text).map .timestamp)
  else if tag == Tag.binary then
    match Base64.decode text with
    | .ok data => .ok (.bytes data)
    | .error complaint => complain complaint mark
  else if tag == Tag.seq then complain (.expectedSequenceNode "scalar") mark
  else if tag == Tag.map || tag == Tag.set then complain (.expectedMappingNode "scalar") mark
  else if tag == Tag.omap then complain (.expectedOrderedPairs "scalar") mark
  else if tag == Tag.pairs then complain (.expectedPairs "scalar") mark
  else complain (.noConstructor tag) mark

end ScalarValue

end SchemaCompiler.Yaml
