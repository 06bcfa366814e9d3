import SchemaCompiler.Number.Binary64
import SchemaCompiler.Text.Blank
import SchemaCompiler.Text.Digit

/-!
# Reading numbers

Numbers may have white space around them and a sign, digits may be those of any script, and single
underscores may stand between digits. A decimal integer of more than 4300 digits is refused, because
converting it takes quadratic time.
-/

namespace SchemaCompiler.Number

/-- The greatest number of decimal digits that an integer is converted from or to. -/
def digitLimit : Nat := 4300

/-- Why a text is no integer. -/
inductive IntegerFault where
  | malformed
  | tooManyDigits (count : Nat)
  deriving DecidableEq, Repr

/-- The value of a digit: a decimal digit of any script or a Latin letter from ten on. -/
def digitOf? (c : Char) : Option Nat :=
  if c.isDigit then some (c.toNat - 48)
  else if c.isLower then some (c.toNat - 87)
  else if c.isUpper then some (c.toNat - 55)
  else Text.digitValue? c

/-- The digits below a base at the front of a text, and what follows them. An underscore is allowed
after a digit and before one. -/
def digitRun (base : Nat) : List Char → List Nat × List Char
  | [] => ([], [])
  | c :: rest =>
    match digitOf? c with
    | some digit =>
      if digit < base then
        let (digits, after) :=
          match rest with
          | '_' :: next :: more =>
            if (digitOf? next).any (· < base) then digitRun base (next :: more)
            else ([], '_' :: next :: more)
          | rest => digitRun base rest
        (digit :: digits, after)
      else ([], c :: rest)
    | none => ([], c :: rest)

/-- The value of digits in a base, the most significant first. -/
def ofDigits (base : Nat) (digits : List Nat) : Nat :=
  digits.foldl (fun value digit => value * base + digit) 0

/-- Split a sign off: is it a minus, and what follows? -/
def splitSign : List Char → Bool × List Char
  | '-' :: rest => (true, rest)
  | '+' :: rest => (false, rest)
  | rest => (false, rest)

/-- Drop the mark of the base, `0b`, `0o` or `0x`, with an underscore after it if there is one. -/
def dropBaseMark (base : Nat) (text : List Char) : List Char :=
  match text with
  | '0' :: mark :: rest =>
    let expected := if base == 2 then 'b' else if base == 8 then 'o' else 'x'
    if base != 10 && mark.toLower == expected then
      match rest with
      | '_' :: more => more
      | rest => rest
    else text
  | text => text

/-- The text with the decimal digits of all scripts in ASCII. -/
def asciiDigits (text : List Char) : List Char :=
  text.map fun c => ((Text.digitValue? c).map fun digit => Char.ofNat (48 + digit)).getD c

/-- Read an integer in base 2, 8, 10 or 16. -/
def readInt (base : Nat) (text : List Char) : Except IntegerFault Int :=
  let (negative, unsigned) := splitSign (asciiDigits (Text.strip text))
  let (digits, after) := digitRun base (dropBaseMark base unsigned)
  if base == 10 && digitLimit < digits.length then .error (.tooManyDigits digits.length)
  else if digits.isEmpty || !after.isEmpty then .error .malformed
  else
    let magnitude : Int := ofDigits base digits
    .ok (if negative then -magnitude else magnitude)

/-- Read the exponent of a decimal: a sign and at least one digit, with nothing after them. -/
def readExponent? (text : List Char) : Option Int :=
  let (negative, unsigned) := splitSign text
  match digitRun 10 unsigned with
  | ([], _) => none
  | (digits, []) =>
    let magnitude : Int := ofDigits 10 digits
    some (if negative then -magnitude else magnitude)
  | _ => none

/-- Read a decimal with an optional fraction and exponent. -/
def readDecimal? (negative : Bool) (text : List Char) : Option Binary64 :=
  let (whole, after) := digitRun 10 text
  let (fraction, after) :=
    match after with
    | '.' :: rest => digitRun 10 rest
    | after => ([], after)
  if whole.isEmpty && fraction.isEmpty then none
  else
    let exponent? : Option Int :=
      match after with
      | [] => some 0
      | c :: rest => if c == 'e' || c == 'E' then readExponent? rest else none
    exponent?.map fun exponent =>
      Binary64.ofDecimal negative (ofDigits 10 (whole ++ fraction)) (exponent - fraction.length)

/-- Read a floating-point number: a decimal, an infinity or not-a-number. -/
def readFloat? (text : List Char) : Option Binary64 :=
  let (negative, unsigned) := splitSign (Text.strip text)
  let word := String.ofList (unsigned.map Char.toLower)
  if word == "inf" || word == "infinity" then some (.infinite negative)
  else if word == "nan" then some .nan
  else readDecimal? negative unsigned

end SchemaCompiler.Number
