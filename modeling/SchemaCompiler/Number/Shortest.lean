import SchemaCompiler.Number.Binary64

/-!
# The shortest decimal text of a number

A finite number is written with the fewest significant digits that read back as the same number, and
with the nearest such digits. The decimal point is placed for exponents from -4 to 15; outside them
the digits are written with an exponent of at least two digits.
-/

namespace SchemaCompiler

namespace Binary64

/-- The decimal exponent of a positive ratio: the position of its first significant digit, where the
units are at position zero. -/
def decimalExponent (numerator denominator : Nat) : Int :=
  if denominator ≤ numerator then (Nat.toDigits 10 (numerator / denominator)).length - 1
  else -((Nat.toDigits 10 ((denominator + numerator - 1) / numerator - 1)).length : Int)

/-- The decimal with `count` digits, the first at position `top`, that is nearest to the ratio among
those that read back as the number: its digits as an integer, if there is one. -/
def digitsOf? (number : Binary64) (numerator denominator : Nat) (top : Int) (count : Nat) :
    Option Nat :=
  let power : Int := top + 1 - count
  let dividend := numerator * Nat.pow 10 (-power).toNat
  let divisor := denominator * Nat.pow 10 power.toNat
  let below := dividend / divisor
  let remainder := dividend % divisor
  let readsBack (digits : Nat) : Bool := ofDecimal false digits power == number
  let nearest := roundHalfEven below remainder divisor
  let other := if nearest == below then below + 1 else below
  if readsBack nearest then some nearest
  else if readsBack other then some other
  else none

/-- The first count of digits from `count` on, at most `count + tries`, for which a decimal reads
back: the digits, without zeros at the end, and the position of the first of them. -/
def shortestFrom (number : Binary64) (numerator denominator : Nat) (top : Int) :
    Nat → Nat → List Char × Int
  | 0, _ => ([], top)
  | tries + 1, count =>
    match digitsOf? number numerator denominator top count with
    | some digits =>
      let text := Nat.toDigits 10 digits
      let top := top + (text.length - count : Int)
      ((text.reverse.dropWhile (· == '0')).reverse, top)
    | none => shortestFrom number numerator denominator top tries (count + 1)

/-- The significant digits of a positive finite number and the position of the first. -/
def shortest (mantissa : Nat) (exponent : Int) : List Char × Int :=
  let (numerator, denominator) := ratio mantissa exponent
  shortestFrom (.finite false mantissa exponent) numerator denominator
    (decimalExponent numerator denominator) 17 1

/-- Digits with the decimal point placed; at least one digit stands on each side of it. -/
def positional (digits : List Char) (top : Int) : List Char :=
  if top < 0 then '0' :: '.' :: (List.replicate (-top - 1).toNat '0' ++ digits)
  else
    let whole := top.toNat + 1
    if digits.length ≤ whole then
      digits ++ List.replicate (whole - digits.length) '0' ++ ['.', '0']
    else digits.take whole ++ '.' :: digits.drop whole

/-- Digits with an exponent, which has a sign and at least two digits. -/
def scientific (digits : List Char) (top : Int) : List Char :=
  let head := match digits with
    | [] => []
    | [d] => [d]
    | d :: rest => d :: '.' :: rest
  let magnitude := Nat.toDigits 10 top.natAbs
  head ++ ['e', if top < 0 then '-' else '+'] ++
    List.replicate (2 - magnitude.length) '0' ++ magnitude

/-- The text of a number. -/
def text : Binary64 → String
  | .nan => "nan"
  | .infinite negative => if negative then "-inf" else "inf"
  | .finite negative mantissa exponent =>
    let magnitude :=
      if mantissa == 0 then ['0', '.', '0']
      else
        let (digits, top) := shortest mantissa exponent
        if -4 ≤ top && top < 16 then positional digits top else scientific digits top
    String.ofList (if negative then '-' :: magnitude else magnitude)

end Binary64

end SchemaCompiler
