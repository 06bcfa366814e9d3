/-!
# Binary floating-point numbers

Numbers with 53 significant bits, as exact data: a finite number is a sign, a mantissa and a power
of two. A rational number is rounded to the nearest of them, and to the one with the even mantissa
when two are equally near. Sums and products are rounded results of the exact operation.
-/

namespace SchemaCompiler

/-- A binary floating-point number of double precision. The magnitude of a finite number is
`mantissa * 2 ^ exponent`. -/
inductive Binary64 where
  | finite (negative : Bool) (mantissa : Nat) (exponent : Int)
  | infinite (negative : Bool)
  | nan
  deriving DecidableEq, Repr

namespace Binary64

/-- The least exponent of a finite number. -/
def leastExponent : Int := -1074

/-- The greatest exponent of a finite number. -/
def greatestExponent : Int := 971

/-- The bound `2 ^ 53` of mantissas. -/
def mantissaLimit : Nat := 9007199254740992

/-- Zero, with a sign. -/
def signedZero (negative : Bool) : Binary64 := .finite negative 0 leastExponent

/-- The quotient of a numerator and a denominator times `2 ^ exponent`, with the remainder and the
divisor that it is a remainder of. -/
def scaledQuotient (numerator denominator : Nat) (exponent : Int) : Nat × Nat × Nat :=
  let dividend := numerator * Nat.pow 2 (-exponent).toNat
  let divisor := denominator * Nat.pow 2 exponent.toNat
  (dividend / divisor, dividend % divisor, divisor)

/-- Round a quotient to the nearest integer, a half to the even one. -/
def roundHalfEven (quotient remainder divisor : Nat) : Nat :=
  if 2 * remainder < divisor then quotient
  else if divisor < 2 * remainder then quotient + 1
  else quotient + quotient % 2

/-- A finite number from a mantissa of at most `2 ^ 53`, or infinity when the exponent is too
great. -/
def pack (negative : Bool) (mantissa : Nat) (exponent : Int) : Binary64 :=
  let (mantissa, exponent) :=
    if mantissa == mantissaLimit then (mantissaLimit / 2, exponent + 1) else (mantissa, exponent)
  if greatestExponent < exponent then .infinite negative else .finite negative mantissa exponent

/-- The number nearest to `numerator / denominator`. -/
def ofRatio (negative : Bool) (numerator denominator : Nat) : Binary64 :=
  if numerator == 0 then signedZero negative
  else
    let estimate : Int := (numerator.log2 : Int) - denominator.log2 - 53
    let low := max estimate leastExponent
    let (quotient, remainder, divisor) := scaledQuotient numerator denominator low
    if quotient < mantissaLimit then pack negative (roundHalfEven quotient remainder divisor) low
    else
      let (quotient, remainder, divisor) := scaledQuotient numerator denominator (low + 1)
      pack negative (roundHalfEven quotient remainder divisor) (low + 1)

/-- The number nearest to `digits * 10 ^ power`. Powers far outside the range are settled without
computing them. -/
def ofDecimal (negative : Bool) (digits : Nat) (power : Int) : Binary64 :=
  if digits == 0 then signedZero negative
  else
    let magnitude : Int := power + (Nat.toDigits 10 digits).length
    if 400 < magnitude then .infinite negative
    else if magnitude < -400 then signedZero negative
    else ofRatio negative (digits * Nat.pow 10 power.toNat) (Nat.pow 10 (-power).toNat)

/-- The number nearest to an integer. -/
def ofInt (value : Int) : Binary64 := ofRatio (value < 0) value.natAbs 1

/-- The number with the opposite sign. -/
def neg : Binary64 → Binary64
  | .finite negative mantissa exponent => .finite (!negative) mantissa exponent
  | .infinite negative => .infinite (!negative)
  | .nan => .nan

/-- Is the sign of the number negative? -/
def isNegative : Binary64 → Bool
  | .finite negative _ _ => negative
  | .infinite negative => negative
  | .nan => false

/-- Is the number zero, of either sign? -/
def isZero : Binary64 → Bool
  | .finite _ mantissa _ => mantissa == 0
  | _ => false

/-- The numerator and denominator of a magnitude `mantissa * 2 ^ exponent`. -/
def ratio (mantissa : Nat) (exponent : Int) : Nat × Nat :=
  (mantissa * Nat.pow 2 exponent.toNat, Nat.pow 2 (-exponent).toNat)

/-- The product, rounded. -/
def mul (a b : Binary64) : Binary64 :=
  match a, b with
  | .finite s m e, .finite t n f =>
    let (numerator, denominator) := ratio (m * n) (e + f)
    ofRatio (s != t) numerator denominator
  | .nan, _ | _, .nan => .nan
  | a, b => if a.isZero || b.isZero then .nan else .infinite (a.isNegative != b.isNegative)

/-- The sum, rounded. A sum that vanishes is positive unless both summands are negative. -/
def add (a b : Binary64) : Binary64 :=
  match a, b with
  | .finite s m e, .finite t n f =>
    let low := min e f
    let signed (negative : Bool) (mantissa : Nat) (exponent : Int) : Int :=
      let scaled : Nat := mantissa * Nat.pow 2 (exponent - low).toNat
      if negative then -(scaled : Int) else scaled
    let sum := signed s m e + signed t n f
    if sum == 0 then signedZero (s && t)
    else
      let (numerator, denominator) := ratio sum.natAbs low
      ofRatio (sum < 0) numerator denominator
  | .infinite s, .infinite t => if s == t then .infinite s else .nan
  | .infinite s, .finite _ _ _ | .finite _ _ _, .infinite s => .infinite s
  | .nan, _ | _, .nan => .nan

/-- The integer that a finite number without fraction stands for. -/
def toInt? : Binary64 → Option Int
  | .finite negative mantissa exponent =>
    let (numerator, denominator) := ratio mantissa exponent
    if numerator % denominator == 0 then
      let magnitude : Int := (numerator / denominator : Nat)
      some (if negative then -magnitude else magnitude)
    else none
  | _ => none

end Binary64

end SchemaCompiler
