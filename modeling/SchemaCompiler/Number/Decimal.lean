import SchemaCompiler.Number.Reading

/-!
# Writing integers

Integers are written in decimal, unless they have too many digits.
-/

namespace SchemaCompiler.Number

/-- The decimal digits of a number. -/
def decimalDigits (value : Nat) : List Char := Nat.toDigits 10 value

/-- The decimal text of an integer, unless it has more digits than are converted. -/
def decimal? (value : Int) : Option String :=
  let digits := decimalDigits value.natAbs
  if digitLimit < digits.length then none
  else some (String.ofList (if value < 0 then '-' :: digits else digits))

end SchemaCompiler.Number
