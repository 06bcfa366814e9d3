/-!
# Halves of characters

The numbers from D800 to DFFF belong to no characters: two of them together encode one character
beyond the basic plane in sixteen-bit units. Escapes can name such a half all the same, and a text
then has it as if it were a character. Here a half is kept as a character for private use of the
last plane, one of those from 10D800 to 10DFFF. A text that has one of these characters of its own
is taken to have the half: the two cannot be told apart. Every other character is read back as what
it is (`codeOf_charOfCode`).
-/

namespace SchemaCompiler.Text

/-- Is the number that of a half of a character? -/
def isHalfCode (code : Nat) : Bool := 0xD800 ≤ code && code < 0xE000

/-- The distance from the number of a half to the character that it is kept as. -/
def halfOffset : Nat := 0x100000

/-- The character, or half of one, with a number. -/
def charOfCode (code : Nat) : Char :=
  if isHalfCode code then Char.ofNat (code + halfOffset) else Char.ofNat code

/-- Is the character kept for a half? -/
def isHalf (c : Char) : Bool := halfOffset ≤ c.toNat && isHalfCode (c.toNat - halfOffset)

/-- The number of a character or of a half. -/
def codeOf (c : Char) : Nat := if isHalf c then c.toNat - halfOffset else c.toNat

theorem toNat_ofNat {code : Nat} (valid : code.isValidChar) : (Char.ofNat code).toNat = code := by
  rw [Char.ofNat, dif_pos valid]
  rfl

/-- Halves, and all characters but those that halves are kept as, have the numbers they are made
from. -/
theorem codeOf_charOfCode {code : Nat} (inRange : code < 0x110000)
    (notKept : isHalf (Char.ofNat code) = false) : codeOf (charOfCode code) = code := by
  unfold charOfCode codeOf
  cases half : isHalfCode code with
  | true =>
      have valid : (code + halfOffset).isValidChar := by
        simp only [isHalfCode, Bool.and_eq_true, decide_eq_true_eq] at half
        unfold halfOffset Nat.isValidChar
        omega
      simp [isHalf, toNat_ofNat valid, half]
  | false =>
      have valid : code.isValidChar := by
        simp only [isHalfCode, Bool.and_eq_false_iff, decide_eq_false_iff_not] at half
        unfold Nat.isValidChar
        omega
      simp [notKept, toNat_ofNat valid]

/-- The character of two halves, given their numbers. -/
def joinHalves? (first second : Nat) : Option Char :=
  if 0xD800 ≤ first && first < 0xDC00 && 0xDC00 ≤ second && second < 0xE000 then
    some (Char.ofNat (0x10000 + (first - 0xD800) * 0x400 + (second - 0xDC00)))
  else none

end SchemaCompiler.Text
