/-!
# Blank characters

The white space that may surround a number: the ASCII blanks, the next line and no-break spaces, and
the spaces of fixed width. The information separators are not among them; they are white space
around words only.
-/

namespace SchemaCompiler.Text

/-- Is the character white space of any script? -/
def isBlank (c : Char) : Bool :=
  let code := c.toNat
  (9 ≤ code && code ≤ 13) || code == 32 || code == 0x85 || code == 0xA0 ||
  code == 0x1680 || (0x2000 ≤ code && code ≤ 0x200A) || code == 0x2028 || code == 0x2029 ||
  code == 0x202F || code == 0x205F || code == 0x3000

/-- Is the character white space around words? -/
def isSeparating (c : Char) : Bool := isBlank c || (28 ≤ c.toNat && c.toNat ≤ 31)

/-- The text without the characters of a class around it. -/
def trim (isOf : Char → Bool) (text : List Char) : List Char :=
  ((text.dropWhile isOf).reverse.dropWhile isOf).reverse

/-- The text without the white space around it. -/
def strip (text : List Char) : List Char := trim isBlank text

end SchemaCompiler.Text
