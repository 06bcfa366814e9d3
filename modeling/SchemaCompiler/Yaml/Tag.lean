import SchemaCompiler.Yaml.Event

/-!
# Tags

A tag says what kind of value a node is. A plain scalar without a tag gets one from its text: truth
values, floating-point numbers, integers, merge keys, nulls, timestamps, the default value and the
signs of the language itself have their forms, and everything else is text.
-/

namespace SchemaCompiler.Yaml

namespace Tag

/-- The tag of a standard type. -/
def standard (name : String) : String := "tag:yaml.org,2002:" ++ name

def str : String := standard "str"
def seq : String := standard "seq"
def map : String := standard "map"
def null : String := standard "null"
def bool : String := standard "bool"
def int : String := standard "int"
def float : String := standard "float"
def binary : String := standard "binary"
def timestamp : String := standard "timestamp"
def omap : String := standard "omap"
def pairs : String := standard "pairs"
def set : String := standard "set"
def merge : String := standard "merge"
def value : String := standard "value"
def yaml : String := standard "yaml"

/-! ## The forms of plain scalars -/

/-- The words for truth values. -/
def boolWords : List String :=
  ["yes", "Yes", "YES", "no", "No", "NO", "true", "True", "TRUE", "false", "False", "FALSE",
   "on", "On", "ON", "off", "Off", "OFF"]

/-- The words for null. -/
def nullWords : List String := ["~", "null", "Null", "NULL", ""]

/-- The text without a sign. -/
def unsigned : List Char → List Char
  | '-' :: rest => rest
  | '+' :: rest => rest
  | text => text

/-- Is the character a decimal digit or an underscore? -/
def isDigitOrGap (c : Char) : Bool := c.isDigit || c == '_'

/-- Is the text a digit, followed by digits and underscores? -/
def isDecimal : List Char → Bool
  | [] => false
  | c :: rest => c.isDigit && rest.all isDigitOrGap

/-- Is the text one digit, or two digits below sixty? -/
def isSixtieth : List Char → Bool
  | [c] => c.isDigit
  | [c, d] => '0' ≤ c && c ≤ '5' && d.isDigit
  | _ => false

/-- The pieces of a text between colons. -/
def colonParts (text : List Char) : List (List Char) := text.splitOn ':'

/-- Is the text a number in base sixty, whose first part has a form of its own? -/
def isSexagesimal (first : List Char → Bool) (text : List Char) : Bool :=
  match colonParts text with
  | head :: part :: parts => first head && (part :: parts).all isSixtieth
  | _ => false

/-- Is the text an exponent with its sign? -/
def isExponent : List Char → Bool
  | mark :: sign :: c :: rest =>
    (mark == 'e' || mark == 'E') && (sign == '-' || sign == '+') && (c :: rest).all Char.isDigit
  | _ => false

/-- Is the text a fraction, of which the digits may be missing, and an optional exponent? -/
def isFraction (text : List Char) : Bool :=
  let after := text.dropWhile isDigitOrGap
  after.isEmpty || isExponent after

/-- Is the text a floating-point number? -/
def isFloat (text : List Char) : Bool :=
  let number := unsigned text
  let (whole, after) := number.span (· != '.')
  let fraction := after.tail
  let dotted := !after.isEmpty
  (dotted && isDecimal whole && isFraction fraction) ||
  (match text with
    | '.' :: c :: rest => c.isDigit && isFraction (c :: rest)
    | _ => false) ||
  (dotted && isSexagesimal isDecimal whole && fraction.all isDigitOrGap) ||
  ([".inf", ".Inf", ".INF"].contains (String.ofList number)) ||
  ([".nan", ".NaN", ".NAN"].contains (String.ofList text))

/-- Is the text a digit other than zero, followed by digits and underscores? -/
def isPositive : List Char → Bool
  | [] => false
  | c :: rest => c.isDigit && c != '0' && rest.all isDigitOrGap

/-- Is the text an integer in base two, eight, ten, sixteen or sixty? -/
def isInt (text : List Char) : Bool :=
  let number := unsigned text
  (match number with
    | '0' :: 'b' :: rest => !rest.isEmpty && rest.all fun c => c == '0' || c == '1' || c == '_'
    | '0' :: 'x' :: rest => !rest.isEmpty && rest.all fun c => isHexadecimal c || c == '_'
    | '0' :: rest => rest.all fun c => ('0' ≤ c && c ≤ '7') || c == '_'
    | number => isPositive number) ||
  isSexagesimal isPositive number

/-- Split one or two digits off the front of a text. -/
def shortNumber? : List Char → Option (List Char × List Char)
  | c :: d :: rest =>
    if c.isDigit then if d.isDigit then some ([c, d], rest) else some ([c], d :: rest) else none
  | [c] => if c.isDigit then some ([c], []) else none
  | [] => none

/-- Split digits off the front of a text, exactly as many as asked for. -/
def digits? (count : Nat) (text : List Char) : Option (List Char × List Char) :=
  let digits := text.take count
  if digits.length = count && digits.all Char.isDigit then some (digits, text.drop count) else none

/-- Split a character off the front of a text. -/
def mark? (c : Char) : List Char → Option (List Char)
  | d :: rest => if d == c then some rest else none
  | [] => none

/-- The parts of a timestamp, as they are written. -/
structure TimestampParts where
  year : List Char
  month : List Char
  day : List Char
  /-- Hour, minute, second and the digits of the fraction. -/
  time : Option (List Char × List Char × List Char × List Char) := none
  /-- Is there a time zone? -/
  zone : Bool := false
  /-- The sign, the hours and the minutes of the offset of the time zone. -/
  offset : Option (Char × List Char × List Char) := none

/-- The time zone at the end of a timestamp, with blanks in front of it. Not even blanks may stand
there without a zone. -/
def timestampZone? (parts : TimestampParts) (text : List Char) : Option TimestampParts :=
  if text.isEmpty then some parts
  else
    match text.dropWhile fun c => c == ' ' || c == '\t' with
    | ['Z'] => some { parts with zone := true }
    | sign :: rest =>
      if sign == '-' || sign == '+' then do
        let (hours, rest) ← shortNumber? rest
        match rest with
        | [] => some { parts with zone := true, offset := some (sign, hours, []) }
        | rest => do
          let (minutes, rest) ← mark? ':' rest >>= digits? 2
          if rest.isEmpty
            then some { parts with zone := true, offset := some (sign, hours, minutes) }
          else none
      else none
    | [] => none

/-- The date and time of a timestamp. -/
def timestampTime? (text : List Char) : Option TimestampParts := do
  let (year, rest) ← digits? 4 text
  let (month, rest) ← mark? '-' rest >>= shortNumber?
  let (day, rest) ← mark? '-' rest >>= shortNumber?
  let blanks := rest.takeWhile fun c => c == ' ' || c == '\t'
  let rest ←
    match rest with
    | 'T' :: rest => some rest
    | 't' :: rest => some rest
    | rest => if blanks.isEmpty then none else some (rest.drop blanks.length)
  let (hour, rest) ← shortNumber? rest
  let (minute, rest) ← mark? ':' rest >>= digits? 2
  let (second, rest) ← mark? ':' rest >>= digits? 2
  let (fraction, rest) :=
    match rest with
    | '.' :: rest => rest.span Char.isDigit
    | rest => ([], rest)
  timestampZone? { year, month, day, time := some (hour, minute, second, fraction) } rest

/-- The parts of a timestamp: a date of fixed width, or a date and a time. -/
def timestamp? (text : List Char) : Option TimestampParts :=
  let date := do
    let (year, rest) ← digits? 4 text
    let (month, rest) ← mark? '-' rest >>= digits? 2
    let (day, rest) ← mark? '-' rest >>= digits? 2
    if rest.isEmpty then some { year, month, day } else none
  date <|> timestampTime? text

/-- The tag that the exact form of a text gives. -/
def ofForm? (text : List Char) : Option String :=
  if boolWords.contains (String.ofList text) then some bool
  else if isFloat text then some float
  else if isInt text then some int
  else if text == ['<', '<'] then some merge
  else if nullWords.contains (String.ofList text) then some null
  else if (timestamp? text).isSome then some timestamp
  else if text == ['='] then some value
  else if [['!'], ['&'], ['*']].contains text then some yaml
  else none

/-- The text without one line feed at its end, unless nothing else is there. -/
def dropFinalBreak (text : List Char) : List Char :=
  if text.getLast? == some '\n' && 1 < text.length then text.dropLast else text

/-- The tag of a plain scalar. A line feed at the end of a text, which an explicit request for the
tag of a quoted text can bring here, does not change its form. -/
def ofPlain (text : String) : String := (ofForm? (dropFinalBreak text.toList)).getD str

end Tag

end SchemaCompiler.Yaml
