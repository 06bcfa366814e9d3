import SchemaCompiler.Pattern.CharacterName.Ancient
import SchemaCompiler.Pattern.CharacterName.Asian
import SchemaCompiler.Pattern.CharacterName.Component
import SchemaCompiler.Pattern.CharacterName.Dingbat
import SchemaCompiler.Pattern.CharacterName.European
import SchemaCompiler.Pattern.CharacterName.Further
import SchemaCompiler.Pattern.CharacterName.Kana
import SchemaCompiler.Pattern.CharacterName.Marked
import SchemaCompiler.Pattern.CharacterName.Notation
import SchemaCompiler.Pattern.CharacterName.Pictograph
import SchemaCompiler.Pattern.CharacterName.Pictorial
import SchemaCompiler.Pattern.CharacterName.Presentation
import SchemaCompiler.Pattern.CharacterName.Punctuation
import SchemaCompiler.Pattern.CharacterName.Regional
import SchemaCompiler.Pattern.CharacterName.Syllabic
import SchemaCompiler.Pattern.CharacterName.Word

/-!
# Names of characters

A regular expression can give a character by its name. Most names are listed; a name is found in
capitals and in small letters. The names of ideographs and of Hangul syllables follow from the
characters, and are only found as they are written.
-/

namespace SchemaCompiler.Pattern

/-! ## Listed names

The tables are texts in rows, which make up one text from the first table to the last. Where a piece
of it was written before, one of the `backSigns` stands for it, with digits behind it that tell how
far back the piece starts and how long it is. The text consists of parts. Every part starts with a
sign. Most parts give the name of one character, and the next such part is about the character after
it:

- `#` and a number in base sixteen give no name, but tell which character comes next;
- `=` is the name before it with the number at its end counted on by one;
- one of the `sharingSigns` tells how many pieces a name takes from the name before it, and its own
  text follows.

As neighbours have much in common, most names are short that way. In an own text a small letter
writes a frequent word, one of the `wordMarks` a further word together with the sign behind it, and
a star the number of the character; a plus at the end tells that the pieces of the name before it go
on after the own ones. -/

/-- The value of a digit of base sixteen, whose letters are capitals. -/
def capitalDigit? (c : Char) : Option Nat :=
  if c.isDigit then some (c.toNat - 48)
  else if 'A' ≤ c && c ≤ 'F' then some (c.toNat - 55)
  else none

/-- The number that digits of base sixteen write. -/
def capitalNumber? (digits : List Char) : Option Nat := do
  let values ← digits.mapM capitalDigit?
  return values.foldl (fun number digit => number * 16 + digit) 0

/-- The pieces of a name: its words and parts of words, each with the space or hyphen behind it. -/
def namePieces : List Char → List (List Char)
  | [] => []
  | c :: rest =>
    if c == ' ' || c == '-' then [c] :: namePieces rest
    else match namePieces rest with
      | [] => [[c]]
      | piece :: pieces => (c :: piece) :: pieces

/-- The signs of names that take no piece from the name before them, one piece, and so on. -/
def sharingSigns : List Char := "!$%&():;<>".toList

/-- Does a sign start a part? -/
def startsPart (c : Char) : Bool := c == '#' || c == '=' || sharingSigns.contains c

/-- The signs that write a further word together with the one behind them. -/
def wordMarks : List Char := ".?[]^_|~".toList

/-- The signs behind them, in the order of the words. -/
def wordSigns : List Char := "ABCDEFGHIJKLMNOPQRSTUVWXYZabcdefghijklmnopqrstuvwxyz0123456789".toList

/-- The text of a table. The ends of its rows do not belong to it, nor do the blanks that the next
row starts with. -/
def rowsText : List Char → List Char
  | [] => []
  | c :: rest =>
    if c == '\n' then rowsText (rest.dropWhile (· == ' ')) else c :: rowsText rest
termination_by rows => rows.length
decreasing_by
  · exact Nat.lt_succ_of_le (List.dropWhile_suffix _).length_le
  · exact Nat.lt_succ_self _

/-- The words of a table, with commas between them. -/
def tableWords (rows : String) : Array String :=
  ((String.ofList (rowsText rows.toList)).splitOn ",").toArray

/-- The words that small letters write, in the order of the letters. -/
def frequentWords : Array String := tableWords frequentWordRows

/-- The words that take two signs to write. -/
def furtherWords : Array String := tableWords furtherWordRows

/-- The word of a mark and the sign behind it. -/
def furtherWord (mark : Nat) (sign : Char) : String :=
  (furtherWords[mark * wordSigns.length + (wordSigns.idxOf? sign).getD 0]?).getD ""

/-- What the own text of a name writes, for the character with a number. -/
def spelledOut (number : Nat) : List Char → List Char
  | [] => []
  | c :: rest =>
    if c.isLower then ((frequentWords[c.toNat - 97]?).getD "").toList ++ spelledOut number rest
    else if c == '*' then (Nat.toDigits 16 number).map Char.toUpper ++ spelledOut number rest
    else
      match wordMarks.idxOf? c, rest with
      | some mark, sign :: rest => (furtherWord mark sign).toList ++ spelledOut number rest
      | _, rest => c :: spelledOut number rest

/-- A name with the number at its end, in base ten, counted on by one. Its leading zeros stay. -/
def countedOn (name : List Char) : List Char :=
  let digits := (name.reverse.takeWhile Char.isDigit).reverse
  let counted := Nat.toDigits 10 (Nat.ofDigitChars 10 digits 0 + 1)
  name.take (name.length - digits.length) ++
    List.replicate (digits.length - counted.length) '0' ++ counted

/-- The name of the character with a number, from the name before it and its part. -/
def listedAfter (number : Nat) (name : List Char) : List Char → List Char
  | [] => []
  | ['='] => countedOn name
  | shared :: own =>
    let pieces := namePieces name
    let start := (sharingSigns.idxOf? shared).getD 0
    let goesOn := own.getLast? == some '+'
    let spelled := spelledOut number (if goesOn then own.dropLast else own)
    let finish := if goesOn then pieces.drop (start + (namePieces spelled).length) else []
    (pieces.take start).flatten ++ spelled ++ finish.flatten

/-- The signs of pieces that were written before, with one digit for how far back they start, with
two, and with three. -/
def backSigns : List Char := "@,/".toList

/-- The digits behind them, in the order of their values. -/
def backDigits : List Char :=
  ("!#$%&()*+,./0123456789:;<=>?@ABCDEFGHIJKLMNOPQRSTUVWXYZ[]^_" ++
    "abcdefghijklmnopqrstuvwxyz|~").toList

/-- The number that such digits write. -/
def backNumber (digits : List Char) : Nat :=
  digits.foldl (fun number digit =>
    number * backDigits.length + (backDigits.idxOf? digit).getD 0) 0

/-- The length of the shortest piece that is written that way. -/
def shortestPiece : Nat := 4

/-- A text with the pieces that were written before, behind the text so far. -/
def writtenOut (text : Array Char) : List Char → Array Char
  | [] => text
  | sign :: rest =>
    match backSigns.idxOf? sign with
    | none => writtenOut (text.push sign) rest
    | some more =>
      let start := text.size - backNumber (rest.take (more + 1))
      let length := backNumber ((rest.drop (more + 1)).take 1) + shortestPiece
      writtenOut (text ++ text.extract start (start + length)) (rest.drop (more + 2))
termination_by rows => rows.length
decreasing_by all_goals simp only [List.length_cons, List.length_drop]; omega

/-- The numbers and names of characters that parts give, from the number of the next character and
the name before it on. -/
def numberedNames (number : Nat) (name : List Char) : List (List Char) → List (Nat × List Char)
  | [] => []
  | ('#' :: digits) :: parts => numberedNames ((capitalNumber? digits).getD 0) name parts
  | part :: parts =>
    let next := listedAfter number name part
    (number, next) :: numberedNames (number + 1) next parts

/-- All tables of names. -/
def nameTables : List String :=
  [europeanNames, furtherNames, asianNames, syllabicNames, markedNames, punctuationNames,
   dingbatNames,
   kanaNames, regionalNames, presentationNames, ancientNames, pictorialNames, componentNames,
   notationNames, pictographNames]

/-- The number of the character with a listed name, in capitals or small letters. -/
def findListed? (name : List Char) : Option Nat :=
  let text := (writtenOut #[] (nameTables.flatMap fun table => rowsText table.toList)).toList
  let parts := text.splitBy fun _ next => !startsPart next
  let capitals := name.map Char.toUpper
  ((numberedNames 0 [] parts).find? fun (_, listed) => listed == capitals).map Prod.fst

/-! ## Ideographs -/

/-- The ranges of ideographs. -/
def ideographRanges : List (Nat × Nat) :=
  [(0x3400, 0x4DBF), (0x4E00, 0x9FFF), (0x20000, 0x2A6DF), (0x2A700, 0x2B738), (0x2B740, 0x2B81D),
   (0x2B820, 0x2CEA1), (0x2CEB0, 0x2EBE0), (0x30000, 0x3134A)]

/-- What the name of an ideograph starts with; its number follows. -/
def ideographStart : String := "CJK UNIFIED IDEOGRAPH-"

/-- The number of the ideograph with a name, which ends with that number in four or five digits. -/
def findIdeograph? (name : List Char) : Option Nat := do
  let digits ← ideographStart.toList.isPrefixOf? name
  let number ← capitalNumber? digits
  let isWritten := digits.length = 4 || digits.length = 5
  if isWritten && ideographRanges.any fun (low, high) => low ≤ number && number ≤ high
    then some number
  else none

/-! ## Hangul syllables -/

/-- What the name of a Hangul syllable starts with; its sounds follow. -/
def syllableStart : String := "HANGUL SYLLABLE "

/-- The consonants that a syllable starts with. -/
def leadSounds : List String :=
  ["G", "GG", "N", "D", "DD", "R", "M", "B", "BB", "S", "SS", "", "J", "JJ", "C", "K",
    "T", "P", "H"]

/-- The vowels of a syllable. -/
def vowelSounds : List String :=
  ["A", "AE", "YA", "YAE", "EO", "E", "YEO", "YE", "O", "WA", "WAE", "OE", "YO", "U",
   "WEO", "WE", "WI",
   "YU", "EU", "YI", "I"]

/-- The consonants that a syllable ends with. -/
def tailSounds : List String :=
  ["", "G", "GG", "GS", "N", "NJ", "NH", "D", "L", "LG", "LM", "LB", "LS", "LT", "LP",
   "LH", "M", "B",
   "BS", "S", "SS", "NG", "J", "C", "K", "T", "P", "H"]

/-- The longest of some sounds at the front of a text: its place among them, and the rest of the
text. -/
def takeSound? (sounds : List String) (text : List Char) : Option (Nat × List Char) :=
  sounds.zipIdx.foldl (fun best (sound, place) =>
    match sound.toList.isPrefixOf? text with
    | none => best
    | some rest =>
      if best.all fun (_, other) => rest.length < other.length then some (place, rest) else best)
    none

/-- The number of the first Hangul syllable. -/
def firstSyllable : Nat := 0xAC00

/-- The number of the Hangul syllable with a name. Syllables are numbered by their sounds, the last
sound changing first. -/
def findSyllable? (name : List Char) : Option Nat := do
  let sounds ← syllableStart.toList.isPrefixOf? name
  let (lead, sounds) ← takeSound? leadSounds sounds
  let (vowel, sounds) ← takeSound? vowelSounds sounds
  let (tail, rest) ← takeSound? tailSounds sounds
  if rest.isEmpty then
    some (firstSyllable + (lead * vowelSounds.length + vowel) * tailSounds.length + tail)
  else none

/-- The number of the character with a name. -/
def characterNamed? (name : String) : Option Nat :=
  let name := name.toList
  findListed? name <|> findIdeograph? name <|> findSyllable? name

end SchemaCompiler.Pattern
