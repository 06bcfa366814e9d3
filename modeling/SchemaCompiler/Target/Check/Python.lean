import SchemaCompiler.Target.Language
import SchemaCompiler.Text.Lines

/-!
# The shape of Python units

The check of a Python unit reads it as lines of tokens. Literals must be closed, brackets must
match, lines must be indented like blocks, and every line must have the shape of a statement: what
stands behind `class`, `def`, `from` and `import` must be names, a value cannot follow another one,
and a constant cannot be assigned to. This is what generated units can get wrong. It is no whole
grammar: some texts that are no Python pass, such as two signs of assignment in a row, so nothing is
proved from the verdict. What is proved of writing holds for every check.
-/

namespace SchemaCompiler.Target.PythonShape

/-! ## Tokens -/

/-- A token of a line. -/
inductive Token where
  | name (text : String)
  | number
  | string
  | mark (text : String)
  deriving DecidableEq, Repr

/-- A token, the indentation of a line, or its end. -/
inductive Lexeme where
  | token (token : Token)
  | indent (width : Nat)
  | lineEnd
  deriving DecidableEq, Repr

/-- Can the character start a word? -/
def startsWord (c : Char) : Bool := c.isAlpha || c == '_' || c.toNat ≥ 128

/-- Can the character be in a word? -/
def inWord (c : Char) : Bool := startsWord c || c.isDigit

/-- What follows a literal in single quotes on one line, given what follows the opening quote. -/
def afterQuote? (quote : Char) : List Char → Option (List Char)
  | [] => none
  | '\\' :: _ :: rest => afterQuote? quote rest
  | c :: rest =>
    if c == quote then some rest
    else if c == '\n' then none
    else afterQuote? quote rest

/-- What follows a literal in threefold quotes, given what follows the opening quotes. -/
def afterTriple? (quote : Char) : List Char → Option (List Char)
  | '\\' :: _ :: rest => afterTriple? quote rest
  | a :: b :: c :: rest =>
    if a == quote && b == quote && c == quote then some rest
      else afterTriple? quote (b :: c :: rest)
  | _ => none

/-- What follows a string literal, given what follows its first quote. -/
def afterString? (quote : Char) : List Char → Option (List Char)
  | a :: b :: rest =>
    if a == quote && b == quote then afterTriple? quote rest
    else afterQuote? quote (a :: b :: rest)
  | text => afterQuote? quote text

/-- The words that can stand before the quote of a string literal. -/
def stringMarks : List String := ["r", "u", "b", "f", "br", "rb", "fr", "rf"]

/-- Is the text a row of digits? Single underscores may divide it. -/
def isDigitRow (isDigit : Char → Bool) (text : List Char) : Bool :=
  (text.splitOn '_').all fun part => !part.isEmpty && part.all isDigit

/-- The characters of a number: also a sign behind the mark of an exponent. -/
def numberLength (previous : Char) : List Char → Nat
  | [] => 0
  | c :: rest =>
    if inWord c || c == '.' || ((c == '+' || c == '-') && (previous == 'e' || previous == 'E')) then
      numberLength c rest + 1
    else 0

/-- Is the text a number with an optional fraction, exponent and imaginary unit? -/
def isDecimal (text : List Char) : Bool :=
  let inRow (c : Char) : Bool := c.isDigit || c == '_'
  let whole := text.takeWhile inRow
  let rest := text.dropWhile inRow
  let (fraction, rest) := match rest with
    | '.' :: rest => (some (rest.takeWhile inRow), rest.dropWhile inRow)
    | rest => (none, rest)
  let (exponent, rest) := match rest with
    | 'e' :: rest =>
      let rest := match rest with
        | '+' :: rest => rest
        | '-' :: rest => rest
        | rest => rest
      (some (rest.takeWhile inRow), rest.dropWhile inRow)
    | rest => (none, rest)
  let imaginary := rest == ['j']
  let isRow := isDigitRow Char.isDigit
  let plain := fraction.isNone && exponent.isNone && !imaginary
  (whole.isEmpty || isRow whole) &&
  (!whole.isEmpty || fraction.any (!·.isEmpty)) &&
  fraction.all (fun digits => digits.isEmpty || isRow digits) &&
  exponent.all isRow &&
  (imaginary || rest.isEmpty) &&
  (!plain || whole.head? != some '0' || whole.all fun c => c == '0' || c == '_')

/-- Is the text a number? -/
def isNumber (text : List Char) : Bool :=
  match text.map Char.toLower with
  | '0' :: 'x' :: digits => isDigitRow (fun c => c.isDigit || ('a' ≤ c && c ≤ 'f')) digits
  | '0' :: 'o' :: digits => isDigitRow (fun c => '0' ≤ c && c ≤ '7') digits
  | '0' :: 'b' :: digits => isDigitRow (fun c => c == '0' || c == '1') digits
  | text => isDecimal text

/-- The operators and other marks, the longer ones first. -/
def marks : List String :=
  ["...", "**=", "//=", ">>=", "<<=", "->", ":=", "==", "!=", "<=", ">=", "**", "//",
   "<<", ">>", "+=",
   "-=", "*=", "/=", "%=", "&=", "|=", "^=", "@=", "+", "-", "*", "/", "%", "@", "&", "|",
   "^", "~", "<",
   ">", "(", ")", "[", "]", "\x7b", "\x7d", ",", ":", ".", ";", "="]

/-- The brackets, each with the one that closes it. -/
def bracketPairs : List (String × String) := [("(", ")"), ("[", "]"), ("\x7b", "\x7d")]

/-- The open brackets after a mark, given those before; none if the mark closes another one. -/
def bracketsAfter (opened : List String) (mark : String) : Option (List String) :=
  match bracketPairs.lookup mark with
  | some closing => some (closing :: opened)
  | none =>
    if bracketPairs.any fun (_, closing) => closing == mark then
      match opened with
      | closing :: rest => if closing == mark then some rest else none
      | [] => none
    else some opened

/-- The width of an indentation. -/
def indentWidth (width : Nat) : List Char → Nat
  | ' ' :: rest => indentWidth (width + 1) rest
  | '\t' :: rest => indentWidth ((width / 8 + 1) * 8) rest
  | '\x0c' :: rest => indentWidth 0 rest
  | _ => width

/-- Is the character a space between tokens? -/
def isSpace (c : Char) : Bool := c == ' ' || c == '\t' || c == '\x0c'

/-- The lexemes of a text; none if it has a part that is no token. A line of code starts here if
`fresh`; the brackets that are open have to be closed by `opened`. Every step takes a character. -/
def lexemes : Nat → Bool → List String → List Char → Option (List Lexeme)
  | 0, _, _, _ => none
  | _, fresh, opened, [] =>
    if !opened.isEmpty then none else some (if fresh then [] else [.lineEnd])
  | steps + 1, true, opened, text =>
    match text.dropWhile isSpace with
    | [] => some []
    | '\n' :: rest => lexemes steps true opened rest
    | '#' :: rest => lexemes steps true opened (rest.dropWhile (· != '\n'))
    | rest =>
      (lexemes steps false opened rest).map (.indent (indentWidth 0 text) :: ·)
  | steps + 1, false, opened, c :: rest =>
    if isSpace c then lexemes steps false opened rest
    else if c == '#' then lexemes steps false opened (rest.dropWhile (· != '\n'))
    else if c == '\n' then
      if opened.isEmpty then (lexemes steps true opened rest).map (.lineEnd :: ·)
      else lexemes steps false opened rest
    else if c == '\\' then
      match rest with
      | '\n' :: rest => lexemes steps false opened rest
      | _ => none
    else if c == '"' || c == '\x27' then do
      let rest ← afterString? c rest
      return .token .string :: (← lexemes steps false opened rest)
    else if c.isDigit || (c == '.' && (rest.head?.any Char.isDigit)) then
      let length := numberLength c rest
      if isNumber (c :: rest.take length) then
        (lexemes steps false opened (rest.drop length)).map (.token .number :: ·)
      else none
    else if startsWord c then
      let word := String.ofList (c :: rest.takeWhile inWord)
      let rest := rest.dropWhile inWord
      match rest with
      | quote :: after =>
        if (quote == '"' || quote == '\x27') && stringMarks.contains word.toLower then do
          let rest ← afterString? quote after
          return .token .string :: (← lexemes steps false opened rest)
        else (lexemes steps false opened rest).map (.token (.name word) :: ·)
      | [] => (lexemes steps false opened rest).map (.token (.name word) :: ·)
    else
      match marks.find? fun mark => mark.toList.isPrefixOf (c :: rest) with
      | none => none
      | some mark => do
        let opened ← bracketsAfter opened mark
        return .token (.mark mark) :: (← lexemes steps false opened (rest.drop (mark.length - 1)))

/-! ## Statements -/

/-- A line of code. -/
structure Line where
  indent : Nat
  tokens : List Token
  deriving DecidableEq, Repr

/-- Gather lexemes into lines; the line being gathered is given with its tokens in reverse. -/
def gather (indent : Nat) (tokens : List Token) : List Lexeme → List Line
  | [] => []
  | .indent width :: rest => gather width [] rest
  | .token token :: rest => gather indent (token :: tokens) rest
  | .lineEnd :: rest => { indent, tokens := tokens.reverse } :: gather 0 [] rest

/-- The words that are values and no operators. -/
def constants : List String := ["None", "True", "False"]

/-- Is the word a keyword? -/
def isKeyword (word : String) : Bool := Language.python.keywords.contains word

/-- Is the token the name of something? -/
def Token.isName : Token → Bool
  | name text => !isKeyword text
  | _ => false

/-- Is the token a constant? -/
def Token.isConstant : Token → Bool
  | name text => constants.contains text
  | number | string => true
  | mark _ => false

/-- Does a value start with the token, whatever stands before? -/
def Token.startsValue (token : Token) : Bool := token.isName || token.isConstant

/-- Does a value end with the token? -/
def Token.endsValue : Token → Bool
  | mark text => [")", "]", "\x7d", "..."].contains text
  | token => token.startsValue

/-- Can the second token follow the first? Only string literals stand next to each other. -/
def canFollow (first second : Token) : Bool :=
  !(first.endsValue && second.startsValue) || (first == .string && second == .string)

/-- Does every token fit to the one before? -/
def allFit : List Token → Bool
  | first :: second :: rest => canFollow first second && allFit (second :: rest)
  | _ => true

/-- Names with commas between them, each with an optional other name. -/
def isNameList : List Token → Bool
  | [] => false
  | [first] => first.isName
  | first :: .mark "," :: rest => first.isName && isNameList rest
  | [first, .name "as", second] => first.isName && second.isName
  | first :: .name "as" :: second :: .mark "," :: rest =>
    first.isName && second.isName && isNameList rest
  | _ => false

/-- Names with dots between them. -/
def isDotted : List Token → Bool
  | [] => false
  | [first] => first.isName
  | first :: .mark "." :: rest => first.isName && isDotted rest
  | _ => false

/-- Drop the dots in front. -/
def dropDots (tokens : List Token) : List Token :=
  tokens.dropWhile fun token => token == .mark "." || token == .mark "..."

/-- The names that are imported, without brackets around them. -/
def importedNames (tokens : List Token) : List Token :=
  if tokens.head? == some (.mark "(") then
    let inner := tokens.tail.dropLast
    if inner.getLast? == some (.mark ",") then inner.dropLast else inner
  else tokens

/-- Is the rest of an import from a module complete? -/
def isImportFrom (tokens : List Token) : Bool :=
  let module := tokens.takeWhile (· != .name "import")
  let names := (tokens.dropWhile (· != .name "import")).tail
  (isDotted (dropDots module) || ((dropDots module).isEmpty && !module.isEmpty)) &&
  (names == [.mark "*"] || isNameList (importedNames names))

/-- The keywords that open a block. -/
def blockWords : List String :=
  ["class", "def", "if", "elif", "else", "for", "while", "with", "try", "except",
    "finally", "async"]

/-- The keywords that can end a statement. -/
def lastWords : List String := ["pass", "break", "continue", "return", "raise", "yield"]

/-- The marks that can start a statement. -/
def firstMarks : List String := ["(", "[", "\x7b", "@", "+", "-", "~", "*", "..."]

/-- Can a statement start with the token? -/
def canStart : Token → Bool
  | .mark text => firstMarks.contains text
  | _ => true

/-- Can a statement that opens no block end with the token? -/
def canEnd : Token → Bool
  | .name text => !isKeyword text || constants.contains text || lastWords.contains text
  | .mark text => (Token.mark text).endsValue || text == "," || text == ";"
  | _ => true

/-- Has the line the shape of a statement? -/
def isStatement (tokens : List Token) : Bool :=
  tokens.head?.all canStart &&
  match tokens with
  | .name "from" :: rest => isImportFrom rest
  | .name "import" :: rest =>
    isNameList (rest.filter fun token => token != .mark ".") && allFit rest
  | .name "class" :: rest =>
    rest.head?.any Token.isName && rest.contains (.mark ":") && allFit rest
  | .name "def" :: rest =>
    rest.head?.any Token.isName && rest.tail.head? == some (.mark "(") &&
    rest.contains (.mark ":") && allFit rest
  | first :: second :: rest =>
    let assigns := second == .mark ":" || second == .mark "="
    let opens := blockWords.any fun word => first == .name word
    !(first.isConstant && assigns) && allFit (first :: second :: rest) &&
    (if opens then (second :: rest).contains (.mark ":")
     else (second :: rest).getLast?.all canEnd)
  | [only] => canEnd only
  | [] => true

/-- Does the line open a block that follows? -/
def Line.opensBlock (line : Line) : Bool := line.tokens.getLast? == some (.mark ":")

/-- Are the lines indented like blocks? The indentations of the open blocks are given, the innermost
first, and whether the line before opened a block. -/
def isIndented (blocks : List Nat) (opens : Bool) : List Line → Bool
  | [] => !opens
  | line :: rest =>
    if opens then
      blocks.head?.all (· < line.indent) &&
      isIndented (line.indent :: blocks) line.opensBlock rest
    else
      let blocks := blocks.dropWhile (line.indent < ·)
      blocks.head? == some line.indent && isIndented blocks line.opensBlock rest

/-- Has the text the shape of a Python unit? -/
def accepts (text : List Char) : Bool :=
  let text := Text.unifyLineEnds text
  match lexemes (2 * text.length + 2) true [] text with
  | none => false
  | some lexemes =>
    let lines := gather 0 [] lexemes
    isIndented [0] false lines && lines.all fun line => isStatement line.tokens

end SchemaCompiler.Target.PythonShape
