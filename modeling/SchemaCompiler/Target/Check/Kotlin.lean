/-!
# The brackets of Kotlin units

The check of a Kotlin unit is structural: brackets must balance outside string literals and
comments. The literals are blanked first, so that what looks like a comment inside one is not taken
for it.
-/

namespace SchemaCompiler.Target.KotlinBrackets

/-- The length of the rest of a string literal, up to and with its closing quote. A backslash
protects the character behind it, unless the line ends there. -/
def literalLength? : List Char → Option Nat
  | [] => none
  | '"' :: _ => some 1
  | ['\\'] => none
  | '\\' :: c :: rest => if c == '\n' then none else (literalLength? rest).map (· + 2)
  | _ :: rest => (literalLength? rest).map (· + 1)

/-- Replace every string literal by an empty one; the first characters to be passed over belong to a
literal that has been replaced. -/
def blankFrom : Nat → List Char → List Char
  | _, [] => []
  | passed + 1, _ :: rest => blankFrom passed rest
  | 0, '"' :: rest =>
    match literalLength? rest with
    | some length => '"' :: '"' :: blankFrom length rest
    | none => '"' :: blankFrom 0 rest
  | 0, c :: rest => c :: blankFrom 0 rest

/-- Replace every string literal by an empty one. -/
def blankLiterals (text : List Char) : List Char := blankFrom 0 text

/-- The length of the rest of a comment that ends with a star and a slash. -/
def blockLength? : List Char → Option Nat
  | [] => none
  | '*' :: '/' :: _ => some 2
  | _ :: rest => (blockLength? rest).map (· + 1)

/-- The length of the rest of a comment that ends with its line. -/
def lineLength (text : List Char) : Nat := (text.takeWhile (· != '\n')).length

/-- Remove every comment; the first characters to be passed over belong to a comment. -/
def stripFrom : Nat → List Char → List Char
  | _, [] => []
  | passed + 1, _ :: rest => stripFrom passed rest
  | 0, '/' :: '/' :: rest => stripFrom (lineLength rest + 1) ('/' :: rest)
  | 0, '/' :: '*' :: rest =>
    match blockLength? rest with
    | some length => stripFrom (length + 1) ('*' :: rest)
    | none => '/' :: stripFrom 0 ('*' :: rest)
  | 0, c :: rest => c :: stripFrom 0 rest

/-- Remove every comment. -/
def stripComments (text : List Char) : List Char := stripFrom 0 text

/-- The code of a unit: without what stands in literals and comments. -/
def code (text : List Char) : List Char := stripComments (blankLiterals text)

/-- The word that starts the declaration of a package. -/
def packageWord : List Char := "package ".toList

/-- Is there a declaration of a package anywhere? -/
def hasPackage : List Char → Bool
  | [] => false
  | c :: rest => packageWord.isPrefixOf (c :: rest) || hasPackage rest

/-- The pairs of brackets that are counted. -/
def pairs : List (Char × Char) := [('\x7b', '\x7d'), ('(', ')')]

/-- The first pair of brackets that occur in different numbers, with both numbers. -/
def unbalanced? (text : List Char) : Option ((Char × Char) × Nat × Nat) :=
  pairs.findSome? fun (opening, closing) =>
    let opened := text.count opening
    let closed := text.count closing
    if opened = closed then none else some ((opening, closing), opened, closed)

end SchemaCompiler.Target.KotlinBrackets
