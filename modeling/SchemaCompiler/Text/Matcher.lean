/-!
# Matchers

A matcher says what the start of a text has to look like. It may do so in several ways, which are
tried in order of preference: repetition takes as many characters as it can and gives them back one
by one, and the first of two alternatives comes before the second. The first way that works out for
the matcher as a whole counts.
-/

namespace SchemaCompiler.Text

/-- What the start of a text can look like. -/
inductive Matcher where
  /-- One character of a class. -/
  | one (isOf : Char → Bool)
  /-- Any number of characters of a class, as many as possible. -/
  | many (isOf : Char → Bool)
  /-- Nothing, where no character of a class comes next. -/
  | notBefore (isOf : Char → Bool)
  /-- Two matchers, one behind the other. -/
  | andThen (first second : Matcher)
  /-- Two alternatives. -/
  | orElse (first second : Matcher)

namespace Matcher

/-- At least one character of a class, and as many as possible. -/
def atLeastOne (isOf : Char → Bool) : Matcher := .andThen (.one isOf) (.many isOf)

/-- What can be left behind any number of characters of a class, the shortest rest first. -/
def restsOfMany (isOf : Char → Bool) : List Char → List (List Char)
  | [] => [[]]
  | c :: rest => if isOf c then restsOfMany isOf rest ++ [c :: rest] else [c :: rest]

/-- What can be left of a text behind its start, in order of preference. -/
def rests : Matcher → List Char → List (List Char)
  | one _, [] => []
  | one isOf, c :: rest => if isOf c then [rest] else []
  | many isOf, text => restsOfMany isOf text
  | notBefore isOf, text => if text.head?.any isOf then [] else [text]
  | andThen first second, text => (first.rests text).flatMap second.rests
  | orElse first second, text => first.rests text ++ second.rests text

/-- How many characters the start of a text has. -/
def length? (matcher : Matcher) (text : List Char) : Option Nat :=
  (matcher.rests text).head?.map fun rest => text.length - rest.length

/-- A piece of a text that has been searched. -/
inductive Piece where
  | found (text : List Char)
  | between (c : Char)

/-- Search a text from the left, after skipping the first characters: those that the occurrence
found last has already covered. An occurrence has at least one character. -/
def pieces (matcher : Matcher) : Nat → List Char → List Piece
  | _, [] => []
  | skip + 1, _ :: rest => pieces matcher skip rest
  | 0, c :: rest =>
    match matcher.length? (c :: rest) with
    | some (more + 1) => .found (c :: rest.take more) :: pieces matcher more rest
    | _ => .between c :: pieces matcher 0 rest

/-- The occurrences in a text. -/
def findAll (matcher : Matcher) (text : List Char) : List (List Char) :=
  (matcher.pieces 0 text).filterMap fun
    | .found occurrence => some occurrence
    | .between _ => none

/-- Replace every occurrence in a text. -/
def replaceAll (matcher : Matcher) (replacement text : List Char) : List Char :=
  (matcher.pieces 0 text).flatMap fun
    | .found _ => replacement
    | .between c => [c]

end Matcher

end SchemaCompiler.Text
