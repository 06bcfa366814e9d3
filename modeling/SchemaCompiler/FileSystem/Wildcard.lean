/-!
# Wildcards

A name can be described by a pattern: a star stands for any characters, a question mark for one, and
brackets for one of a set. A bracket that is not closed stands for itself.
-/

namespace SchemaCompiler.FileSystem

/-- A part of a pattern. -/
inductive Wildcard where
  | any
  | one
  | char (c : Char)
  /-- A character in one of the ranges, or in none of them if `negated`. -/
  | oneOf (negated : Bool) (ranges : List (Char × Char))
  deriving DecidableEq, Repr

namespace Wildcard

/-- The ranges of a set. A hyphen stands for itself at either end and behind a range. -/
def rangesOf : List Char → List (Char × Char)
  | first :: '-' :: last :: rest => (first, last) :: rangesOf rest
  | c :: rest => (c, c) :: rangesOf rest
  | [] => []

/-- The length of a set, given what follows its opening bracket: a closing bracket at the front
belongs to the set. -/
def setLength? (text : List Char) : Option Nat :=
  let (skipped, rest) := match text with
    | '!' :: ']' :: rest => (2, rest)
    | '!' :: rest => (1, rest)
    | ']' :: rest => (1, rest)
    | rest => (0, rest)
  if rest.contains ']' then some (skipped + (rest.takeWhile (· != ']')).length) else none

/-- The set with a text. -/
def ofSet : List Char → Wildcard
  | '!' :: text => .oneOf true (rangesOf text)
  | text => .oneOf false (rangesOf text)

/-- The parts of a pattern; the first characters to be passed over belong to a set. -/
def partsFrom : Nat → List Char → List Wildcard
  | _, [] => []
  | passed + 1, _ :: rest => partsFrom passed rest
  | 0, '*' :: rest => .any :: partsFrom 0 rest
  | 0, '?' :: rest => .one :: partsFrom 0 rest
  | 0, '[' :: rest =>
    match setLength? rest with
    | some length => ofSet (rest.take length) :: partsFrom (length + 1) rest
    | none => .char '[' :: partsFrom 0 rest
  | 0, c :: rest => .char c :: partsFrom 0 rest

/-- The parts of a pattern. -/
def parts (pattern : String) : List Wildcard := partsFrom 0 pattern.toList

/-- Does a part that stands for one character stand for this one? -/
def holds (c : Char) : Wildcard → Bool
  | any | one => true
  | char other => c == other
  | oneOf negated ranges => (ranges.any fun (first, last) => first ≤ c && c ≤ last) != negated

/-- Does a pattern describe a text? -/
def describes : List Wildcard → List Char → Bool
  | [], [] => true
  | [], _ :: _ => false
  | .any :: parts, [] => describes parts []
  | .any :: parts, c :: rest => describes parts (c :: rest) || describes (.any :: parts) rest
  | _ :: _, [] => false
  | part :: parts, c :: rest => part.holds c && describes parts rest
termination_by parts text => parts.length + text.length

end Wildcard

/-- Has the text two stars next to each other? -/
def hasDoubleStar : List Char → Bool
  | '*' :: '*' :: _ => true
  | _ :: rest => hasDoubleStar rest
  | [] => false

end SchemaCompiler.FileSystem
