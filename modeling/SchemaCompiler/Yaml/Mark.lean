/-!
# Places in a text

A mark is a place between two characters. It is shown with its line and column, counted from one,
and with the part of the line around it.
-/

namespace SchemaCompiler.Yaml

/-- A place in a text: how many characters, line breaks and characters of its line come before
it. -/
structure Mark where
  index : Nat := 0
  line : Nat := 0
  column : Nat := 0
  deriving DecidableEq, Repr, Inhabited

/-- Does the character break a line? -/
def isBreak (c : Char) : Bool :=
  c == '\n' || c == '\r' || c == '\u0085' || c == '\u2028' || c == '\u2029'

namespace Mark

/-- How many characters of a line are shown on each side of a mark, when not all fit. -/
def shownWidth : Nat := 32

/-- The most characters of a line that fit on one side of a mark. -/
def fittingWidth : Nat := 36

/-- What stands for the part of a line that does not fit. -/
def ellipsis : String := " ... "

/-- The line around a mark, and under it an arrow that points at the mark. -/
def snippet (mark : Mark) (text : List Char) : String :=
  let before := (text.take mark.index).reverse.takeWhile (!isBreak ·)
  let after := (text.drop mark.index).takeWhile (!isBreak ·)
  let (head, left) :=
    if fittingWidth < before.length then (ellipsis, before.take shownWidth) else ("", before)
  let (right, tail) :=
    if fittingWidth < after.length then (after.take shownWidth, ellipsis) else (after, "")
  let indent := String.ofList (List.replicate 4 ' ')
  let gap := String.ofList (List.replicate (left.length + head.length) ' ')
  indent ++ head ++ String.ofList (left.reverse ++ right) ++ tail ++ "\n" ++ indent ++ gap ++ "^"

/-- A mark in words: the name of the text, the line and the column, and the line itself. -/
def describe (mark : Mark) (text : List Char) : String :=
  s!"  in \"<unicode string>\", line {mark.line + 1}, column {mark.column + 1}:\n" ++
    mark.snippet text

end Mark

end SchemaCompiler.Yaml
