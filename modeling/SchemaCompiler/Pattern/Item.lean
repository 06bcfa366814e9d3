import SchemaCompiler.Pattern.Issue

/-!
# The tree of a regular expression

Only what decides whether a pattern is accepted is kept: which items match one character, how items
are nested and repeated, and which groups they refer to. The width of a pattern is the least and the
greatest number of characters it matches.
-/

namespace SchemaCompiler.Pattern

/-- How a repetition chooses the number of times. -/
inductive Greed where
  | greedy
  | lazy
  | possessive
  deriving DecidableEq, Repr

/-- The name of a repetition in messages. -/
def Greed.operator : Greed → String
  | greedy => "MAX_REPEAT"
  | lazy => "MIN_REPEAT"
  | possessive => "POSSESSIVE_REPEAT"

/-- The least and the greatest number of characters that something matches. -/
structure Width where
  least : Nat
  greatest : Nat
  deriving DecidableEq, Repr

/-- The number of times that a repetition without a bound stands for. A width is not counted further
than this. -/
def unbounded : Nat := 4294967295

namespace Width

/-- The width of what matches a fixed number of characters. -/
def fixed (count : Nat) : Width := { least := count, greatest := count }

/-- One thing after another. -/
def andThen (first second : Width) : Width :=
  { least := first.least + second.least, greatest := first.greatest + second.greatest }

/-- One thing or another. -/
def orElse (first second : Width) : Width :=
  { least := min first.least second.least, greatest := max first.greatest second.greatest }

/-- A number of times the same thing. -/
def times (least greatest : Nat) (width : Width) : Width :=
  { least := width.least * least, greatest := width.greatest * greatest }

/-- Count no further than the bound. The least width stays below it, so that it never meets a
greatest width without limit. -/
def capped (width : Width) : Width :=
  { least := min width.least (unbounded - 1), greatest := min width.greatest unbounded }

/-- Is every match equally long? -/
def isFixed (width : Width) : Bool := width.least == width.greatest

end Width

/-- An item of a pattern. -/
inductive Item where
  /-- Matches one character. -/
  | unit
  /-- Matches a place. -/
  | anchor
  /-- Matches what a group with some width has matched. -/
  | reference (width : Width)
  | look (behind : Bool) (body : List Item)
  | atomic (body : List Item)
  | group (body : List Item)
  | repetition (greed : Greed) (least : Nat) (greatest : Option Nat) (body : List Item)
  | branch (alternatives : List (List Item))
  | conditional (yes : List Item) (no : Option (List Item))

mutual

/-- The width of an item. -/
def Item.width : Item → Width
  | .unit => .fixed 1
  | .anchor => .fixed 0
  | .reference width => width
  | .look _ _ => .fixed 0
  | .atomic body => bodyWidth body
  | .group body => bodyWidth body
  | .repetition _ least greatest body => (bodyWidth body).times least (greatest.getD unbounded)
  | .branch alternatives => branchWidth alternatives
  | .conditional yes none => { bodyWidth yes with least := 0 }
  | .conditional yes (some no) => (bodyWidth yes).orElse (bodyWidth no)

/-- The width of a sequence of items. -/
def bodyWidth : List Item → Width
  | [] => .fixed 0
  | item :: rest => (item.width.andThen (bodyWidth rest)).capped

/-- The width of alternatives. -/
def branchWidth : List (List Item) → Width
  | [] => .fixed 0
  | [body] => bodyWidth body
  | body :: rest => (bodyWidth body).orElse (branchWidth rest)

end

mutual

/-- The first issue that an item has once the pattern has been read: look-behinds must have one
width, and templates must not repeat. -/
def Item.late? (template : Bool) : Item → Option Issue
  | .unit | .anchor | .reference _ => none
  | .look behind body =>
    if behind && !(bodyWidth body).isFixed then some .lookbehindWidth else bodyLate? template body
  | .atomic body => bodyLate? template body
  | .group body => bodyLate? template body
  | .repetition greed _ _ body =>
    if template then some (.templateOperator greed.operator) else bodyLate? template body
  | .branch alternatives => branchLate? template alternatives
  | .conditional yes none => bodyLate? template yes
  | .conditional yes (some no) => bodyLate? template yes <|> bodyLate? template no

/-- The first late issue of a sequence of items. -/
def bodyLate? (template : Bool) : List Item → Option Issue
  | [] => none
  | item :: rest => item.late? template <|> bodyLate? template rest

/-- The first late issue of alternatives. -/
def branchLate? (template : Bool) : List (List Item) → Option Issue
  | [] => none
  | body :: rest => bodyLate? template body <|> branchLate? template rest

end

/-- A distance from which on a look-behind cannot be carried out. -/
def lookbehindLimit : Nat := 2147483648

mutual

/-- The farthest that a look-behind in an item looks back. -/
def Item.reach : Item → Nat
  | .unit | .anchor | .reference _ => 0
  | .look behind body => max (if behind then (bodyWidth body).least else 0) (bodyReach body)
  | .atomic body => bodyReach body
  | .group body => bodyReach body
  | .repetition _ _ _ body => bodyReach body
  | .branch alternatives => branchReach alternatives
  | .conditional yes none => bodyReach yes
  | .conditional yes (some no) => max (bodyReach yes) (bodyReach no)

/-- The farthest that a look-behind in a sequence of items looks back. -/
def bodyReach : List Item → Nat
  | [] => 0
  | item :: rest => max item.reach (bodyReach rest)

/-- The farthest that a look-behind in alternatives looks back. -/
def branchReach : List (List Item) → Nat
  | [] => 0
  | body :: rest => max (bodyReach body) (branchReach rest)

end

end SchemaCompiler.Pattern
