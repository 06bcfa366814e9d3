import SchemaCompiler.Pattern.Issue

/-!
# The units of a regular expression

A pattern is read in units: a backslash together with the character after it, or a single character.
A backslash at the very end is an issue as soon as it is the next unit.
-/

namespace SchemaCompiler.Pattern

/-- The rest of a pattern from a position on. -/
structure Source where
  position : Nat
  rest : List Char
  deriving Repr

namespace Source

/-- The unit at the front of a text. -/
def unitOf : List Char → Option (List Char)
  | [] => none
  | '\\' :: c :: _ => some ['\\', c]
  | c :: _ => some [c]

/-- The next unit. -/
def next (source : Source) : Option (List Char) := unitOf source.rest

/-- The source at a place, unless a lone backslash is left there. -/
def at? (position : Nat) (rest : List Char) : Except Refusal Source :=
  if rest == ['\\'] then .error (.issue .trailingBackslash (some position))
  else .ok { position, rest }

/-- Move over the next unit. -/
def advance (source : Source) : Except Refusal Source :=
  match source.next with
  | none => .ok source
  | some unit => at? (source.position + unit.length) (source.rest.drop unit.length)

/-- Is the next unit the given character? -/
def nextIs (c : Char) (source : Source) : Bool := source.next == some [c]

/-- Take single characters of a kind, at most a number of them. -/
def takeUpTo (kind : Char → Bool) : Nat → Source → Except Refusal (List Char × Source)
  | 0, source => .ok ([], source)
  | count + 1, source =>
    match source.next with
    | some [c] =>
      if kind c then do
        let source ← source.advance
        let (taken, source) ← takeUpTo kind count source
        return (c :: taken, source)
      else .ok ([], source)
    | _ => .ok ([], source)

/-- Take the units up to a terminator, which is dropped. There must be some. -/
def takeName (terminator : Char) (what : String) :
    Nat → List Char → Source → Except Refusal (String × Source)
  | 0, _, source => .error (.issue .unexpectedEnd (some source.position))
  | fuel + 1, taken, source =>
    match source.next with
    | none =>
      if taken.isEmpty then .error (.issue (.missingName what) (some source.position))
      else .error (.issue (.unterminatedName terminator) (some (source.position - taken.length)))
    | some unit => do
      let after ← source.advance
      if unit == [terminator] then
        if taken.isEmpty then .error (.issue (.missingName what) (some (after.position - 1)))
        else return (String.ofList taken, after)
      else takeName terminator what fuel (taken ++ unit) after

end Source

end SchemaCompiler.Pattern
