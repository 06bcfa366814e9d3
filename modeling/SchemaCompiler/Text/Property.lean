/-!
# Character properties as runs

A property of characters is written as the lengths of its runs: of how many characters it fails from
the first on, of how many it holds from there, of how many it fails again, and so on, to the last
character at which it changes.
-/

namespace SchemaCompiler.Text

/-- Does the property with these runs hold so many characters ahead, given that `inside` holds
here? -/
def Property.holdsAhead (inside : Bool) (ahead : Nat) : List Nat → Bool
  | [] => inside
  | run :: rest => if ahead < run then inside else holdsAhead (!inside) (ahead - run) rest

/-- Does the property with these runs hold of the character? -/
def Property.holds (runs : List Nat) (c : Char) : Bool := Property.holdsAhead false c.toNat runs

end SchemaCompiler.Text
