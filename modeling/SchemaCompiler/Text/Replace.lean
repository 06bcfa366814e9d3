/-!
# Replacing a text inside another

Occurrences are taken from the left and do not overlap. The empty text occurs before every character
and once more at the end.
-/

namespace SchemaCompiler.Text

/-- Replace the occurrences of a non-empty text, after skipping the first characters: those that the
occurrence found last has already covered. -/
def replaceFrom (target replacement : List Char) : Nat → List Char → List Char
  | _, [] => []
  | skip + 1, _ :: rest => replaceFrom target replacement skip rest
  | 0, c :: rest =>
    if target.isPrefixOf (c :: rest) then
      replacement ++ replaceFrom target replacement (target.length - 1) rest
    else c :: replaceFrom target replacement 0 rest

/-- Replace every occurrence of a text by another. -/
def replaceAll (target replacement text : List Char) : List Char :=
  match target with
  | [] => text.foldr (fun c done => replacement ++ c :: done) replacement
  | _ :: _ => replaceFrom target replacement 0 text

end SchemaCompiler.Text
