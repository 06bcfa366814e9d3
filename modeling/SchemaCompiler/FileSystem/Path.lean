/-!
# Paths

A path is a list of names, which starts at the root or at the working directory. Empty names and
single dots are left out; double dots stay, because what they lead to depends on the directories
there are.
-/

namespace SchemaCompiler.FileSystem

/-- A path. The anchor is empty for a path that starts at the working directory, otherwise one or
two slashes. -/
structure Path where
  anchor : String := ""
  parts : List String := []
  deriving DecidableEq, Repr, Inhabited

namespace Path

/-- The slashes that anchor a path: exactly two are kept, three or more are one. -/
def anchorOf : List Char → String
  | '/' :: '/' :: '/' :: _ => "/"
  | '/' :: '/' :: _ => "//"
  | '/' :: _ => "/"
  | _ => ""

/-- Is the name left out of paths? -/
def isIdle (part : List Char) : Bool := part.isEmpty || part == ['.']

/-- The path that a text describes. -/
def ofText (text : String) : Path :=
  { anchor := anchorOf text.toList
    parts := ((text.toList.splitOn '/').filter (!isIdle ·)).map String.ofList }

/-- The text of a path. -/
def text (path : Path) : String :=
  if path.anchor.isEmpty && path.parts.isEmpty then "."
  else path.anchor ++ "/".intercalate path.parts

/-- Does the path start at the root? -/
def isAbsolute (path : Path) : Bool := !path.anchor.isEmpty

/-- Has the path a zero character? No file has such a path. -/
def hasZero (path : Path) : Bool := path.parts.any fun part => part.toList.contains (Char.ofNat 0)

/-- The last name of a path. -/
def name (path : Path) : String := path.parts.getLast?.getD ""

/-- The path without its last name. -/
def parent (path : Path) : Path := { path with parts := path.parts.dropLast }

/-- A path below another one; an absolute one stays itself. -/
def join (path below : Path) : Path :=
  if below.isAbsolute then below else { path with parts := path.parts ++ below.parts }

/-- The ending of a name, from its last dot on. A dot at either end does not start one. -/
def suffixOf (name : List Char) : List Char :=
  let ending := (name.reverse.takeWhile (· != '.')).reverse
  let stem := name.length - ending.length
  if stem ≤ 1 || ending.isEmpty then [] else '.' :: ending

/-- The ending of the last name of a path. -/
def suffix (path : Path) : String := String.ofList (suffixOf path.name.toList)

/-- The names that a path is sorted by. -/
def sortKey (path : Path) : List String :=
  if path.isAbsolute then path.anchor :: path.parts else path.parts

/-- Drop double dots, each with the name before it, without looking at directories. -/
def collapse : List String → List String → List String
  | kept, [] => kept
  | kept, part :: rest =>
    if part == ".." then collapse kept.dropLast rest else collapse (kept ++ [part]) rest

/-- The absolute path for a path, given the place of the working directory. -/
def absolute (here : List String) (path : Path) : Path :=
  if path.isAbsolute then { path with parts := collapse [] path.parts }
  else { anchor := "/", parts := collapse [] (here ++ path.parts) }

end Path

end SchemaCompiler.FileSystem
