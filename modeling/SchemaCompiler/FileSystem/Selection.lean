import SchemaCompiler.FileSystem.Disk
import SchemaCompiler.FileSystem.Wildcard

/-!
# Selecting paths

Patterns select paths below a directory, one pattern for each name on the way. A pattern without
wildcards is a name that is looked up as it is, so that two dots lead back and stay in the path. The
pattern of two stars stands for any directories on the way.
-/

namespace SchemaCompiler.FileSystem

/-- The pattern of a name. -/
inductive NamePattern where
  | directories
  | wildcards (parts : List Wildcard)
  | exactly (name : String)
  /-- No further name: the directory itself. -/
  | nothing
  deriving DecidableEq, Repr

/-- The pattern with a text. Two stars must stand alone. -/
def NamePattern.ofText? (text : String) : Option NamePattern :=
  if text.isEmpty then some .nothing
  else if text == "**" then some .directories
  else if hasDoubleStar text.toList then none
  else if text.toList.any fun c => c == '*' || c == '?' || c == '[' then
    some (.wildcards (Wildcard.parts text))
  else some (.exactly text)

namespace Disk

/-- The names in the directory at a path, with what they lead to. -/
def children (disk : Disk) (path : Path) : List (String × Entry) :=
  match disk.tree.locate disk.here path with
  | .error _ => []
  | .ok place => (disk.tree.below place).filterMap fun
    | ([name], entry) => some (name, entry)
    | _ => none

/-- The directory at a path and all directories below it. -/
def directories (disk : Disk) (path : Path) : List Path :=
  match disk.tree.locate disk.here path with
  | .error _ => []
  | .ok place => path :: (disk.tree.below place).filterMap fun (names, entry) =>
    if entry == .directory then some (path.join { parts := names }) else none

/-- The paths that patterns select below a directory. Every pattern but the last selects directories
only. -/
def select (disk : Disk) : List NamePattern → Path → Except FileError (List Path)
  | [], path => .ok [path]
  | .nothing :: _, path => .ok [path]
  | .directories :: rest, path => do
    return (← (disk.directories path).mapM (disk.select rest)).flatten.eraseDups
  | .wildcards parts :: rest, path => do
    let matching := (disk.children path).filter fun (name, entry) =>
      (rest.isEmpty || entry == .directory) && Wildcard.describes parts name.toList
    return (← matching.mapM fun (name, _) =>
      disk.select rest (path.join { parts := [name] })).flatten
  | .exactly name :: rest, path => do
    let path := path.join { parts := [name] }
    match ← disk.probe path with
    | none => return []
    | some entry => if rest.isEmpty || entry == .directory then disk.select rest path else return []

end Disk

end SchemaCompiler.FileSystem
