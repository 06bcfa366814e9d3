import SchemaCompiler.FileSystem.Path
import SchemaCompiler.Text.Quoted

/-!
# File trees

A file tree says for places, which are lists of names from the root, what is there: a directory or a
file with its bytes. Looking up a path walks through directories, one name after the other.
-/

namespace SchemaCompiler.FileSystem

/-- What is at a place. -/
inductive Entry where
  | directory
  | file (content : List UInt8)
  deriving DecidableEq, Repr

/-- A place: the names from the root. -/
abbrev Place := List String

/-- The files and directories there are. The root is always a directory. -/
structure FileTree where
  entries : List (Place × Entry) := []
  deriving DecidableEq, Repr

namespace FileTree

/-- What is at a place. -/
def get? (tree : FileTree) (place : Place) : Option Entry :=
  if place.isEmpty then some .directory else tree.entries.lookup place

/-- Put something at a place, instead of what was there. -/
def insert (tree : FileTree) (place : Place) (entry : Entry) : FileTree :=
  { entries := tree.entries.filter (·.1 != place) ++ [(place, entry)] }

/-- Remove what is at a place. -/
def erase (tree : FileTree) (place : Place) : FileTree :=
  { entries := tree.entries.filter (·.1 != place) }

/-- Remove what is at a place and below it. -/
def eraseAll (tree : FileTree) (place : Place) : FileTree :=
  { entries := tree.entries.filter fun entry => !place.isPrefixOf entry.1 }

/-- The places below a place, each with what is there and its names from that place. -/
def below (tree : FileTree) (place : Place) : List (List String × Entry) :=
  tree.entries.filterMap fun (other, entry) =>
    if place.isPrefixOf other && other.length > place.length
      then some (other.drop place.length, entry)
    else none

end FileTree

/-! ## Errors -/

/-- Why an operation on files fails. -/
inductive Reason where
  | noEntry
  | inputOutput
  | accessDenied
  | busy
  | fileExists
  | notDirectory
  | isDirectory
  | noSpace
  | nameTooLong
  deriving DecidableEq, Repr

/-- The number of a reason. -/
def Reason.number : Reason → Nat
  | noEntry => 2
  | inputOutput => 5
  | accessDenied => 13
  | busy => 16
  | fileExists => 17
  | notDirectory => 20
  | isDirectory => 21
  | noSpace => 28
  | nameTooLong => 36

/-- The wording of a reason. -/
def Reason.message : Reason → String
  | noEntry => "No such file or directory"
  | inputOutput => "Input/output error"
  | accessDenied => "Permission denied"
  | busy => "Device or resource busy"
  | fileExists => "File exists"
  | notDirectory => "Not a directory"
  | isDirectory => "Is a directory"
  | noSpace => "No space left on device"
  | nameTooLong => "File name too long"

/-- A failed operation, with the path it was about, and the second path of a renaming. -/
structure FileError where
  reason : Reason
  path : Option String := none
  target : Option String := none
  deriving DecidableEq, Repr

/-- The text of an error. -/
def FileError.text (error : FileError) : String :=
  s!"[Errno {error.reason.number}] {error.reason.message}" ++
  (match error.path with
    | some path => ": " ++ Text.quoted path
    | none => "") ++
  (match error.target with
    | some target => " -> " ++ Text.quoted target
    | none => "")

/-! ## Looking up paths -/

/-- The longest name in bytes. -/
def nameLimit : Nat := 255

/-- A number of bytes from which on a path is too long. -/
def pathLimit : Nat := 4096

/-- The place that names lead to from a place. Every name but the last must be that of a
directory. -/
def FileTree.walk (tree : FileTree) (place : Place) : List String → Except Reason Place
  | [] => .ok place
  | name :: rest =>
    match tree.get? place with
    | none => .error .noEntry
    | some (.file _) => .error .notDirectory
    | some .directory =>
      if name == ".." then tree.walk place.dropLast rest
      else if name.utf8ByteSize > nameLimit then .error .nameTooLong
      else tree.walk (place ++ [name]) rest

/-- The place of a path, given the place of the working directory. -/
def FileTree.locate (tree : FileTree) (here : Place) (path : Path) : Except Reason Place :=
  if pathLimit ≤ path.text.utf8ByteSize then .error .nameTooLong
  else tree.walk (if path.isAbsolute then [] else here) path.parts

/-- What is at a path. -/
def FileTree.lookup (tree : FileTree) (here : Place) (path : Path) : Except Reason Entry := do
  match tree.get? (← tree.locate here path) with
  | some entry => return entry
  | none => .error .noEntry

end SchemaCompiler.FileSystem
