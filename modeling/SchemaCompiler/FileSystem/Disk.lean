import SchemaCompiler.FileSystem.Tree
import SchemaCompiler.Number.Decimal
import SchemaCompiler.Text.Utf8

/-!
# Operations on files

A disk is a file tree with a working directory. Operations change the tree or fail, and what was
done before a failure stays done. A disk can also have faults that strike its next operations,
whatever the tree looks like.
-/

namespace SchemaCompiler.FileSystem

/-- A file tree with a working directory. -/
structure Disk where
  tree : FileTree := {}
  /-- The place of the working directory. -/
  here : Place := []
  /-- For each of the next operations, the fault that strikes it. -/
  faults : List (Option Reason) := []
  deriving DecidableEq, Repr

/-- Why an operation on a disk fails. -/
inductive DiskError where
  | file (error : FileError)
  /-- A path has a zero character. -/
  | zeroInPath
  /-- A text has no bytes. -/
  | unencodable (fault : Text.EncodeFault)
  deriving DecidableEq, Repr

/-- The text of an error. -/
def DiskError.text : DiskError → String
  | file error => error.text
  | zeroInPath => "embedded null byte"
  | unencodable fault => fault.message

/-- Has the operation failed for a reason? -/
def DiskError.isFor (reason : Reason) : DiskError → Bool
  | file error => error.reason == reason
  | _ => false

/-- An operation on a disk. -/
abbrev DiskM := ExceptT DiskError (StateM Disk)

namespace Disk

/-- Fail for a reason. -/
def fail {α : Type} (reason : Reason) (path target : Option String) : DiskM α :=
  throw (.file { reason, path, target })

/-- Refuse a path with a zero character. -/
def refuseZero (path : Path) : DiskM Unit := if path.hasZero then throw .zeroInPath else return ()

/-- Let the next fault strike an operation on a path. -/
def attempt (path : Option String) (target : Option String) : DiskM Unit := do
  let disk ← get
  match disk.faults with
  | [] => return ()
  | fault :: rest =>
    set { disk with faults := rest }
    match fault with
    | some reason => fail reason path target
    | none => return ()

/-- The place of a path. -/
def locate (path : Path) : DiskM Place := do
  let disk ← get
  match disk.tree.locate disk.here path with
  | .ok place => return place
  | .error reason => fail reason (some path.text) none

/-- What is at a path, if that can be found out. -/
def entry? (disk : Disk) (path : Path) : Option Entry :=
  (disk.tree.lookup disk.here path).toOption

/-- Is there a directory at a path? -/
def isDirectory (disk : Disk) (path : Path) : Bool := disk.entry? path == some .directory

/-- Is there a file at a path? -/
def isFile (disk : Disk) (path : Path) : Bool :=
  match disk.entry? path with
  | some (.file _) => true
  | _ => false

/-- What is at a path, if anything. A path that leads nowhere leads to nothing, but a name that is
too long is an error. -/
def probe (disk : Disk) (path : Path) : Except FileError (Option Entry) :=
  if path.hasZero then .ok none
  else match disk.tree.lookup disk.here path with
    | .ok entry => .ok (some entry)
    | .error .noEntry | .error .notDirectory => .ok none
    | .error reason => .error { reason, path := some path.text }

/-- Is there anything at a path? -/
def exists? (path : Path) : DiskM Bool := do
  if path.hasZero then return false
  attempt (some path.text) none
  match (← get).probe path with
  | .ok entry => return entry.isSome
  | .error error => throw (.file error)

/-- Change the file tree. -/
def modifyTree (change : FileTree → FileTree) : DiskM Unit :=
  modify fun disk => { disk with tree := change disk.tree }

/-! ## Directories -/

/-- Make a directory at a path where there is nothing. -/
def makeDirectory (path : Path) : DiskM Unit := do
  refuseZero path
  attempt (some path.text) none
  let place ← locate path
  match (← get).tree.get? place with
  | some _ => fail .fileExists (some path.text) none
  | none => modifyTree (·.insert place .directory)

/-- Go on after the failure to make a directory if it is there already. -/
def unlessDirectory (path : Path) (error : DiskError) : DiskM Unit := do
  if !error.isFor .noEntry && (← get).isDirectory path then return () else throw error

/-- Make a directory at a path if there is none, after those above it. The names are given in
reverse. -/
def makeDirectoriesFrom (anchor : String) : List String → DiskM Unit
  | [] =>
    let path : Path := { anchor }
    tryCatch (makeDirectory path) (unlessDirectory path)
  | name :: above =>
    let path : Path := { anchor, parts := (name :: above).reverse }
    tryCatch (makeDirectory path) fun error =>
      if error.isFor .noEntry then do
        makeDirectoriesFrom anchor above
        tryCatch (makeDirectory path) (unlessDirectory path)
      else unlessDirectory path error

/-- Make a directory at a path if there is none, after those above it. -/
def makeDirectories (path : Path) : DiskM Unit := makeDirectoriesFrom path.anchor path.parts.reverse

/-! ## Files -/

/-- The bytes of the file at a path. -/
def readFile (path : Path) : DiskM (List UInt8) := do
  refuseZero path
  attempt (some path.text) none
  let disk ← get
  match disk.tree.lookup disk.here path with
  | .ok (.file content) => return content
  | .ok .directory => fail .isDirectory (some path.text) none
  | .error reason => fail reason (some path.text) none

/-- The name of a temporary file for a file: hidden, and with a number of eight digits. -/
def temporaryName (name : String) (number : Nat) : String :=
  let digits := Number.decimalDigits number
  "." ++ name ++ "." ++ String.ofList (List.replicate (8 - digits.length) '0' ++ digits) ++ ".tmp"

/-- The first temporary name for a file that is free. Among one more numbers than there are entries,
one is. -/
def freeTemporary (disk : Disk) (path : Path) : Path :=
  let directory := path.parent.absolute disk.here
  let candidate (number : Nat) : Path :=
    { directory with parts := directory.parts ++ [temporaryName path.name number] }
  let numbers := List.range (disk.tree.entries.length + 1)
  candidate ((numbers.find? fun number => (disk.entry? (candidate number)).isNone).getD 0)

/-- Make an empty temporary file beside a path. -/
def makeTemporary (path : Path) : DiskM Path := do
  let temporary := (← get).freeTemporary path
  refuseZero temporary
  attempt (some temporary.text) none
  let place ← locate temporary
  match (← get).tree.get? place with
  | some _ => fail .fileExists (some temporary.text) none
  | none => modifyTree (·.insert place (.file []))
  return temporary

/-- Write the content of a file that is there. -/
def fillFile (path : Path) (content : List UInt8) : DiskM Unit := do
  attempt none none
  let place ← locate path
  modifyTree (·.insert place (.file content))

/-- Fail to give a file another name. -/
def renameError {α : Type} (reason : Reason) (source target : Path) : DiskM α :=
  fail reason (some source.text) (some target.text)

/-- Give a file another name, in place of a file that has it. -/
def rename (source target : Path) : DiskM Unit := do
  attempt (some source.text) (some target.text)
  let disk ← get
  if target.parts.isEmpty || target.name == ".." then renameError .busy source target
  match disk.tree.locate disk.here source, disk.tree.locate disk.here target with
  | .ok old, .ok new =>
    match disk.tree.get? old, disk.tree.get? new with
    | some (.file _), some .directory => renameError .isDirectory source target
    | some (.file content), _ => modifyTree fun tree => (tree.erase old).insert new (.file content)
    | _, _ => renameError .noEntry source target
  | .error reason, _ | _, .error reason => renameError reason source target

/-- Remove a temporary file. -/
def discard (path : Path) : DiskM Unit := do
  let disk ← get
  match disk.tree.locate disk.here path with
  | .ok place => modifyTree (·.erase place)
  | .error _ => return ()

/-- The bytes of a text. -/
def encode (text : String) : DiskM (List UInt8) :=
  match Text.encodeUtf8 text with
  | .ok bytes => return bytes
  | .error fault => throw (.unencodable fault)

/-- Put a file with a text at a path: the text is written to a temporary file beside it, which then
takes its name. So the file is never there in part, and after a failure nothing of it is left. -/
def replaceFile (path : Path) (text : String) : DiskM Unit := do
  makeDirectories path.parent
  let temporary ← makeTemporary path
  tryCatch (do fillFile temporary (← encode text); rename temporary path) fun error => do
    discard temporary
    throw error

end Disk

end SchemaCompiler.FileSystem
