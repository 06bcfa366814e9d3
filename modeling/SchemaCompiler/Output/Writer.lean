import SchemaCompiler.Data.Value
import SchemaCompiler.FileSystem.Disk
import SchemaCompiler.Target.Check

/-!
# Writing files

A generated file is checked for its language and then put in place as a whole.
-/

namespace SchemaCompiler.Output

open FileSystem (Disk DiskError DiskM FileError Path)
open Target (CheckFault Language)

/-- Why writing fails. -/
inductive WriteFailure where
  /-- The content does not pass the check of its language. -/
  | check (fault : CheckFault)
  /-- A file of an output directory cannot be written. -/
  | cannotWrite (path : String) (error : FileError)
  | disk (error : DiskError)
  /-- The setting of the language cannot be looked up. -/
  | languageNotKey (type : String)
  deriving DecidableEq, Repr

/-- The text of a failure. -/
def WriteFailure.text : WriteFailure → String
  | check fault => fault.message
  | cannotWrite path error => s!"Cannot write {path}: {error.text}"
  | disk error => error.text
  | languageNotKey type => s!"unhashable type: '{type}'"

/-- Is the failure one of the output, which can be reported? -/
def WriteFailure.isReported : WriteFailure → Bool
  | check .zeroCharacter | check (.unencodable _) => false
  | check _ => true
  | cannotWrite _ _ => true
  | disk _ => false
  | languageNotKey _ => false

/-- A computation that writes to a disk. -/
abbrev WriteM := ExceptT WriteFailure (StateM Disk)

/-- Operate on the disk. -/
def onDisk {α : Type} (operation : DiskM α) : WriteM α :=
  ExceptT.mk (do return (← operation.run).mapError .disk)

/-- The language whose check is due for a setting of the language. Other values have no check. -/
def checkedLanguage (setting : Data.Value) : WriteM (Option Language) :=
  match setting with
  | .text name => return Language.ofName? name
  | value =>
    match value.unhashable? with
    | none => return none
    | some type => throw (.languageNotKey type)

/-- A check of contents for a language. -/
abbrev Check := Language → List Char → Except CheckFault Unit

/-- Check the content for a language, if there is one, and put a file with it at a path. -/
def writeFile (path : Path) (content : String) (language : Option Language)
    (check : Check := Target.check) : WriteM Unit := do
  match language with
  | none => pure ()
  | some language =>
    match check language content.toList with
    | .ok () => pure ()
    | .error fault => throw (.check fault)
  onDisk (Disk.replaceFile path content)

/-- Write a file unless there is something at its path. Was it written? -/
def writeIfAbsent (path : Path) (content : String) (language : WriteM (Option Language))
    (check : Check := Target.check) : WriteM Bool := do
  if ← onDisk (Disk.exists? path) then return false
  writeFile path content (← language) check
  return true

/-- Report the failure of an operation on files as one of the output. -/
def reporting {α : Type} (path : Path) (computation : WriteM α) : WriteM α :=
  tryCatchThe WriteFailure computation fun failure =>
    match failure with
    | .disk (.file error) => throw (.cannotWrite path.text error)
    | failure => throw failure

end SchemaCompiler.Output
