import SchemaCompiler.Compiler
import SchemaCompiler.FileSystem.Disk
import SchemaCompiler.Text.Lines
import SchemaCompiler.Text.Utf8

/-!
# Batches of documents

Several documents are compiled together when their units go to one directory. Two documents may
produce the same unit, but not different units with one name or for one file. A batch stops at its
first failure, or records the errors of documents and goes on; faults stop it in any case.
-/

namespace SchemaCompiler

open FileSystem (Disk Path)
open Schema (Failure Logged)
open Target (Language OutputUnit)

/-- The units of a batch, each with the document that it came from first, and the documents that
failed, each with its error. -/
structure Batch where
  owned : List (String × OutputUnit) := []
  failures : List (String × Schema.Error) := []
  deriving DecidableEq, Repr

namespace Batch

/-- The units of a batch. -/
def units (batch : Batch) : List OutputUnit := batch.owned.map (·.2)

/-- Has no document failed? -/
def isOk (batch : Batch) : Bool := batch.failures.isEmpty

/-- The unit with a name, and the document that it came from. -/
def owner? (batch : Batch) (name : String) : Option (String × OutputUnit) :=
  batch.owned.find? fun (_, unit) => unit.name == name

/-- The unit that is written to a file. -/
def writtenTo? (language : Language) (batch : Batch) (file : String) : Option OutputUnit :=
  batch.units.find? fun unit => language.fileName unit.name == file

/-- Refuse a unit of a document that conflicts with those of the documents before. -/
def checkUnit (language : Language) (batch : Batch) (document : String) (unit : OutputUnit) :
    Except Schema.Error Unit :=
  let location : Schema.Location := { declaration := some unit.name, document := some document }
  match batch.owner? unit.name with
  | some (owner, existing) =>
    if existing.body == unit.body then .ok ()
    else .error { cause := .generatedElsewhere unit.name owner, location }
  | none =>
    let file := language.fileName unit.name
    match batch.writtenTo? language file with
    | some other => .error { cause := .sameFile other.name unit.name file, location }
    | none => .ok ()

/-- Refuse units of a document that conflict with those of the documents before. -/
def checkUnits (language : Language) (batch : Batch) (document : String) :
    List OutputUnit → Except Schema.Error Unit
  | [] => .ok ()
  | unit :: rest => do
    batch.checkUnit language document unit
    batch.checkUnits language document rest

/-- Add a unit of a document unless there is one with its name. -/
def addUnit (document : String) (batch : Batch) (unit : OutputUnit) : Batch :=
  if (batch.owner? unit.name).isSome then batch
  else { batch with owned := batch.owned ++ [(document, unit)] }

/-- Add the units of a document whose names are new. -/
def addUnits (document : String) (batch : Batch) (units : List OutputUnit) : Batch :=
  units.foldl (addUnit document) batch

end Batch

/-- What reads the text of a document. -/
abbrev DocumentReader := Path → Except Failure (List Char)

/-- Read the text of a document from a disk. -/
def readDocument (disk : Disk) : DocumentReader := fun path =>
  let fail (detail : String) : Except Failure (List Char) :=
    Schema.fail (.unreadable detail) { document := some path.name }
  match ((Disk.readFile path).run.run disk).1 with
  | .error .zeroInPath => .error (.fault .zeroInPath)
  | .error error => fail error.text
  | .ok bytes =>
    match Text.decodeUtf8 bytes with
    | .error fault => fail fault.message
    | .ok text => .ok (Text.unifyLineEnds text)

namespace Compiler

/-- The units of the document at a path. -/
def generateFile (compiler : Compiler) (read : DocumentReader) (path : Path) :
    Logged (List OutputUnit) := do
  Logged.note (.loading path.text)
  let text ← Logged.ofExcept (read path)
  compiler.generateText path.name text

/-- The units of the document at a path, if they fit to those of a batch. -/
def generateNext (compiler : Compiler) (read : DocumentReader) (batch : Batch) (path : Path) :
    Logged (List OutputUnit) := do
  let units ← compiler.generateFile read path
  Logged.ofResult (batch.checkUnits compiler.language path.name units)
  return units

/-- Add the document at a path to a batch. Its error is recorded if the batch is to keep going. -/
def extend (compiler : Compiler) (read : DocumentReader) (keepGoing : Bool) (batch : Batch)
    (path : Path) : Logged Batch :=
  tryCatchThe Failure
    (do return batch.addUnits path.name (← compiler.generateNext read batch path))
    fun failure =>
      match failure with
      | .error error =>
        if keepGoing then do
          Logged.note (.skippedDocument path.name error.text)
          return { batch with failures := batch.failures ++ [(path.name, error)] }
        else throw failure
      | .fault _ => throw failure

/-- The units of the documents at some paths. -/
def generateFiles (compiler : Compiler) (read : DocumentReader) (keepGoing : Bool)
    (paths : List Path) : Logged Batch :=
  paths.foldlM (compiler.extend read keepGoing) {}

end Compiler

end SchemaCompiler
