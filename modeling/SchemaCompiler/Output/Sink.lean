import SchemaCompiler.Log
import SchemaCompiler.Output.Writer
import SchemaCompiler.Settings

/-!
# Output directories

A sink writes units into a directory, each to the file that the language names it. A shared unit is
written once, and so are the files that the directory needs besides the units.
-/

namespace SchemaCompiler.Output

open FileSystem (Disk Path)
open Target (Language OutputUnit)

/-- An output directory and what has been written to it. -/
structure Sink where
  directory : Path
  /-- The language that names files. -/
  language : Language
  /-- The shared units that have been written. -/
  sharedWritten : List String := []
  /-- Have the support files been written? -/
  supportWritten : Bool := false
  deriving DecidableEq, Repr

/-- A sink, the disk it writes to, and the log. What files must pass before they are written can be
any check. -/
structure SinkState where
  sink : Sink
  disk : Disk
  log : Log := []
  check : Check := Target.check

/-- A computation that writes through a sink. -/
abbrev SinkM := ExceptT WriteFailure (StateM SinkState)

namespace Sink

/-- Write to the disk. -/
def writing {α : Type} (computation : WriteM α) : SinkM α :=
  ExceptT.mk (modifyGet fun state =>
    let (result, disk) := computation.run.run state.disk
    (result, { state with disk }))

/-- Record an entry. -/
def note (entry : LogEntry) : SinkM Unit :=
  modify fun state => { state with log := state.log ++ [entry] }

/-- The path of the file of a unit. -/
def pathOf (sink : Sink) (unit : OutputUnit) : Path :=
  sink.directory.join (Path.ofText (sink.language.fileName unit.name))

/-- Write support files that are not there. -/
def writeSupport (settings : Settings) : List (String × String) → SinkM Unit
  | [] => modify fun state => { state with sink := { state.sink with supportWritten := true } }
  | (name, content) :: rest => do
    let state ← get
    let path := state.sink.directory.join (Path.ofText name)
    let written ← writing (reporting path
      (writeIfAbsent path content (checkedLanguage settings.language) state.check))
    if written then note (.wroteSupportFile path.text)
    writeSupport settings rest

/-- Remember that a shared unit has been written. -/
def markWritten (unit : OutputUnit) : SinkM Unit :=
  if unit.shared then
    modify fun state =>
      let sharedWritten := unit.name :: state.sink.sharedWritten
      { state with sink := { state.sink with sharedWritten } }
  else pure ()

/-- Write a unit; the result is its path if it was written. Shared units are passed over if they
have been written, and so are existing files if they are to be kept. -/
def writeUnit (settings : Settings) (unit : OutputUnit) : SinkM (Option Path) := do
  let state ← get
  if unit.shared && state.sink.sharedWritten.contains unit.name then return none
  let path := state.sink.pathOf unit
  if (← writing (onDisk (Disk.exists? path))) && !settings.overwriteExistingFiles.isTrue then
    note (.keptFile path.text)
    return none
  writing (reporting path (do
    writeFile path unit.body (← checkedLanguage settings.language) state.check))
  markWritten unit
  note (.wroteFile path.text)
  return some path

/-- Write units in order; the result are the paths that were written. -/
def writeUnits (settings : Settings) : List OutputUnit → SinkM (List Path)
  | [] => return []
  | unit :: rest => do
    let path ← writeUnit settings unit
    return path.toList ++ (← writeUnits settings rest)

/-- Write units and, before the first, the support files. -/
def write (settings : Settings) (units : List OutputUnit) : SinkM (List Path) := do
  let sink := (← get).sink
  if !sink.supportWritten then writeSupport settings sink.language.supportFiles
  writeUnits settings units

end Sink

end SchemaCompiler.Output
