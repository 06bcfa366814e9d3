import SchemaCompiler.Batch
import SchemaCompiler.Command.Request
import SchemaCompiler.Output.Sink
import SchemaCompiler.SchemaFiles
import SchemaCompiler.Settings.File

/-!
# Running the command

A run reads its settings, finds the schema files, compiles all of them and writes the units. Errors
that the user can mend are reported; anything else ends the run as a fault.
-/

namespace SchemaCompiler.Command

open Data (Value)
open FileSystem (Disk DiskError Path)
open Schema (Failure Logged)

/-- Why a run ends without a report. -/
inductive RunFault where
  | settingsFile (failure : Settings.FileFailure)
  | settings (fault : SettingsFault)
  /-- The setting of the names to be left out is no collection. -/
  | notIterable (type : String)
  /-- The setting of the names to be left out is no collection that could be extended. -/
  | notExtendable (type : String)
  /-- A name to be left out is no value that names can be compared with. -/
  | notComparable (type : String)
  /-- The setting of the extension is no text. -/
  | extensionNotText (type : String)
  /-- The setting of the extension is bytes, from which a dot cannot be taken. -/
  | extensionBytes
  | search (fault : SearchFault)
  | disk (error : DiskError)
  | document (fault : Schema.Fault)
  | write (failure : Output.WriteFailure)
  deriving DecidableEq, Repr

/-- The text of a fault. -/
def RunFault.text : RunFault → String
  | settingsFile failure => failure.text
  | settings fault => fault.message
  | notIterable type => s!"'{type}' object is not iterable"
  | notExtendable type => s!"Value after * must be an iterable, not {type}"
  | notComparable type => s!"unhashable type: '{type}'"
  | extensionNotText type => s!"'{type}' object has no attribute 'lstrip'"
  | extensionBytes => "a bytes-like object is required, not 'str'"
  | search fault => fault.message
  | disk error => error.text
  | document fault => fault.message
  | write failure => failure.text

/-- How a run ends, unless it ends well. -/
inductive Stop where
  | usage (error : UsageError)
  | help
  | report (message : String)
  | fault (fault : RunFault)
  deriving DecidableEq, Repr

/-- The state of a run. -/
structure RunState where
  disk : Disk
  log : Log := []
  /-- Are all entries of the log shown? -/
  verbose : Bool := false

/-- A part of a run. -/
abbrev RunM := ExceptT Stop (StateM RunState)

/-- Record entries. -/
def notes (entries : Log) : RunM Unit :=
  modify fun state => { state with log := state.log ++ entries }

/-! ## Settings -/

/-- Is the failure of a settings file reported? Those are that are about a value in it. -/
def isReportedFailure : Settings.FileFailure → Bool
  | .disk error => error == .zeroInPath
  | .yaml _ => false
  | .encoding _ | .json _ _ _ | .notMapping _ => true
  | .value fault => fault.isAboutValue
  | .settings fault => fault.isAboutValue

/-- The settings that a request starts from. -/
def readSettings (request : Request) : RunM Settings := do
  match request.config with
  | none => return {}
  | some path =>
    match Settings.ofFile (← get).disk path with
    | .ok settings => return settings
    | .error failure =>
      if isReportedFailure failure then throw (.report failure.text)
      else throw (.fault (.settingsFile failure))

/-- The value of an option, unless it has been taken away. -/
def required (name : String) (value : Option Value) : RunM Value :=
  match Settings.required name value with
  | .ok value => return value
  | .error fault => throw (.fault (.settings fault))

/-- The names to be left out, with those of the request. -/
def extendExclusions (request : Request) (excluded : Option Value) : RunM (Option Value) := do
  if request.exclude.isEmpty then return excluded
  let excluded ← required "exclude_files" excluded
  match excluded.items? with
  | some items => return some (.list (items ++ request.exclude.map .text))
  | none => throw (.fault (.notExtendable excluded.fullTypeName))

/-- The settings with what a request says instead. -/
def applyRequest (request : Request) (settings : Settings) : RunM Settings := do
  let replace (value : Option String) (old : Value) : Value := (value.map Value.text).getD old
  return { settings with
    packageName := replace request.package settings.packageName
    language := replace request.language settings.language
    schemaFileExtension := replace request.extension settings.schemaFileExtension
    excludeFiles := ← extendExclusions request settings.excludeFiles
    overwriteExistingFiles := if request.noOverwrite then .bool false
      else settings.overwriteExistingFiles
    generateValidations := if request.noValidations then .bool false
      else settings.generateValidations
    verbose := if request.verbose then .bool true else settings.verbose }

/-- Check settings. -/
def checkSettings {α : Type} (result : Except SettingsFault α) : RunM α :=
  match result with
  | .ok value => return value
  | .error fault =>
    if fault.isAboutValue then throw (.report fault.message) else throw (.fault (.settings fault))

/-! ## Compiling and writing -/

/-- The names to be left out. -/
def excludedNames (excluded : Value) : RunM (List String) := do
  match excluded.items? with
  | none => throw (.fault (.notIterable excluded.fullTypeName))
  | some items =>
    match Value.firstUnhashable? items with
    | some type => throw (.fault (.notComparable type))
    | none => return items.filterMap fun
      | .text name => some name
      | _ => none

/-- The extension of schema files. -/
def extensionOf (settings : Settings) : RunM String :=
  match settings.schemaFileExtension with
  | .text extension => return extension
  | .bytes _ => throw (.fault .extensionBytes)
  | value => throw (.fault (.extensionNotText value.fullTypeName))

/-- The schema files of a request. -/
def findFiles (request : Request) (settings : Settings) : RunM (List Path) := do
  let exclusions ← required "exclude_files" settings.excludeFiles
  let extension ← extensionOf settings
  let excluded ← excludedNames exclusions
  match findSchemaFiles (← get).disk request.inputDir extension excluded with
  | .ok paths => return paths
  | .error fault => throw (.fault (.search fault))

/-- The compiler for a request. -/
def makeCompiler (request : Request) (settings : Settings) : RunM Compiler := do
  match echo (← get).disk parameters request.values with
  | .error (.disk error) => throw (.fault (.disk error))
  | .error (.notIterable type) => throw (.fault (.notIterable type))
  | .ok line => checkSettings (Compiler.make settings line)

/-- Compile documents. -/
def compileAll (compiler : Compiler) (keepGoing : Bool) (paths : List Path) : RunM Batch := do
  let (result, log) :=
    (compiler.generateFiles (readDocument (← get).disk) keepGoing paths).outcome
  notes log
  match result with
  | .ok batch => return batch
  | .error (.error error) => throw (.report error.text)
  | .error (.fault fault) => throw (.fault (.document fault))

/-- Write the units of a batch; the result is the number of files. -/
def writeBatch (compiler : Compiler) (directory : Path) (batch : Batch) : RunM Nat := do
  let sink : Output.Sink := { directory, language := compiler.language }
  let (result, written) :=
    (Output.Sink.write compiler.settings batch.units).run.run { sink, disk := (← get).disk }
  modify fun state => { state with disk := written.disk }
  notes written.log
  match result with
  | .ok paths => return paths.length
  | .error failure =>
    if failure.isReported then throw (.report failure.text) else throw (.fault (.write failure))

/-- Do what a request asks for. -/
def perform (request : Request) : RunM Unit := do
  let settings ← applyRequest request (← readSettings request)
  modify fun state => { state with verbose := settings.verbose.isTrue }
  let _ ← checkSettings settings.validate
  let paths ← findFiles request settings
  if paths.isEmpty then
    notes [.nothingFound (← extensionOf settings) request.inputDir.text]
  else
    let compiler ← makeCompiler request settings
    let batch ← compileAll compiler request.keepGoing paths
    let files ← writeBatch compiler request.outputDir batch
    let failed := batch.failures.length
    notes [.finished files (paths.length - failed) paths.length]
    if failed > 0 then throw (.report s!"{failed} of {paths.length} documents failed")

/-- Do what the words of a command ask for. -/
def performWords (words : List String) : RunM Unit := do
  match Request.ofWords (← get).disk words with
  | .error (.usage error) => throw (.usage error)
  | .error (.disk error) => throw (.fault (.disk error))
  | .ok none => throw .help
  | .ok (some request) => perform request

/-! ## Results -/

/-- The result of a run. -/
structure Result where
  exitCode : Nat
  output : List String := []
  errors : List String := []
  fault : Option RunFault := none
  disk : Disk

/-- The entries of a log that are shown. -/
def shownLog (verbose : Bool) (log : Log) : List String :=
  (log.filter fun entry => verbose || entry.level != .debug).map LogEntry.line

/-- Run the command with its words on a disk. -/
def run (disk : Disk) (words : List String) : Result :=
  let (outcome, state) := (performWords words).run.run { disk }
  let log := shownLog state.verbose state.log
  match outcome with
  | .ok () => { exitCode := 0, errors := log, disk := state.disk }
  | .error .help => { exitCode := 0, output := helpLines, errors := log, disk := state.disk }
  | .error (.usage error) => { exitCode := 2, errors := log ++ error.lines, disk := state.disk }
  | .error (.report message) =>
    { exitCode := 1, errors := log ++ ["Error: " ++ message], disk := state.disk }
  | .error (.fault fault) =>
    { exitCode := 1, errors := log, fault := some fault, disk := state.disk }

end SchemaCompiler.Command
