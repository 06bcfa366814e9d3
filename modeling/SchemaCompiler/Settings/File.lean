import SchemaCompiler.Data.Construction
import SchemaCompiler.Data.Json
import SchemaCompiler.FileSystem.Disk
import SchemaCompiler.Settings
import SchemaCompiler.Text.Lines
import SchemaCompiler.Text.Utf8

/-!
# Settings files

Settings are read from a JSON file, if the name of the file ends so, or else from a YAML file.
-/

namespace SchemaCompiler.Settings

open Data (Value)
open FileSystem (Disk DiskError Path)

/-- Why there are no settings in a file. -/
inductive FileFailure where
  | disk (error : DiskError)
  | encoding (fault : Text.Utf8Fault)
  | json (text : List Char) (complaint : Data.Json.Complaint) (position : Nat)
  | yaml (problem : Yaml.Problem)
  | value (fault : Yaml.ValueFault)
  | notMapping (path : String)
  | settings (fault : SettingsFault)
  deriving DecidableEq, Repr

/-- The text of a failure. -/
def FileFailure.text : FileFailure → String
  | disk error => error.text
  | encoding fault => fault.message
  | json text complaint position => Data.Json.describe text complaint position
  | yaml problem => problem.complaint.message
  | value fault => fault.message
  | notMapping path => s!"Configuration file {path} must contain a mapping"
  | settings fault => fault.message

/-- Is the file a JSON file? -/
def isJsonFile (path : Path) : Bool := path.suffix == ".json"

/-- The value in the bytes of a JSON file, which are decoded at once. -/
def readJson (bytes : List UInt8) : Except FileFailure Value :=
  match Text.decodeUtf8 bytes with
  | .error fault => .error (.encoding fault)
  | .ok text =>
    let text := Text.unifyLineEnds text
    match Data.Json.read text with
    | .ok value => .ok value
    | .error (.complaint complaint position) => .error (.json text complaint position)
    | .error (.tooManyDigits count) => .error (.value (.tooManyDigits count))

/-- The value in the bytes of a YAML file, which are decoded while they are read. -/
def readYaml (bytes : List UInt8) : Except FileFailure Value :=
  match Data.Construction.read (.ofBytes bytes) with
  | .ok value => .ok value
  | .error (.problem { complaint := .notUtf8 fault, .. }) => .error (.encoding fault)
  | .error (.problem problem) => .error (.yaml problem)
  | .error (.value fault) => .error (.value fault)

/-- Settings from the bytes of a file at a path. Nothing at all stands for the defaults. -/
def ofBytes (path : Path) (bytes : List UInt8) : Except FileFailure Settings := do
  match ← if isJsonFile path then readJson bytes else readYaml bytes with
  | .null => (ofEntries []).mapError .settings
  | .dict entries => (ofEntries entries).mapError .settings
  | _ => .error (.notMapping path.text)

/-- Settings from the file at a path. -/
def ofFile (disk : Disk) (path : Path) : Except FileFailure Settings :=
  match ((Disk.readFile path).run.run disk).1 with
  | .error error => .error (.disk error)
  | .ok bytes => ofBytes path bytes

end SchemaCompiler.Settings
