import SchemaCompiler.Data.Value
import SchemaCompiler.Schema.Constraint
import SchemaCompiler.Schema.Section
import SchemaCompiler.Target.Unit

/-!
# Settings

The options of code generation are read from a dictionary. An option keeps whatever value it is
given; flags go by whether the value counts as true. Keys that are no options are ignored, with some
exceptions. `validate` and `to_dict` name what settings can do, and a value under one of them takes
its place, so that it can no longer be done; likewise a value under `__dataclass_fields__` takes the
place of the list of options. `__dict__` stands for all that has been set: a dictionary under it
takes the place of everything set before. Options that are lists have no value of their own then,
the others fall back to their defaults.
-/

namespace SchemaCompiler

open Data (Value)

/-- The options of code generation. -/
structure Settings where
  packageName : Value := .text "generated"
  language : Value := .text "python"
  /-- The path to the declarations, unless it has been taken away. -/
  schemasPath : Option Value := some (.list [.text "Components", .text "Schemas"])
  schemaFileExtension : Value := .text "yaml"
  /-- The names of files to be left out, unless they have been taken away. -/
  excludeFiles : Option Value := some (.list [])
  generateValidations : Value := .bool true
  overwriteExistingFiles : Value := .bool true
  addGenerationComment : Value := .bool true
  strictConstraints : Value := .bool false
  verbose : Value := .bool false
  /-- A value in the place of validation. -/
  validateValue : Option Value := none
  /-- A value in the place of listing the options. -/
  listingValue : Option Value := none
  /-- A value in the place of the list of options. -/
  fieldsValue : Option Value := none
  deriving Repr, Inhabited

/-- What is wrong with settings. -/
inductive SettingsFault where
  | keyNotText (type : String)
  | notCallable (type : String)
  /-- An option has been taken away. -/
  | missingOption (name : String)
  /-- A value has no part with a name. -/
  | missingPart (type name : String)
  | notClass (type : String)
  | notDictionary (type : String)
  | notWritable (name : String)
  | unsupportedLanguage (shown : String)
  | emptyPath
  | integerTooLong
  deriving DecidableEq, Repr

/-- The wording of a fault. -/
def SettingsFault.message : SettingsFault → String
  | keyNotText type => s!"attribute name must be string, not '{type}'"
  | notCallable type => s!"'{type}' object is not callable"
  | missingOption name => s!"'CodeGeneratorConfig' object has no attribute '{name}'"
  | missingPart type name => s!"'{type}' object has no attribute '{name}'"
  | notClass type => s!"__class__ must be set to a class, not '{type}' object"
  | notDictionary type => s!"__dict__ must be set to a dictionary, not a '{type}'"
  | notWritable name => s!"attribute '{name}' of 'CodeGeneratorConfig' objects is not writable"
  | unsupportedLanguage shown =>
    s!"Unsupported language '{shown}', expected one of " ++
      ", ".intercalate (Target.Language.all.map Target.Language.name)
  | emptyPath => "schemas_path must name at least one key"
  | integerTooLong => Schema.Fault.integerTooLong.message

/-- Is the fault about the value of an option, rather than about what settings can do? -/
def SettingsFault.isAboutValue : SettingsFault → Bool
  | unsupportedLanguage _ | emptyPath | integerTooLong => true
  | _ => false

namespace Settings

/-- Give an option or what stands beside the options a value. Unknown names change nothing. -/
def put (settings : Settings) (name : String) (value : Value) : Settings :=
  match name with
  | "package_name" => { settings with packageName := value }
  | "language" => { settings with language := value }
  | "schemas_path" => { settings with schemasPath := some value }
  | "schema_file_extension" => { settings with schemaFileExtension := value }
  | "exclude_files" => { settings with excludeFiles := some value }
  | "generate_validations" => { settings with generateValidations := value }
  | "overwrite_existing_files" => { settings with overwriteExistingFiles := value }
  | "add_generation_comment" => { settings with addGenerationComment := value }
  | "strict_constraints" => { settings with strictConstraints := value }
  | "verbose" => { settings with verbose := value }
  | "validate" => { settings with validateValue := some value }
  | "to_dict" => { settings with listingValue := some value }
  | "__dataclass_fields__" => { settings with fieldsValue := some value }
  | _ => settings

/-- Settings of which nothing has been set. -/
def bare : Settings := { schemasPath := none, excludeFiles := none }

/-- Settings of which exactly the entries of a dictionary have been set. -/
def replacedBy (entries : List (Value × Value)) : Settings :=
  entries.foldl (fun settings (key, value) =>
    match key with
    | .text name => settings.put name value
    | _ => settings) bare

/-- Set a value under a name. -/
def set (settings : Settings) (name : String) (value : Value) : Except SettingsFault Settings :=
  match name with
  | "__class__" => .error (.notClass value.fullTypeName)
  | "__weakref__" => .error (.notWritable name)
  | "__dict__" =>
    match value with
    | .dict entries => .ok (replacedBy entries)
    | value => .error (.notDictionary value.fullTypeName)
  | name => .ok (settings.put name value)

/-- The options with their names, in order. -/
def options (settings : Settings) : List (String × Option Value) :=
  [("package_name", some settings.packageName),
   ("language", some settings.language),
   ("schemas_path", settings.schemasPath),
   ("schema_file_extension", some settings.schemaFileExtension),
   ("exclude_files", settings.excludeFiles),
   ("generate_validations", some settings.generateValidations),
   ("overwrite_existing_files", some settings.overwriteExistingFiles),
   ("add_generation_comment", some settings.addGenerationComment),
   ("strict_constraints", some settings.strictConstraints),
   ("verbose", some settings.verbose)]

/-- The names of the options. -/
def optionNames : List String := (options {}).map (·.1)

/-- Is the name that of an option which has been taken away? -/
def lacks (settings : Settings) (name : String) : Bool :=
  settings.options.any fun (option, value) => option == name && value.isNone

/-- Give options the values of entries, in order. Every key must be a text. An option that has been
taken away is not known any more. -/
def setAll : Settings → List (Value × Value) → Except SettingsFault Settings
  | settings, [] => .ok settings
  | settings, (.text name, value) :: rest =>
    if settings.lacks name then setAll settings rest
    else do setAll (← settings.set name value) rest
  | _, (key, _) :: _ => .error (.keyNotText key.fullTypeName)

/-- The pieces of a text between dots that are not empty. -/
def dottedParts (text : String) : List String :=
  ((text.toList.splitOn '.').filter (!·.isEmpty)).map String.ofList

/-- The value of an option, unless it has been taken away. -/
def required (name : String) (value : Option Value) : Except SettingsFault Value :=
  match value with
  | some value => .ok value
  | none => .error (.missingOption name)

/-- A path that is given as one text is cut at its dots. -/
def splitPath (settings : Settings) : Except SettingsFault Settings := do
  match ← required "schemas_path" settings.schemasPath with
  | .text path =>
    return { settings with schemasPath := some (.list ((dottedParts path).map .text)) }
  | _ => return settings

/-- Settings from the entries of a dictionary. -/
def ofEntries (entries : List (Value × Value)) : Except SettingsFault Settings := do
  splitPath (← setAll {} entries)

/-- The options as a dictionary. A value in the place of the list of options is none, unless it is
an empty dictionary. -/
def listing (settings : Settings) : Except SettingsFault (List (String × Value)) :=
  match settings.listingValue, settings.fieldsValue with
  | some value, _ => .error (.notCallable value.fullTypeName)
  | none, none => settings.options.mapM fun (name, value) => return (name, ← required name value)
  | none, some (.dict []) => .ok []
  | none, some (.dict ((_, value) :: _)) => .error (.missingPart value.fullTypeName "_field_type")
  | none, some value => .error (.missingPart value.fullTypeName "values")

/-- The language that code is generated for. -/
def language? (settings : Settings) : Option Target.Language :=
  match settings.language with
  | .text name => Target.Language.ofName? name
  | _ => none

/-- Check the options that must have certain values: the language and the path. -/
def validate (settings : Settings) : Except SettingsFault Target.Language :=
  match settings.validateValue with
  | some value => .error (.notCallable value.fullTypeName)
  | none =>
    match settings.language? with
    | none =>
      match settings.language.plain? with
      | some shown => .error (.unsupportedLanguage shown)
      | none => .error .integerTooLong
    | some language => do
      let path ← required "schemas_path" settings.schemasPath
      if path.isTrue then return language else .error .emptyPath

/-- A value as a step of a path. -/
def pathStep : Value → Schema.PathStep
  | .text name => .key name
  | value => .other value.fullTypeName

/-- The path to the declarations. -/
def sectionPath (settings : Settings) : Schema.SectionPath :=
  match settings.schemasPath with
  | none => .missing
  | some (.list items) | some (.tuple items) => .steps (items.map pathStep)
  | some (.text text) => .steps (text.toList.map fun c => .key (String.singleton c))
  | some (.bytes bytes) => .steps (bytes.map fun _ => .other "int")
  | some (.dict entries) => if entries.isEmpty then .steps [] else .mapping
  | some (.set items) => if items.isEmpty then .steps [] else .set
  | some value => .other value.fullTypeName

/-- How constraints are compiled for a language. -/
def constraintRules (settings : Settings) (language : Target.Language) : Schema.ConstraintRules :=
  { strict := settings.strictConstraints.isTrue, checkRegex := language.checksRegex }

/-- How units are rendered for a language. -/
def style (settings : Settings) (language : Target.Language) : Target.Style :=
  { language
    package := settings.packageName.plain?
    validations := settings.generateValidations.isTrue
    comments := settings.addGenerationComment.isTrue }

end Settings

end SchemaCompiler
