import SchemaCompiler.Command.Echo
import SchemaCompiler.Target.Language

/-!
# Requests

The command compiles the schema files of one directory into another one. Its words are checked in a
fixed order: the options as they come, then the arguments, then words that are left over.
-/

namespace SchemaCompiler.Command

open Data (Value)
open FileSystem (Disk DiskError Entry Path)

/-- An option with one value. -/
def valueOption (name letter : String) : Parameter :=
  .option name ["--" ++ name, "-" ++ letter] .null false false

/-- An option without a value. -/
def switchOption (name : String) (flags : List String) : Parameter :=
  .option name flags (.bool false) true false

/-- The parameters of the command. -/
def parameters : List Parameter :=
  [valueOption "package" "p",
   valueOption "language" "l",
   valueOption "config" "c",
   valueOption "extension" "e",
   .option "exclude" ["--exclude", "-x"] .null false true,
   switchOption "no_overwrite" ["--no-overwrite"],
   switchOption "no_validations" ["--no-validations"],
   switchOption "keep_going" ["--keep-going"],
   switchOption "verbose" ["--verbose", "-v"],
   .argument "input_dir",
   .argument "output_dir"]

/-- The option that asks for help. -/
def helpOption : Parameter := switchOption "help" ["--help"]

/-- The usage of the command. -/
def usageLine : String := "Usage: yaml-schema-to-code [OPTIONS] INPUT_DIR OUTPUT_DIR"

/-- The help on the command. -/
def helpLines : List String :=
  [usageLine,
   "",
   "Options:",
   "  -p, --package TEXT              Package of the generated units",
   "  -l, --language [python|kotlin]",
   "  -c, --config FILE",
   "  -e, --extension TEXT            Extension of schema files (default: yaml)",
   "  -x, --exclude TEXT              Schema file name to skip, may be repeated",
   "  --no-overwrite                  Keep output files that already exist",
   "  --no-validations                Omit constraint directives and validation",
   "                                  units",
   "  --keep-going                    Report failed documents and continue",
   "  -v, --verbose",
   "  --help                          Show this message and exit."]

/-- The lines for a usage error. -/
def UsageError.lines (error : UsageError) : List String :=
  (if error.showsUsage then [usageLine, "Try 'yaml-schema-to-code --help' for help.", ""]
    else []) ++
  ["Error: " ++ error.message]

/-- What the command is asked to do. -/
structure Request where
  package : Option String := none
  language : Option String := none
  config : Option Path := none
  extension : Option String := none
  exclude : List String := []
  noOverwrite : Bool := false
  noValidations : Bool := false
  keepGoing : Bool := false
  verbose : Bool := false
  inputDir : Path
  outputDir : Path
  deriving DecidableEq, Repr

/-- The values of the parameters. -/
def Request.values (request : Request) : List (String × Value) :=
  let text (value : Option String) : Value := (value.map Value.text).getD .null
  [("package", text request.package),
   ("language", text request.language),
   ("config", text (request.config.map Path.text)),
   ("extension", text request.extension),
   ("exclude", .tuple (request.exclude.map .text)),
   ("no_overwrite", .bool request.noOverwrite),
   ("no_validations", .bool request.noValidations),
   ("keep_going", .bool request.keepGoing),
   ("verbose", .bool request.verbose),
   ("input_dir", .text request.inputDir.text),
   ("output_dir", .text request.outputDir.text)]

/-! ## Checking values -/

/-- Why words make no request. -/
inductive RequestFault where
  | usage (error : UsageError)
  /-- A path cannot be resolved. -/
  | disk (error : DiskError)
  deriving DecidableEq, Repr

/-- Refuse a value of a parameter. -/
def refuse {α : Type} (name detail : String) : Except RequestFault α :=
  let shown := match parameters.find? fun parameter => parameter.name == name with
    | some parameter => parameter.shown
    | none => name
  .error (.usage (.invalidValue shown detail))

/-- The absolute path for a word, with one slash in front. -/
def resolvePath (disk : Disk) (word : String) : Except RequestFault Path :=
  let path := Path.ofText word
  if path.hasZero then .error (.disk .zeroInPath)
    else .ok { path.absolute disk.here with anchor := "/" }

/-- A language must be one of those that there are. -/
def checkLanguage (word : String) : Except RequestFault Unit :=
  if (Target.Language.ofName? word).isSome then .ok ()
  else
    let names := Target.Language.all.map fun language => Text.quoted language.name
    refuse "language" (Text.quoted word ++ " is not one of " ++ ", ".intercalate names ++ ".")

/-- A settings file must be there and be a file. -/
def checkConfig (disk : Disk) (word : String) : Except RequestFault Unit := do
  match disk.entry? (← resolvePath disk word) with
  | some (.file _) => return ()
  | some .directory => refuse "config" s!"File {Text.quoted word} is a directory."
  | none => refuse "config" s!"File {Text.quoted word} does not exist."

/-- A directory must not be a file, and it must be there if `existing`. -/
def checkDirectory (disk : Disk) (name : String) (existing : Bool) :
    Option String → Except RequestFault Path
  | none => .error (.usage (.missingArgument (Parameter.argument name).shown))
  | some word => do
    let path ← resolvePath disk word
    match disk.entry? path with
    | some (.file _) => refuse name s!"Directory {Text.quoted word} is a file."
    | some .directory => return path
    | none =>
      if existing then refuse name s!"Directory {Text.quoted word} does not exist." else return path

/-- Check the value of an option that is given. -/
def checkOption (disk : Disk) (words : Words) (name : String) : Except RequestFault Unit :=
  match words.last? name with
  | none => .ok ()
  | some word =>
    if name == "language" then checkLanguage word
    else if name == "config" then checkConfig disk word
    else .ok ()

/-- The request in the words of a command; nothing if it asks for help. -/
def Request.ofWords (disk : Disk) (command : List String) :
    Except RequestFault (Option Request) := do
  let words ← (readWords (parameters ++ [helpOption]) command).mapError .usage
  if words.has "help" then return none
  words.order.forM (checkOption disk words)
  let inputDir ← checkDirectory disk "input_dir" true words.arguments[0]?
  let outputDir ← checkDirectory disk "output_dir" false words.arguments[1]?
  if words.arguments.length > 2 then .error (.usage (.extraArguments (words.arguments.drop 2)))
  return some {
    package := words.last? "package"
    language := words.last? "language"
    config := ← (words.last? "config").mapM (resolvePath disk)
    extension := words.last? "extension"
    exclude := words.values "exclude"
    noOverwrite := words.has "no_overwrite"
    noValidations := words.has "no_validations"
    keepGoing := words.has "keep_going"
    verbose := words.has "verbose"
    inputDir
    outputDir }

end SchemaCompiler.Command
