import SchemaCompiler.Command.Parameter
import SchemaCompiler.FileSystem.Disk

/-!
# Echoes of a command

Generated code shows the command that made it: its arguments, and its options unless they have their
default. Paths are shown by their last name only.
-/

namespace SchemaCompiler.Command

open Data (Value)
open FileSystem (Disk DiskError Path)

/-- The name of the program in generated code. -/
def programName : String := "yaml_schema_to_code"

/-- Why there is no echo of a command. -/
inductive EchoFault where
  | disk (error : DiskError)
  /-- The value of a repeated option has no items. -/
  | notIterable (type : String)
  deriving DecidableEq, Repr

/-- The text of a fault. -/
def EchoFault.text : EchoFault → String
  | disk error => error.text
  | notIterable type => s!"'{type}' object is not iterable"

/-- Is there something at a path of a disk? -/
def existsOn (disk : Disk) (path : Path) : Except EchoFault Bool :=
  ((Disk.exists? path).run.run disk).1.mapError .disk

/-- A value in the echo. A text that is an absolute path or the path of something is shown by its
last name. -/
def echoValue (disk : Disk) : Value → Except EchoFault String
  | .text text => do
    let path := Path.ofText text
    if path.isAbsolute || (← existsOn disk path) then return path.name else return text
  | value => .ok (value.plain?.getD "")

/-- Is the value left out of the echo? -/
def isUnset : Value → Bool
  | .null | .tuple [] | .bool false => true
  | _ => false

/-- The values of an option one by one. -/
def optionValues (isRepeated : Bool) (value : Value) : Except EchoFault (List Value) :=
  if isRepeated then
    match value.items? with
    | some items => .ok items
    | none => .error (.notIterable value.fullTypeName)
  else .ok [value]

/-- The words for a parameter with a value, those of an argument first, then those of an option. -/
def echoParameter (disk : Disk) (value : Value) :
    Parameter → Except EchoFault (List String × List String)
  | .argument _ => do return ([← echoValue disk value], [])
  | .option name flags default isSwitch isRepeated => do
    let flag := flags.head?.getD ("--" ++ name)
    if value.equals default then return ([], [])
    else if isSwitch then return ([], [flag])
    else
      let words ← (← optionValues isRepeated value).mapM fun item => do
        return [flag, ← echoValue disk item]
      return ([], words.flatten)

/-- The words for parameters with values, those of arguments apart from those of options. -/
def echoParameters (disk : Disk) (values : List (String × Value)) :
    List Parameter → Except EchoFault (List String × List String)
  | [] => .ok ([], [])
  | parameter :: rest => do
    let words ← match values.lookup parameter.name with
      | none => .ok ([], [])
      | some value => if isUnset value then .ok ([], []) else echoParameter disk value parameter
    let others ← echoParameters disk values rest
    return (words.1 ++ others.1, words.2 ++ others.2)

/-- The echo of a command with values for its parameters. -/
def echo (disk : Disk) (parameters : List Parameter) (values : List (String × Value)) :
    Except EchoFault String := do
  let (arguments, options) ← echoParameters disk values parameters
  return " ".intercalate (programName :: arguments ++ options)

end SchemaCompiler.Command
