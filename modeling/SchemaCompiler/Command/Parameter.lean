import SchemaCompiler.Data.Value
import SchemaCompiler.Text.Blank
import SchemaCompiler.Text.LowerCase
import SchemaCompiler.Text.Quoted
import SchemaCompiler.Text.Similarity

/-!
# Parameters of a command

A command has arguments, which are given in order, and options, which are given by their flags. A
flag of one dash has one letter, and several such flags can share a dash. An option with a value
takes the rest of the word it stands in, or else the next word, whatever that is. Two dashes
alone end the options.
-/

namespace SchemaCompiler.Command

open Data (Value)

/-- A parameter of a command. -/
inductive Parameter where
  | argument (name : String)
  /-- An option: with a value, unless it `isSwitch`; with several of them if `isRepeated`. -/
  | option (name : String) (flags : List String) (default : Value) (isSwitch isRepeated : Bool)
  deriving Repr, Inhabited

namespace Parameter

/-- The name of the value of a parameter. -/
def name : Parameter → String
  | argument name => name
  | option name _ _ _ _ => name

/-- The flags of a parameter. -/
def flags : Parameter → List String
  | argument _ => []
  | option _ flags _ _ _ => flags

/-- Does the parameter take a value behind its flag? -/
def takesValue : Parameter → Bool
  | argument _ => false
  | option _ _ _ isSwitch _ => !isSwitch

/-- The parameter in messages: an option by its flags, an argument by its name in capitals. -/
def shown : Parameter → String
  | argument name => s!"'{name.toUpper}'"
  | option _ flags _ _ _ => " / ".intercalate (flags.map fun flag => s!"'{flag}'")

end Parameter

/-! ## Declaring parameters -/

/-- What is wrong with the declaration of an option. -/
inductive DeclarationFault where
  | noFlags (name : String)
  | sameFlag (declaration : String)
  | defaultNotList
  | notSwitch
  deriving DecidableEq, Repr

/-- The wording of a fault. -/
def DeclarationFault.message : DeclarationFault → String
  | noFlags name =>
    s!"No options defined but a name was passed ({name}). " ++
      s!"Did you mean to declare an argument instead? Did you mean to pass '--{name}'?"
  | sameFlag declaration =>
    s!"Boolean option {Text.quoted declaration} cannot use the same flag for true/false."
  | defaultNotList => "'default' must be a list when 'multiple' is true."
  | notSwitch => "Secondary flag is not valid for non-boolean flag."

/-- The flags that turn an option on and off. They are declared together, with a slash between them,
or with a semicolon if flags start with slashes. -/
structure FlagPair where
  on : Option String := none
  off : Option String := none
  deriving DecidableEq, Repr

/-- The flags in a declaration. -/
def FlagPair.ofDeclaration (declaration : String) : Except DeclarationFault FlagPair :=
  let chars := declaration.toList
  let separator := if chars.head? == some '/' then ';' else '/'
  let given (flag : List Char) : Option String :=
    if flag.isEmpty then none else some (String.ofList flag)
  if chars.contains separator then
    let first := (chars.takeWhile (· != separator)).reverse.dropWhile Text.isSeparating |>.reverse
    let second := ((chars.dropWhile (· != separator)).drop 1).dropWhile Text.isSeparating
    if first == second then .error (.sameFlag declaration)
    else .ok { on := given first, off := given second }
  else .ok { on := some declaration }

/-- The argument that is declared under a name. -/
def Parameter.declareArgument (name : String) : Parameter :=
  .argument (String.ofList (Text.lowerCase (name.toList.map fun c => if c == '-' then '_' else c)))

/-- The option that is declared under a name. An option that can be turned off is a switch, unless
it is said not to be, which is a fault. The default of an option with several values has to have
items. -/
def Parameter.declareOption (name : String) (declarations : List String) (default : Option Value)
    (isSwitch : Option Bool) (isRepeated : Bool) : Except DeclarationFault Parameter := do
  let pairs ← declarations.mapM FlagPair.ofDeclaration
  let on := pairs.filterMap (·.on)
  let off := pairs.filterMap (·.off)
  if on.isEmpty && off.isEmpty then .error (.noFlags name)
  let hasItems := match default with
    | none | some .null => true
    | some (.text _) => false
    | some value => value.items?.isSome
  if isRepeated && !hasItems then .error .defaultNotList
  let isSwitch := isSwitch.getD (!off.isEmpty)
  if !isSwitch && !off.isEmpty then .error .notSwitch
  return .option name on (default.getD (if isSwitch then .bool false else .null))
    isSwitch isRepeated

/-- What is wrong with the words of a command. -/
inductive UsageError where
  /-- A flag that no option has, and those that may have been meant. -/
  | unknownFlag (flag : String) (similar : List String)
  | missingValue (flag : String)
  | unexpectedValue (flag : String)
  | missingArgument (shown : String)
  | invalidValue (shown detail : String)
  | extraArguments (words : List String)
  deriving DecidableEq, Repr

namespace UsageError

/-- The question whether other flags were meant. -/
def question (similar : List String) : String :=
  match similar.map Text.quoted with
  | [] => ""
  | [flag] => s!" Did you mean {flag}?"
  | flags => " (Did you mean one of: " ++ ", ".intercalate flags ++ "?)"

/-- The wording of an error. -/
def message : UsageError → String
  | unknownFlag flag similar => s!"No such option {Text.quoted flag}." ++ question similar
  | missingValue flag => s!"Option {Text.quoted flag} requires an argument."
  | unexpectedValue flag => s!"Option {Text.quoted flag} does not take a value."
  | missingArgument shown => s!"Missing argument {shown}."
  | invalidValue shown detail => s!"Invalid value for {shown}: {detail}"
  | extraArguments words =>
    "Got unexpected extra argument" ++ (if words.length = 1 then "" else "s") ++
      " (" ++ " ".intercalate words ++ ")"

/-- Is the usage of the command shown with the error? Not if a flag lacks a value or has one too
many. -/
def showsUsage : UsageError → Bool
  | missingValue _ | unexpectedValue _ => false
  | _ => true

end UsageError

/-! ## Reading words -/

/-- The words of a command in parts: the options in order, each with its value, and the other
words. -/
structure Words where
  options : List (String × Option String) := []
  arguments : List String := []
  deriving DecidableEq, Repr

/-- The option with a flag. -/
def findFlag? (parameters : List Parameter) (flag : String) : Option Parameter :=
  parameters.find? fun parameter => parameter.flags.contains flag

/-- A word at its first equals sign. -/
def splitValue (word : List Char) : String × Option String :=
  (String.ofList (word.takeWhile (· != '=')),
   match word.dropWhile (· != '=') with
   | [] => none
   | _ :: value => some (String.ofList value))

/-- The options in a word of one-letter flags. The flag of the last one is returned too if its value
has to be the next word. -/
def readLetters (parameters : List Parameter) :
    List Char → Except UsageError (List (String × Option String) × Option (String × String))
  | [] => .ok ([], none)
  | letter :: rest =>
    let flag := String.ofList ['-', letter]
    match findFlag? parameters flag with
    | none => .error (.unknownFlag flag [])
    | some parameter =>
      if parameter.takesValue then
        if rest.isEmpty then .ok ([], some (parameter.name, flag))
        else .ok ([(parameter.name, some (String.ofList rest))], none)
      else do
        let (options, unfinished) ← readLetters parameters rest
        return ((parameter.name, none) :: options, unfinished)

/-- Is the word a flag of two dashes? -/
def isLongFlag (word : List Char) : Bool := ['-', '-'].isPrefixOf word

/-- The flags of two dashes that are close to a flag. -/
def similarFlags (parameters : List Parameter) (flag : String) : List String :=
  Text.closestTexts flag
    ((parameters.flatMap Parameter.flags).filter fun other => isLongFlag other.toList)

/-- The options in a word that starts with a dash. -/
def readFlags (parameters : List Parameter) (word : List Char) :
    Except UsageError (List (String × Option String) × Option (String × String)) :=
  let (flag, value) := splitValue word
  let isLong := isLongFlag word
  match if isLong then findFlag? parameters flag else none with
  | some parameter =>
    match parameter.takesValue, value with
    | true, some value => .ok ([(parameter.name, some value)], none)
    | true, none => .ok ([], some (parameter.name, flag))
    | false, some _ => .error (.unexpectedValue flag)
    | false, none => .ok ([(parameter.name, none)], none)
  | none =>
    if isLong then .error (.unknownFlag flag (similarFlags parameters flag))
    else readLetters parameters word.tail

/-- Sort the words of a command into options and arguments. -/
def readWords (parameters : List Parameter) : List String → Except UsageError Words
  | [] => .ok {}
  | word :: rest =>
    if word == "--" then .ok { arguments := rest }
    else if word.toList.head? == some '-' && word.length > 1 then
      match readFlags parameters word.toList with
      | .error error => .error error
      | .ok (options, none) =>
        (readWords parameters rest).map fun words =>
          { words with options := options ++ words.options }
      | .ok (options, some (name, flag)) =>
        match rest with
        | [] => .error (.missingValue flag)
        | value :: rest =>
          (readWords parameters rest).map fun words =>
            { words with options := options ++ (name, some value) :: words.options }
    else
      (readWords parameters rest).map fun words =>
        { words with arguments := word :: words.arguments }

namespace Words

/-- Is an option given? -/
def has (words : Words) (name : String) : Bool := words.options.any (·.1 == name)

/-- The values of an option. -/
def values (words : Words) (name : String) : List String :=
  words.options.filterMap fun (other, value) => if other == name then value else none

/-- The last value of an option. -/
def last? (words : Words) (name : String) : Option String := (words.values name).getLast?

/-- The options that are given, in the order in which they come first. -/
def order (words : Words) : List String := (words.options.map (·.1)).eraseDups

end Words

end SchemaCompiler.Command
