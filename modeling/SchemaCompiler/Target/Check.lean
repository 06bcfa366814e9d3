import SchemaCompiler.Target.Check.Kotlin
import SchemaCompiler.Target.Check.Python
import SchemaCompiler.Text.Utf8

/-!
# Checking units before they are written

A unit is checked for its language before it is written, so that nothing broken reaches the output
directory.
-/

namespace SchemaCompiler.Target

/-- What is wrong with a unit. -/
inductive CheckFault where
  | invalidPython
  /-- Halves of characters, which no Python text can have. -/
  | unencodable (fault : Text.EncodeFault)
  /-- A character that no Python text can have. -/
  | zeroCharacter
  | missingPackage
  | unbalanced (opening closing : Char) (opened closed : Nat)
  deriving DecidableEq, Repr

/-- The wording of a fault. -/
def CheckFault.message : CheckFault → String
  | invalidPython => "Generated Python code is not valid"
  | unencodable fault => fault.message
  | zeroCharacter => "source code string cannot contain null bytes"
  | missingPackage => "Generated Kotlin code is missing package declaration"
  | unbalanced opening closing opened closed =>
    let pair := String.ofList [opening, closing]
    s!"Generated Kotlin code has unbalanced '{pair}': {opened} open, {closed} close"

/-- Check a Python unit. -/
def checkPython (text : List Char) : Except CheckFault Unit :=
  match Text.encodeFault? text with
  | some fault => .error (.unencodable fault)
  | none =>
    if text.contains (Char.ofNat 0) then .error .zeroCharacter
    else if PythonShape.accepts text then .ok ()
    else .error .invalidPython

/-- Check a Kotlin unit. -/
def checkKotlin (text : List Char) : Except CheckFault Unit :=
  if KotlinBrackets.hasPackage text then
    match KotlinBrackets.unbalanced? (KotlinBrackets.code text) with
    | none => .ok ()
    | some ((opening, closing), opened, closed) =>
      .error (.unbalanced opening closing opened closed)
  else .error .missingPackage

/-- Check a unit for its language. -/
def check : Language → List Char → Except CheckFault Unit
  | .python, text => checkPython text
  | .kotlin, text => checkKotlin text

end SchemaCompiler.Target
