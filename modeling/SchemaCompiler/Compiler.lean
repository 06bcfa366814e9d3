import SchemaCompiler.Document.Loading
import SchemaCompiler.Schema.Resolution
import SchemaCompiler.Settings
import SchemaCompiler.Target.Generation

/-!
# Compiling documents

A document is compiled in stages: find its declarations, collect them, resolve their bodies, compile
their constraints, and render the type graph as units.
-/

namespace SchemaCompiler

open Document (Node)
open Schema (Failure Logged TypeGraph)
open Target (Language OutputUnit)

/-- A schema compiler: the settings, the language they asked for when the compiler was made, and the
command line that is shown in generated code. -/
structure Compiler where
  settings : Settings
  language : Language
  commandLine : String := ""

namespace Compiler

/-- The compiler for settings, which are checked. -/
def make (settings : Settings) (commandLine : String) : Except SettingsFault Compiler :=
  settings.validate.map fun language => { settings, language, commandLine }

/-- Name the document in the failure of a computation. -/
def within {α : Type} (document : String) (computation : Logged α) : Logged α :=
  tryCatchThe Failure computation fun failure => throw (failure.within document)

/-- The type graph of a document. -/
def compile (compiler : Compiler) (name : String) (root : Option Node) : Logged TypeGraph :=
  within name do
    let (_, entries) ← Logged.ofExcept (Schema.findSection root compiler.settings.sectionPath)
    let (graph, pending) ← Schema.analyze name entries
    Schema.attachAll (compiler.settings.constraintRules compiler.language) graph pending

/-- The comment at the start of the units of a document. -/
def comment (compiler : Compiler) (document : String) : String :=
  s!"Generated by yaml_schema_to_code from {document}" ++
    (if compiler.commandLine.isEmpty then "" else s!"\nCommand: {compiler.commandLine}")

/-- The units of a document, where imports have been gathered for other documents before. -/
def generateFrom (gathered : Target.Python.Gathered) (compiler : Compiler) (name : String)
    (root : Option Node) : Logged (List OutputUnit) := do
  let graph ← compiler.compile name root
  let style := compiler.settings.style compiler.language
  let units ← within name
    (Logged.ofExcept (Target.generateFrom gathered style graph (compiler.comment name)))
  Logged.note (.generated name units.length)
  return units

/-- The units of a document. -/
def generate (compiler : Compiler) (name : String) (root : Option Node) :
    Logged (List OutputUnit) :=
  compiler.generateFrom {} name root

/-- The units of a document with a name and a text. -/
def generateText (compiler : Compiler) (name : String) (text : List Char) :
    Logged (List OutputUnit) := do
  let root ← Logged.ofExcept (Document.load name text)
  compiler.generate name (some root)

end Compiler

end SchemaCompiler
