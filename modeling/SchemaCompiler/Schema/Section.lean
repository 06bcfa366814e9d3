import SchemaCompiler.Schema.Failure

/-!
# The section of declarations

The declarations of a document stand under a path of keys. The path is a setting, so it can have
steps that are no keys, or not be a path at all; that shows when the step is taken.
-/

namespace SchemaCompiler.Schema

open Document (Node Entries)

/-- A step of a path. -/
inductive PathStep where
  | key (name : String)
  /-- Not a text but a value of another type. -/
  | other (type : String)
  deriving DecidableEq, Repr

/-- The path to the declarations. -/
inductive SectionPath where
  | steps (steps : List PathStep)
  /-- A mapping with entries: it can be gone through but not be cut. -/
  | mapping
  /-- A set with members: it can be gone through but not be cut. -/
  | set
  /-- Not a list but a value of another type. -/
  | other (type : String)
  /-- The setting has been taken away. -/
  | missing
  deriving DecidableEq, Repr

/-- The path through some keys in words. -/
def pathText (keys : List String) : String := ".".intercalate keys

/-- The node under some steps, of which `passed` have been taken. -/
def findSteps (passed : List String) (node : Node) :
    List PathStep → Except Failure (List String × Node)
  | [] => .ok (passed, node)
  | .other type :: _ => .error (.fault (.pathStepNotText passed.length type))
  | .key name :: rest =>
    let keys := passed ++ [name]
    match node with
    | .mapping _ entries =>
      match Entries.get? entries name with
      | some child => findSteps keys child rest
      | none => fail (.missingSection (pathText keys)) {}
    | node => failAt node (.lookupInNonMapping (pathText keys)) {}

/-- The declarations of a document: the line of their section and its entries. -/
def findSection (root : Option Node) (path : SectionPath) : Except Failure (Int × Entries) := do
  if path = .missing then .error (.fault .pathMissing)
  match root with
  | some (.mapping line entries) =>
    let root := Node.mapping line entries
    let (keys, node) ←
      match path with
      | .steps steps => findSteps [] root steps
      | .mapping => .error (.fault .pathNotSliceable)
      | .set => .error (.fault .pathNotOrdered)
      | .other type => .error (.fault (.pathNotIterable type))
      | .missing => .error (.fault .pathMissing)
    match node with
    | .mapping line entries => return (line, entries)
    | node => failAt node (.sectionNotMapping (pathText keys)) {}
  | root => fail .rootNotMapping { line := root.bind Node.line? }

end SchemaCompiler.Schema
