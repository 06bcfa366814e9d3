/-!
# Log entries

What happens on the way is recorded as entries of a log, each with a level, a source and a message.
-/

namespace SchemaCompiler

/-- How important a log entry is. -/
inductive Level where
  | debug
  | info
  | warning
  | error
  deriving DecidableEq, Repr

/-- The name of a level. -/
def Level.name : Level → String
  | debug => "DEBUG"
  | info => "INFO"
  | warning => "WARNING"
  | error => "ERROR"

/-- Is the level at least that of a warning? -/
def Level.isSerious : Level → Bool
  | debug | info => false
  | warning | error => true

/-- Something that happened. Values are given in the form in which messages show them. -/
inductive LogEntry where
  | loading (path : String)
  | collected (declarations pending : Nat)
  | synthesized (type declaration path : String)
  | resolved (types : Nat)
  | droppedPattern (shown declaration field : String)
  | compiledConstraints (fields : Nat)
  | generated (document : String) (units : Nat)
  | skippedDocument (document error : String)
  | keptFile (path : String)
  | wroteFile (path : String)
  | wroteSupportFile (path : String)
  | nothingFound (extension directory : String)
  | finished (files documents total : Nat)
  deriving DecidableEq, Repr

namespace LogEntry

/-- The level of an entry. -/
def level : LogEntry → Level
  | loading _ | collected _ _ | synthesized _ _ _ | resolved _ | compiledConstraints _ |
      generated _ _
  | wroteSupportFile _ => .debug
  | wroteFile _ | finished _ _ _ => .info
  | droppedPattern _ _ _ | keptFile _ | nothingFound _ _ => .warning
  | skippedDocument _ _ => .error

/-- The name under which an entry is logged. -/
def source : LogEntry → String
  | loading _ => "yaml_schema_to_code.pipeline.schema_ast.loader"
  | collected _ _ => "yaml_schema_to_code.pipeline.analyzer.anchor_collector"
  | synthesized _ _ _ | resolved _ => "yaml_schema_to_code.pipeline.analyzer.type_resolver"
  | droppedPattern _ _ _ | compiledConstraints _ =>
    "yaml_schema_to_code.pipeline.analyzer.constraint_compiler"
  | generated _ _ | skippedDocument _ _ => "yaml_schema_to_code.pipeline.generator"
  | keptFile _ | wroteFile _ | wroteSupportFile _ => "yaml_schema_to_code.pipeline.output.sink"
  | nothingFound _ _ | finished _ _ _ => "yaml_schema_to_code.yaml_schema_to_code"

/-- The message of an entry. -/
def message : LogEntry → String
  | loading path => s!"Loading schema document: {path}"
  | collected declarations pending =>
    s!"Collected {declarations} declarations, {pending} pending aliases"
  | synthesized type declaration path => s!"Synthesized type {type} for {declaration}.{path}"
  | resolved types => s!"Resolved {types} named types"
  | droppedPattern shown declaration field =>
    s!"Dropping unknown validation pattern {shown} on {declaration}.{field}"
  | compiledConstraints fields => s!"Compiled constraints for {fields} fields"
  | generated document units => s!"{document}: {units} units"
  | skippedDocument document error => s!"Skipping {document}: {error}"
  | keptFile path => s!"Skipping existing file {path}"
  | wroteFile path => s!"Wrote {path}"
  | wroteSupportFile path => s!"Wrote support file {path}"
  | nothingFound extension directory => s!"No .{extension} files found in {directory}"
  | finished files documents total => s!"Wrote {files} files from {documents} of {total} documents"

/-- The line of an entry in the log. -/
def line (entry : LogEntry) : String := s!"{entry.level.name} {entry.source}: {entry.message}"

end LogEntry

/-- A log: what happened, in order. -/
abbrev Log := List LogEntry

end SchemaCompiler
