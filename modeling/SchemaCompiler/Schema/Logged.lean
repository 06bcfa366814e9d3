import SchemaCompiler.Log
import SchemaCompiler.Schema.Failure

/-!
# Computations with a log

A computation can fail, and it records log entries on the way. The entries recorded before a failure
are kept.
-/

namespace SchemaCompiler.Schema

/-- A computation that can fail and records log entries. -/
abbrev Logged := ExceptT Failure (StateM Log)

namespace Logged

/-- Record an entry. -/
def note (entry : LogEntry) : Logged Unit := modify (· ++ [entry])

/-- A computation without entries. -/
def ofExcept {α : Type} (result : Except Failure α) : Logged α := ExceptT.mk (pure result)

/-- A computation without entries that fails with errors only. -/
def ofResult {α : Type} (result : Except Error α) : Logged α :=
  ofExcept (result.mapError .error)

/-- The outcome of a computation and the entries it recorded. -/
def outcome {α : Type} (computation : Logged α) : Except Failure α × Log := computation.run []

end Logged

end SchemaCompiler.Schema
