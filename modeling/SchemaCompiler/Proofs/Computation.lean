import SchemaCompiler.Proofs.SymbolTable
import SchemaCompiler.Schema.Resolution

/-!
# What computations give

The log of a computation never decides what it gives. A computation gives a result if it does so
after every log, and a step of resolving gives a result and a new resolution. The rules below take a
computation apart at its first step; with them the steps are read off one by one, and the log is not
mentioned again.
-/

namespace SchemaCompiler.Schema

namespace Logged

/-- What a computation gives, whatever was recorded before it. -/
def Gives {α : Type} (computation : Logged α) (result : Except Failure α) : Prop :=
  ∀ log, (computation.run log).1 = result

variable {α β : Type} {computation : Logged α} {next : α → Logged β} {result : Except Failure β}

theorem Gives.outcome_eq {result : Except Failure α} (gives : computation.Gives result) :
    computation.outcome.1 = result := gives []

theorem Gives.bind_ok {value : α} (first : computation.Gives (.ok value))
    (second : (next value).Gives result) : (computation >>= next).Gives result := by
  intro log
  have given := first log
  show ((ExceptT.bindCont next (computation.run log).1) (computation.run log).2).1 = result
  rw [given]
  exact second _

theorem Gives.bind_error {failure : Failure} (first : computation.Gives (.error failure)) :
    (computation >>= next).Gives (.error failure) := by
  intro log
  have given := first log
  show ((ExceptT.bindCont next (computation.run log).1) (computation.run log).2).1 = _
  rw [given]
  rfl

/-- One computation after the other gives one result after the other. -/
theorem Gives.bind {first : Except Failure α} {second : α → Except Failure β}
    (given : computation.Gives first)
    (rest : ∀ value, first = .ok value → (next value).Gives (second value)) :
    (computation >>= next).Gives (first >>= second) := by
  cases first with
  | error failure => exact given.bind_error
  | ok value => exact given.bind_ok (rest value rfl)

/-- A computation that returns has returned from its first step. -/
theorem run_bind_eq_ok {log : Log} {output : β}
    (done : ((computation >>= next).run log).1 = .ok output) :
    ∃ value between, (computation.run log).1 = .ok value ∧
      ((next value).run between).1 = .ok output := by
  have done : (ExceptT.bindCont next (computation.run log).1 (computation.run log).2).1 =
    .ok output := done
  cases first : (computation.run log).1 with
  | error failure =>
      rw [first] at done
      cases done
  | ok value =>
      rw [first] at done
      exact ⟨value, _, rfl, done⟩

theorem gives_pure (value : α) : (pure value : Logged α).Gives (.ok value) := fun _ => rfl

theorem gives_ofExcept (result : Except Failure α) : (ofExcept result).Gives result := fun _ => rfl

theorem gives_ofResult (result : Except Error α) :
    (ofResult result).Gives (result.mapError .error) := fun _ => rfl

theorem gives_note (entry : LogEntry) : (note entry).Gives (.ok ()) := fun _ => rfl

end Logged

namespace Resolve

variable {α β : Type} {step : Resolve α} {next : α → Resolve β} {before after : Resolution}
  {result : Except Failure (β × Resolution)}

/-- What a step gives and the resolution after it, whatever was recorded before it. -/
def Gives (step : Resolve α) (before : Resolution) (result : Except Failure (α × Resolution)) :
    Prop :=
  (step.run before).Gives result

theorem Gives.bind_ok {value : α} (first : step.Gives before (.ok (value, after)))
    (second : (next value).Gives after result) : (step >>= next).Gives before result :=
  Logged.Gives.bind_ok first second

theorem Gives.bind_error {failure : Failure} (first : step.Gives before (.error failure)) :
    (step >>= next).Gives before (.error failure) :=
  Logged.Gives.bind_error first

/-- Reading a document and placing what was read, one part after the other. -/
theorem Gives.bind {α β γ δ : Type} {step : Resolve α} {next : α → Resolve β}
    {before : Resolution} {read : Except Failure γ} {place : γ → α × Resolution}
    {readNext : γ → Except Failure δ} {placeNext : δ → β × Resolution}
    (first : step.Gives before (read.map place))
    (second : ∀ value, read = .ok value →
      (next (place value).1).Gives (place value).2 ((readNext value).map placeNext)) :
    (step >>= next).Gives before ((read >>= readNext).map placeNext) := by
  cases read with
  | error failure => exact Gives.bind_error first
  | ok value => exact Gives.bind_ok first (second value rfl)

/-- Reading a part of a document and placing it in two steps. -/
theorem Gives.bind_map {γ : Type} {read : Except Failure γ} {place : γ → α × Resolution}
    {finish : γ → β × Resolution} (first : step.Gives before (read.map place))
    (second : ∀ value, (next (place value).1).Gives (place value).2 (.ok (finish value))) :
    (step >>= next).Gives before (read.map finish) := by
  cases read with
  | error failure => exact Gives.bind_error first
  | ok value => exact Gives.bind_ok first (second value)

theorem gives_pure (value : α) (before : Resolution) :
    (pure value : Resolve α).Gives before (.ok (value, before)) := fun _ => rfl

theorem gives_get (before : Resolution) :
    (get : Resolve Resolution).Gives before (.ok (before, before)) := fun _ => rfl

theorem gives_ofExcept (result : Except Failure α) (before : Resolution) :
    (ofExcept result).Gives before (result.map (·, before)) := by
  intro log
  cases result <;> rfl

theorem gives_ofTable (look : SymbolTable → Except Error α) (before : Resolution) :
    (ofTable look).Gives before (((look before.table).mapError .error).map (·, before)) := by
  intro log
  show (((Logged.ofResult (look before.table) >>= fun value => pure (value, before)) :
    Logged (α × Resolution)).run log).1 = _
  cases look before.table <;> rfl

theorem gives_rejectAt {α β : Type} (node : Document.Node) (cause : Cause) (location : Location)
    (before : Resolution) (place : β → α × Resolution) :
    (rejectAt node cause location).Gives before ((failAt node cause location).map place) := by
  intro log
  unfold rejectAt failAt
  cases node.line? <;> rfl

theorem gives_setBody (id : Nat) (body : Body) (before : Resolution) :
    (setBody id body).Gives before
      (.ok ((), { before with table := before.table.setBody id body })) :=
  fun _ => rfl

theorem gives_defer (pending : Pending) (before : Resolution) :
    (defer pending).Gives before
      (.ok ((), { before with pending := before.pending ++ [pending] })) :=
  fun _ => rfl

/-- A type for an object without a name is always registered: its name is free. -/
theorem gives_synthesize (baseName declaration path : String) (before : Resolution) :
    (synthesize baseName declaration path).Gives before
      (.ok (before.table.types.length,
        { before with table := before.table.addObject baseName [] })) := by
  have registered : (liftM (Logged.ofResult (before.table.register
      { name := before.table.uniqueName (Naming.typeName baseName)
        sourceName := baseName
        body := .object true [] })) : Resolve SymbolTable).Gives before
      (.ok (before.table.addObject baseName [], before)) := by
    intro log
    rw [SymbolTable.register_uniqueName]
    rfl
  exact (gives_get before).bind_ok (registered.bind_ok fun _ => rfl)

end Resolve

end SchemaCompiler.Schema
