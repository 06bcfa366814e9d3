import Mathlib.Init

/-!
# Rules for operations on a state

An operation changes a state and returns or fails, and what it has done before a failure stays done.
`Ends` says what holds of the value and the state where it returns, and of the state where it fails.
The rules follow an operation step by step, so that what a sequence of steps leaves behind is known
from what each step does.
-/

namespace SchemaCompiler

variable {ε σ α β : Type}

/-- An operation from a state ends in a value and a state of some kind, or fails in a state of some
kind. -/
def Ends (operation : ExceptT ε (StateM σ) α) (before : σ) (returns : α → σ → Prop)
    (fails : σ → Prop) : Prop :=
  match operation.run.run before with
  | (.ok value, after) => returns value after
  | (.error _, after) => fails after

theorem run_get_bind (next : σ → ExceptT ε (StateM σ) α) (before : σ) :
    (get >>= next).run.run before = (next before).run.run before := rfl

theorem run_ofExcept (result : Except ε α) (before : σ) :
    (MonadExcept.ofExcept result : ExceptT ε (StateM σ) α).run.run before = (result, before) := by
  cases result <;> rfl

theorem run_bind {operation : ExceptT ε (StateM σ) α} {next : α → ExceptT ε (StateM σ) β}
    (before : σ) :
    (operation >>= next).run.run before =
      ExceptT.bindCont next (operation.run.run before).1 (operation.run.run before).2 := rfl

theorem run_bind_ok {operation : ExceptT ε (StateM σ) α} {next : α → ExceptT ε (StateM σ) β}
    {before after : σ} {value : α} (ran : operation.run.run before = (.ok value, after)) :
    (operation >>= next).run.run before = (next value).run.run after := by
  rw [run_bind, ran]
  rfl

theorem run_bind_error {operation : ExceptT ε (StateM σ) α} {next : α → ExceptT ε (StateM σ) β}
    {before after : σ} {failure : ε} (ran : operation.run.run before = (.error failure, after)) :
    (operation >>= next).run.run before = (.error failure, after) := by
  rw [run_bind, ran]
  rfl

namespace Ends

variable {operation : ExceptT ε (StateM σ) α} {next : α → ExceptT ε (StateM σ) β} {before : σ}
  {returns : α → σ → Prop} {fails : σ → Prop}

theorem pure {value : α} (here : returns value before) :
    Ends (pure value : ExceptT ε (StateM σ) α) before returns fails := here

theorem throw {failure : ε} (here : fails before) :
    Ends (throw failure : ExceptT ε (StateM σ) α) before returns fails := here

theorem get {returns : σ → σ → Prop} (here : returns before before) :
    Ends (get : ExceptT ε (StateM σ) σ) before returns fails := here

theorem modify {returns : Unit → σ → Prop} {change : σ → σ} (here : returns () (change before)) :
    Ends (modify change : ExceptT ε (StateM σ) Unit) before returns fails := here

/-- A run that returned has what is known of values. -/
theorem value (ends : Ends operation before returns fails) {value : α} {after : σ}
    (ran : operation.run.run before = (.ok value, after)) : returns value after := by
  rw [Ends, ran] at ends
  exact ends

/-- A run that returns can be told by its value. -/
theorem exists_run_eq {value : α} (returned : (operation.run.run before).1.toOption = some value) :
    ∃ after, operation.run.run before = (.ok value, after) := by
  generalize operation.run.run before = run at returned ⊢
  obtain ⟨result, after⟩ := run
  cases result with
  | error failure => cases returned
  | ok found =>
      cases returned
      exact ⟨after, rfl⟩

/-- The state after a run, whether it returned or failed. -/
theorem state {holds : σ → Prop} (ends : Ends operation before (fun _ => holds) holds) :
    holds (operation.run.run before).2 := by
  unfold Ends at ends
  split at ends
  next ran =>
    rw [ran]
    exact ends
  next ran =>
    rw [ran]
    exact ends

theorem mono {returns' : α → σ → Prop} {fails' : σ → Prop}
    (ends : Ends operation before returns fails)
    (onValue : ∀ value after, returns value after → returns' value after)
    (onFailure : ∀ after, fails after → fails' after) : Ends operation before returns' fails' := by
  unfold Ends at ends ⊢
  split at ends
  · exact onValue _ _ ends
  · exact onFailure _ ends

/-- A second operation starts from what the first one has returned and left behind. -/
theorem bind {returns : β → σ → Prop}
    (first : Ends operation before
      (fun value after => Ends (next value) after returns fails) fails) :
    Ends (operation >>= next) before returns fails := by
  unfold Ends at first ⊢
  split at first
  next ran =>
    rw [run_bind_ok ran]
    exact first
  next ran =>
    rw [run_bind_error ran]
    exact first

theorem run_tryCatch_ok {handle : ε → ExceptT ε (StateM σ) α} {value : α} {after : σ}
    (ran : operation.run.run before = (.ok value, after)) :
    (tryCatchThe ε operation handle).run.run before = (.ok value, after) := by
  have ran : operation before = (.ok value, after) := ran
  show ExceptT.tryCatch operation handle before = _
  unfold ExceptT.tryCatch ExceptT.mk
  show StateT.bind operation _ before = _
  unfold StateT.bind
  rw [ran]
  rfl

theorem run_tryCatch_error {handle : ε → ExceptT ε (StateM σ) α} {failure : ε} {after : σ}
    (ran : operation.run.run before = (.error failure, after)) :
    (tryCatchThe ε operation handle).run.run before = (handle failure).run.run after := by
  have ran : operation before = (.error failure, after) := ran
  show ExceptT.tryCatch operation handle before = _
  unfold ExceptT.tryCatch ExceptT.mk
  show StateT.bind operation _ before = _
  unfold StateT.bind
  rw [ran]
  rfl

/-- What handles a failure starts from what is left behind by it. -/
theorem tryCatch {handle : ε → ExceptT ε (StateM σ) α}
    (first : Ends operation before returns fun after =>
      ∀ failure, Ends (handle failure) after returns fails) :
    Ends (tryCatchThe ε operation handle) before returns fails := by
  unfold Ends at first ⊢
  split at first
  next ran =>
    rw [run_tryCatch_ok ran]
    exact first
  next ran =>
    rw [run_tryCatch_error ran]
    exact first _

/-- Each branch of a condition is taken where the condition holds, or where it does not. -/
theorem byCases {condition : Prop} [Decidable condition] {other : ExceptT ε (StateM σ) α}
    (first : condition → Ends operation before returns fails)
    (second : ¬condition → Ends other before returns fails) :
    Ends (if condition then operation else other) before returns fails := by
  split
  next true => exact first true
  next false => exact second false

end Ends

end SchemaCompiler
