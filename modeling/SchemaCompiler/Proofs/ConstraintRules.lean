import SchemaCompiler.Proofs.Compilation

/-!
# Constraints under other rules

Two things can only refuse constraints: the strictness about unknown patterns and the check of
regular expressions. So constraints that compile do so under all rules that ask for less, to the
same directives. Where the property stands is told in errors and in the log, and changes nothing
either.
-/

namespace SchemaCompiler.Schema

open Document (Node)

namespace Logged

variable {α β : Type}

/-- Computations that succeed wherever another one does, with the same value. -/
def Follows (other computation : Logged α) : Prop :=
  ∀ log value, (computation.run log).1 = .ok value → other.Gives (.ok value)

theorem Determined.follows {computation : Logged α} (determined : computation.Determined) :
    computation.Follows computation := by
  intro log value done
  rw [← done, determined log]
  exact determined

theorem Follows.bind {computation other : Logged α} {next otherNext : α → Logged β}
    (first : other.Follows computation) (second : ∀ value, (otherNext value).Follows (next value)) :
    (other >>= otherNext).Follows (computation >>= next) := by
  intro log output done
  obtain ⟨value, between, ran, rest⟩ := run_bind_eq_ok done
  exact (first log value ran).bind_ok (second value between output rest)

end Logged

open Logged

/-- Rules that ask for nothing that other rules do not ask for. -/
structure ConstraintRules.AtMost (looser rules : ConstraintRules) : Prop where
  strict : looser.strict = true → rules.strict = true
  checkRegex : looser.checkRegex = true → rules.checkRegex = true

theorem ConstraintRules.AtMost.refl (rules : ConstraintRules) : rules.AtMost rules := ⟨id, id⟩

variable {looser rules : ConstraintRules}

theorem compileLength_elsewhere {predicate : Predicate} {location : Location}
    {argument : Option Node} {directive : Directive}
    (done : compileLength predicate location argument = .ok directive) (other : Location) :
    compileLength predicate other argument = .ok directive := by
  unfold compileLength at done ⊢
  split at done
  · split at done
    next nonnegative => exact (if_pos nonnegative).trans done
    · obtain ⟨shown, _, done⟩ := bind_eq_ok done
      exact absurd done fail_ne_ok
  · obtain ⟨shown, _, done⟩ := bind_eq_ok done
    exact absurd done fail_ne_ok

theorem checkRegex_elsewhere {location : Location} {text : String}
    (done : checkRegex location text = .ok ()) (other : Location) :
    checkRegex other text = .ok () := by
  unfold checkRegex at done ⊢
  split at done
  · rfl
  · exact absurd done fail_ne_ok
  · cases done

theorem compileRegex_of_atMost (atMost : looser.AtMost rules) {location : Location}
    {argument : Option Node} {directive : Directive}
    (done : compileRegex rules location argument = .ok directive) (other : Location) :
    compileRegex looser other argument = .ok directive := by
  unfold compileRegex at done ⊢
  split at done
  next line text isText =>
    dsimp only at done ⊢
    by_cases checked : looser.checkRegex = true
    · rw [if_pos (atMost.checkRegex checked)] at done
      obtain ⟨_, passed, done⟩ := bind_eq_ok done
      rw [if_pos checked, checkRegex_elsewhere passed other]
      exact done
    · rw [if_neg checked]
      split at done
      · obtain ⟨_, _, done⟩ := bind_eq_ok done
        exact done
      · exact done
  · obtain ⟨shown, _, done⟩ := bind_eq_ok done
    exact absurd done fail_ne_ok

theorem compilePredicate_of_atMost (atMost : looser.AtMost rules) {location : Location}
    {argument : Option Node} {predicate : Predicate} {directive : Directive}
    (done : compilePredicate rules location argument predicate = .ok directive) (other : Location) :
    compilePredicate looser other argument predicate = .ok directive := by
  cases predicate with
  | isAlpha | isNumeric => exact done
  | minLength | maxLength => exact compileLength_elsewhere done other
  | regex => exact compileRegex_of_atMost atMost done other

theorem compileEntry_follows (atMost : looser.AtMost rules) (path other : PropertyPath)
    (entry : Node) :
    (compileEntry looser other entry).Follows (compileEntry rules path entry) := by
  cases entry with
  | absent | scalar | sequence =>
      intro log value done
      simp only [compileEntry, gives_ofExcept _ log] at done
      exact absurd done failAt_ne_ok
  | mapping line entries =>
      rw [compileEntry, compileEntry]
      split
      · refine Follows.bind ?_ fun _ => (determined_pure _).follows
        intro log directive done
        exact fun _ => compilePredicate_of_atMost atMost done _
      · refine (determined_ofExcept _).follows.bind fun shown => ?_
        intro log value done
        split at done
        next => exact absurd done fail_ne_ok
        next lenient =>
          obtain ⟨_, _, _, done⟩ := run_bind_eq_ok done
          rw [if_neg (mt atMost.strict lenient)]
          exact (gives_note _).bind_ok fun _ => done

theorem compileEntries_follows (atMost : looser.AtMost rules) (path other : PropertyPath)
    (entries : List Node) :
    (compileEntries looser other entries).Follows (compileEntries rules path entries) := by
  induction entries with
  | nil => exact (determined_pure _).follows
  | cons entry rest ih =>
      exact (compileEntry_follows atMost path other entry).bind fun _ => ih.bind fun _ =>
        (determined_pure _).follows

/-- Constraints that compile do so for any other property, and under all rules that ask for less. -/
theorem compileConstraints_follows (atMost : looser.AtMost rules) (path other : PropertyPath)
    (node : Option Node) :
    (compileConstraints looser other node).Follows (compileConstraints rules path node) := by
  unfold compileConstraints
  split
  · exact (determined_pure _).follows
  · exact (determined_pure _).follows
  · exact compileEntries_follows atMost path other _
  · exact fun log value done => absurd done failAt_ne_ok

theorem attachAll_follows (atMost : looser.AtMost rules) (graph : TypeGraph)
    (pending : List Pending) :
    (attachAll looser graph pending).Follows (attachAll rules graph pending) := by
  have attached : (attach looser graph pending).Follows (attach rules graph pending) := by
    induction pending generalizing graph with
    | nil => exact (determined_pure _).follows
    | cons one rest ih => exact (compileConstraints_follows atMost _ _ _).bind fun _ => ih _
  exact attached.bind fun _ => ((determined_note _).bind fun _ => determined_pure _).follows

end SchemaCompiler.Schema
