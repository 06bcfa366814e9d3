import SchemaCompiler.Batch
import SchemaCompiler.Proofs.Analysis
import SchemaCompiler.Proofs.Generation

/-!
# The stages of compiling

A document is found, analysed, given its constraints and rendered. None of these stages looks at
what was recorded before it, so the result of each can be spoken of on its own
(`Logged.Determined`), and a document that generates units has passed every stage with the result of
the one before.
-/

namespace SchemaCompiler

open Document (Node)
open FileSystem (Path)
open Schema (Failure Logged Pending TypeGraph bind_eq_ok)
open Target (OutputUnit)

namespace Schema

namespace Logged

variable {α β : Type} {computation : Logged α} {next : α → Logged β}

/-- Computations whose result does not depend on what was recorded before. -/
def Determined (computation : Logged α) : Prop := computation.Gives computation.outcome.1

theorem Gives.determined {result : Except Failure α} (gives : computation.Gives result) :
    computation.Determined := by
  rw [Determined, gives.outcome_eq]
  exact gives

/-- Two computations, one after the other, give their results one after the other. -/
theorem Determined.gives_bind (first : computation.Determined)
    (second : ∀ value, (next value).Determined) :
    (computation >>= next).Gives (computation.outcome.1 >>= fun value => (next value).outcome.1) :=
  Gives.bind first fun value _ => second value

theorem Determined.bind (first : computation.Determined)
    (second : ∀ value, (next value).Determined) :
    (computation >>= next).Determined := (first.gives_bind second).determined

theorem determined_pure (value : α) : (pure value : Logged α).Determined :=
  (gives_pure value).determined

theorem determined_ofExcept (result : Except Failure α) : (ofExcept result).Determined :=
  (gives_ofExcept result).determined

theorem determined_note (entry : LogEntry) : (note entry).Determined :=
  (gives_note entry).determined

/-- A failure is given to what handles it, and a value is kept. -/
theorem Gives.tryCatch {first second : Except Failure α} {handle : Failure → Logged α}
    (gives : computation.Gives first) (onValue : ∀ value, first = .ok value → second = .ok value)
    (onFailure : ∀ failure, first = .error failure → (handle failure).Gives second) :
    (tryCatchThe Failure computation handle).Gives second := by
  intro log
  have given : (computation log).1 = first := gives log
  show (ExceptT.tryCatch computation handle log).1 = second
  unfold ExceptT.tryCatch ExceptT.mk
  show (StateT.bind computation _ log).1 = second
  unfold StateT.bind
  cases stepped : computation log with
  | mk outcome between =>
      rw [stepped] at given
      cases given
      cases outcome with
      | ok value => exact (onValue value rfl).symm
      | error failure => exact onFailure failure rfl between

end Logged

open Logged

/-! ## Constraints -/

theorem compileEntry_determined (rules : ConstraintRules) (path : PropertyPath) (entry : Node) :
    (compileEntry rules path entry).Determined := by
  cases entry with
  | absent | scalar | sequence => exact determined_ofExcept _
  | mapping line entries =>
      rw [compileEntry]
      split
      · exact (determined_ofExcept _).bind fun _ => determined_pure _
      · refine (determined_ofExcept _).bind fun shown => ?_
        split
        · exact determined_ofExcept _
        · exact (determined_note _).bind fun _ => determined_pure _

theorem compileEntries_determined (rules : ConstraintRules) (path : PropertyPath)
    (entries : List Node) :
    (compileEntries rules path entries).Determined := by
  induction entries with
  | nil => exact determined_pure _
  | cons entry rest ih =>
      exact (compileEntry_determined rules path entry).bind fun _ => ih.bind fun _ =>
        determined_pure _

theorem compileConstraints_determined (rules : ConstraintRules) (path : PropertyPath)
    (node : Option Node) : (compileConstraints rules path node).Determined := by
  unfold compileConstraints
  split
  · exact determined_pure _
  · exact determined_pure _
  · exact compileEntries_determined rules path _
  · exact determined_ofExcept _

theorem attach_determined (rules : ConstraintRules) (graph : TypeGraph) (pending : List Pending) :
    (attach rules graph pending).Determined := by
  induction pending generalizing graph with
  | nil => exact determined_pure _
  | cons one rest ih => exact (compileConstraints_determined rules _ _).bind fun _ => ih _

theorem attachAll_determined (rules : ConstraintRules) (graph : TypeGraph)
    (pending : List Pending) :
    (attachAll rules graph pending).Determined :=
  (attach_determined rules graph pending).bind fun _ => (determined_note _).bind fun _ =>
    determined_pure _

end Schema

open Schema Logged

/-! ## Documents -/

namespace Compiler

variable (compiler : Compiler)

/-- Naming the document in a failure changes no value. -/
theorem within_gives {α : Type} (document : String) {computation : Logged α}
    {result : Except Failure α} (gives : computation.Gives result) :
    (within document computation).Gives (result.mapError (·.within document)) := by
  refine gives.tryCatch ?_ ?_
  · rintro value rfl
    rfl
  · rintro failure rfl
    exact fun _ => rfl

/-- What compiling a document gives, stage by stage. -/
theorem compile_gives (name : String) (root : Option Node) :
    (compiler.compile name root).Gives
      (Except.mapError (·.within name) (do
        let found ← Schema.findSection root compiler.settings.sectionPath
        let analysed ← (Schema.analyze name found.2).outcome.1
        (Schema.attachAll (compiler.settings.constraintRules compiler.language)
          analysed.1 analysed.2).outcome.1)) := by
  refine within_gives name ?_
  refine (gives_ofExcept _).bind fun found _ => ?_
  refine Gives.bind (analyze_gives name found.2).determined fun analysed _ => ?_
  exact attachAll_determined _ _ _

/-- The units of a document do not depend on what has been gathered for others before. -/
theorem generateFrom_eq (gathered : Target.Python.Gathered) (name : String) (root : Option Node) :
    compiler.generateFrom gathered name root = compiler.generate name root := by
  unfold generate generateFrom
  simp only [Target.generateFrom_eq]

/-- What generating the units of a document gives, stage by stage. -/
theorem generate_gives (name : String) (root : Option Node) :
    (compiler.generate name root).Gives (do
      let graph ← (compiler.compile name root).outcome.1
      (Target.generate (compiler.settings.style compiler.language) graph
        (compiler.comment name)).mapError (·.within name)) := by
  rw [← bind_pure (m := Except Failure) (do
    let graph ← (compiler.compile name root).outcome.1
    (Target.generate (compiler.settings.style compiler.language) graph
      (compiler.comment name)).mapError (·.within name)), bind_assoc]
  refine Gives.bind (compiler.compile_gives name root).determined fun graph _ => ?_
  refine (within_gives name (gives_ofExcept _)).bind fun units _ => ?_
  exact (gives_note _).bind_ok (gives_pure units)

/-- What generating the units of the document at a path gives, stage by stage. -/
theorem generateFile_gives (read : DocumentReader) (path : Path) :
    (compiler.generateFile read path).Gives (do
      let text ← read path
      let root ← Document.load path.name text
      (compiler.generate path.name (some root)).outcome.1) := by
  refine (gives_note _).bind_ok ?_
  refine (gives_ofExcept _).bind fun text _ => ?_
  refine (gives_ofExcept _).bind fun root _ => ?_
  exact (compiler.generate_gives path.name (some root)).determined

variable {compiler}

/-- A document that compiles has passed every stage. -/
theorem compile_eq_ok {name : String} {root : Option Node} {graph : TypeGraph}
    (done : (compiler.compile name root).outcome.1 = .ok graph) :
    ∃ entries plain pending,
      (Schema.analyze name entries).outcome.1 = .ok (plain, pending) ∧
      (Schema.attachAll (compiler.settings.constraintRules compiler.language)
        plain pending).outcome.1 = .ok graph := by
  rw [(compiler.compile_gives name root).outcome_eq, mapError_eq_ok_iff] at done
  obtain ⟨⟨line, entries⟩, _, done⟩ := bind_eq_ok done
  obtain ⟨⟨plain, pending⟩, analysed, done⟩ := bind_eq_ok done
  exact ⟨entries, plain, pending, analysed, done⟩

/-- A document that generates units compiles, and they are the units of its graph. -/
theorem generate_eq_ok {name : String} {root : Option Node} {units : List OutputUnit}
    (done : (compiler.generate name root).outcome.1 = .ok units) :
    ∃ graph ofTypes shared, (compiler.compile name root).outcome.1 = .ok graph ∧
      units = ofTypes ++ shared ∧
      Target.Generated (compiler.settings.style compiler.language) graph
        (compiler.comment name) ofTypes shared := by
  rw [(compiler.generate_gives name root).outcome_eq] at done
  obtain ⟨graph, compiles, done⟩ := bind_eq_ok done
  obtain ⟨ofTypes, shared, areUnits, generated⟩ :=
    Target.generate_eq_ok (mapError_eq_ok_iff.mp done)
  exact ⟨graph, ofTypes, shared, compiles, areUnits, generated⟩

theorem generateFile_eq_ok {read : DocumentReader} {path : Path} {units : List OutputUnit}
    (done : (compiler.generateFile read path).outcome.1 = .ok units) :
    ∃ root, (compiler.generate path.name (some root)).outcome.1 = .ok units := by
  rw [(compiler.generateFile_gives read path).outcome_eq] at done
  obtain ⟨text, _, done⟩ := bind_eq_ok done
  obtain ⟨root, _, done⟩ := bind_eq_ok done
  exact ⟨root, done⟩

end Compiler

end SchemaCompiler
