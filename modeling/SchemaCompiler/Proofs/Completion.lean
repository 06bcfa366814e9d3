import SchemaCompiler.Proofs.BatchFailure
import SchemaCompiler.Proofs.CompileFault
import SchemaCompiler.Proofs.LoadFault

/-!
# When a batch completes

A batch that keeps going records the errors of its documents and passes their faults on, so it
returns exactly if no document meets a fault. Where a fault can come from is known stage by stage:
reading, loading, compiling and rendering each have their own (`FaultOrigin`), and outside of these
places everything that is wrong with a document is an error, which the batch records.

Two ways to stop lie outside this account. Documents can be nested to any depth, so that no limit on
the depth of calls is ever met. And paths are texts of whole characters: a path with halves of
characters, which no file can have, is one that nothing is found at.
-/

namespace SchemaCompiler

open FileSystem (Disk DiskError DiskM Path)
open Schema (Complete Failure Fault Yields bind_eq_ok)
open Target (OutputUnit)

/-! ## Where the faults of a document come from -/

/-- Operations one after the other fail where the first or the second does. -/
theorem run_bind_eq_error {α β : Type} {first : DiskM α} {next : α → DiskM β} {disk : Disk}
    {error : DiskError} (failed : ((first >>= next).run.run disk).1 = .error error) :
    (first.run.run disk).1 = .error error ∨
      ∃ value after, ((next value).run.run after).1 = .error error := by
  rw [run_bind] at failed
  cases ran : (first.run.run disk).1 with
  | error other =>
      rw [ran] at failed
      cases failed
      exact .inl rfl
  | ok value =>
      rw [ran] at failed
      exact .inr ⟨value, _, failed⟩

/-- A file cannot be read because of a zero only if its path has one. -/
theorem hasZero_of_readFile {disk : Disk} {path : Path}
    (failed : ((Disk.readFile path).run.run disk).1 = .error .zeroInPath) :
    path.hasZero = true := by
  rcases run_bind_eq_error failed with refused | ⟨_, disk, failed⟩
  · unfold Disk.refuseZero at refused
    split at refused
    next zero => exact zero
    next => cases refused
  -- every later operation fails as one on a file
  rcases run_bind_eq_error failed with struck | ⟨_, disk, failed⟩
  · rcases run_bind_eq_error struck with struck | ⟨seen, disk, struck⟩
    · cases struck
    · cases faults : seen.faults with
      | nil =>
          rw [faults] at struck
          cases struck
      | cons fault rest =>
          rw [faults] at struck
          cases fault <;> cases struck
  · rcases run_bind_eq_error failed with failed | ⟨seen, disk, failed⟩
    · cases failed
    · cases found : seen.tree.lookup seen.here path with
      | error reason =>
          rw [found] at failed
          cases failed
      | ok entry =>
          rw [found] at failed
          cases entry <;> cases failed

theorem readDocument_yields (disk : Disk) (path : Path) :
    Yields (fun fault => fault = .zeroInPath ∧ path.hasZero = true) (fun _ => True)
      (readDocument disk path) := by
  unfold readDocument
  dsimp only
  split
  next failed => exact .ofFault ⟨rfl, hasZero_of_readFile failed⟩
  · exact .fail _ _
  · split
    · exact .fail _ _
    · exact .ok trivial

/-- No failure is lost in a step. -/
theorem Batch.failures_subset_next {batch after : Batch} {document : String}
    {result : Except Failure (List OutputUnit)} (stepped : batch.next document result = .ok after) :
    batch.failures ⊆ after.failures := by
  cases result with
  | ok units =>
      cases stepped
      rw [Batch.failures_addUnits]
      exact List.Subset.refl _
  | error failure =>
      cases failure with
      | fault fault => cases stepped
      | error error =>
          cases stepped
          exact List.subset_append_left _ _

namespace Compiler

/-- The faults that a compiler can meet in the tree of a document: those of its own settings, and
those of values in the tree. -/
inductive TreeFault (compiler : Compiler) (root : Document.Node) : Fault → Prop
  | settings {fault : Fault} :
      compiler.settings.sectionPath.Raises fault → compiler.TreeFault root fault
  | package :
      compiler.settings.packageName.plain? = none → compiler.language = .kotlin →
      compiler.TreeFault root .integerTooLong
  | value {fault : Fault} :
      Schema.Raises root compiler.language.checksRegex fault → compiler.TreeFault root fault

/-- The faults that a compiler can meet in the document at a path: of the path, of the text and of
the tree. -/
inductive FaultOrigin (compiler : Compiler) (disk : Disk) (path : Path) : Fault → Prop
  | path : path.hasZero = true → compiler.FaultOrigin disk path .zeroInPath
  | text {text : List Char} {fault : Fault} :
      readDocument disk path = .ok text → Document.RaisesValue text fault →
      compiler.FaultOrigin disk path fault
  | tree {text : List Char} {root : Document.Node} {fault : Fault} :
      readDocument disk path = .ok text → Document.load path.name text = .ok root →
      compiler.TreeFault root fault → compiler.FaultOrigin disk path fault

variable {compiler : Compiler}

theorem compile_yields {root : Document.Node} (complete : Complete root) (name : String) :
    Yields (compiler.TreeFault root) (Schema.TypeGraph.Draws root)
      (compiler.compile name (some root)).outcome.1 := by
  rw [(compiler.compile_gives name (some root)).outcome_eq]
  refine Outcome.within name ?_
  have declarations := Schema.findSection_yields complete compiler.settings.sectionPath
  refine (declarations.allowFaults fun _ => .settings).bind fun found inside => ?_
  have compiled :=
    Schema.compileSection_yields inside name (compiler.settings.constraintRules compiler.language)
  exact (compiled.allow fun _ => Schema.FailsAmong.raises complete inside).allowFaults fun _ =>
    .value

theorem generate_yields {root : Document.Node} (complete : Complete root) (name : String) :
    Yields (compiler.TreeFault root) (fun _ => True)
      (compiler.generate name (some root)).outcome.1 := by
  rw [(compiler.generate_gives name (some root)).outcome_eq]
  refine (compile_yields complete name).bind fun graph draws => .within name ?_
  refine (Target.generate_yields draws (compiler.comment name)).allowFaults fun fault raised => ?_
  cases raised with
  | integer inside long => exact .value (.integer inside long)
  | package missing kotlin => exact .package missing kotlin

/-- A document gives units, has an error, or has one of the known faults. -/
theorem generateFile_yields (disk : Disk) (path : Path) :
    Yields (compiler.FaultOrigin disk path) (fun _ => True)
      (compiler.generateFile (readDocument disk) path).outcome.1 := by
  rw [(compiler.generateFile_gives (readDocument disk) path).outcome_eq]
  have text := (readDocument_yields disk path).known
  refine (text.allowFaults ?_).bind fun text read => ?_
  · rintro _ ⟨rfl, zero⟩
    exact .path zero
  have root := (Document.load_yields path.name text).known
  refine (root.allowFaults fun _ => .text read.1).bind fun root loaded => ?_
  exact (generate_yields loaded.2 path.name).allowFaults fun _ => .tree read.1 loaded.1

/-! ## Which batches return -/

section Run

variable {read : DocumentReader}

/-- Checking units against a batch adds errors, and no faults. -/
theorem generateNext_yields (batch : Batch) (path : Path) :
    Yields (fun fault => (compiler.generateFile read path).outcome.1 = .error (.fault fault))
      (fun _ => True) (compiler.generateNext read batch path).outcome.1 := by
  rw [(generateNext_gives compiler read batch path).outcome_eq]
  refine Outcome.bind ⟨fun failure failed => ?_, fun _ _ => trivial⟩ fun units _ => ?_
  · cases failure with
    | error error => trivial
    | fault fault => exact failed
  · exact (Outcome.ofResult _).bind fun _ _ => .ok trivial

theorem generateNext_eq_error {batch : Batch} {path : Path} {failure : Failure}
    (failed : (compiler.generateFile read path).outcome.1 = .error failure) :
    (compiler.generateNext read batch path).outcome.1 = .error failure := by
  rw [(generateNext_gives compiler read batch path).outcome_eq, failed]
  rfl

/-- A batch that stops has met a fault of one of its documents. -/
theorem fault_of_keepGoing_eq_error {paths : List Path} {failure : Failure}
    (stopped : (compiler.generateFiles read true paths).outcome.1 = .error failure) :
    ∃ path ∈ paths, ∃ fault, failure = .fault fault ∧
      (compiler.generateFile read path).outcome.1 = .error failure := by
  induction paths using List.reverseRecOn generalizing failure with
  | nil => cases stopped
  | append_singleton paths path ih =>
      rw [keepGoing_concat] at stopped
      cases earlier : (compiler.generateFiles read true paths).outcome.1 with
      | error other =>
          rw [earlier] at stopped
          cases stopped
          obtain ⟨path, member, met⟩ := ih earlier
          exact ⟨path, List.mem_append_left _ member, met⟩
      | ok before =>
          rw [earlier] at stopped
          replace stopped : before.next path.name
            (compiler.generateNext read before path).outcome.1 =
            .error failure := stopped
          cases result : (compiler.generateNext read before path).outcome.1 with
          | ok units =>
              rw [result] at stopped
              cases stopped
          | error other =>
              rw [result] at stopped
              cases other with
              | error error => cases stopped
              | fault fault =>
                  cases stopped
                  exact ⟨path, by
                    simp, fault, rfl, (generateNext_yields before path).failure _ result⟩

/-- A batch that returns has recorded every document that failed. -/
theorem recorded_of_keepGoing_eq_ok {paths : List Path} {batch : Batch}
    (done : (compiler.generateFiles read true paths).outcome.1 = .ok batch) {path : Path}
    (member : path ∈ paths) {failure : Failure}
    (failed : (compiler.generateFile read path).outcome.1 = .error failure) :
    ∃ error, failure = .error error ∧ (path.name, error) ∈ batch.failures := by
  induction paths using List.reverseRecOn generalizing batch with
  | nil => cases member
  | append_singleton paths last ih =>
      rw [keepGoing_concat] at done
      obtain ⟨before, reached, done⟩ := bind_eq_ok done
      rcases List.mem_append.mp member with earlier | isLast
      · obtain ⟨error, isError, recorded⟩ := ih reached earlier
        exact ⟨error, isError, Batch.failures_subset_next done recorded⟩
      · cases List.mem_singleton.mp isLast
        rw [generateNext_eq_error failed] at done
        cases failure with
        | fault fault => cases done
        | error error =>
            cases done
            exact ⟨error, rfl, List.mem_append_right _ List.mem_cons_self⟩

end Run

/-- A batch that keeps going returns exactly if none of its documents meets a fault. When it
returns, every document that gives no units is recorded with its error. When it does not, then
because a document met a fault, and the fault is in the path, in the text or in the tree of that
document, or in the settings. -/
theorem keepGoing_returns_iff (compiler : Compiler) (disk : Disk) (paths : List Path) :
    ((∃ batch, (compiler.generateFiles (readDocument disk) true paths).outcome.1 = .ok batch) ↔
      ∀ path ∈ paths, ∀ fault,
        (compiler.generateFile (readDocument disk) path).outcome.1 ≠ .error (.fault fault)) ∧
    (∀ batch, (compiler.generateFiles (readDocument disk) true paths).outcome.1 = .ok batch →
      ∀ path ∈ paths, ∀ failure,
        (compiler.generateFile (readDocument disk) path).outcome.1 = .error failure →
        ∃ error, failure = .error error ∧ (path.name, error) ∈ batch.failures) ∧
    ∀ failure, (compiler.generateFiles (readDocument disk) true paths).outcome.1 = .error failure →
      ∃ path ∈ paths, ∃ fault, failure = .fault fault ∧
        (compiler.generateFile (readDocument disk) path).outcome.1 = .error failure ∧
        compiler.FaultOrigin disk path fault := by
  refine ⟨⟨?_, ?_⟩, ?_, ?_⟩
  · rintro ⟨batch, done⟩ path member fault failed
    obtain ⟨error, isError, _⟩ := recorded_of_keepGoing_eq_ok done member failed
    cases isError
  · intro faultless
    cases result : (compiler.generateFiles (readDocument disk) true paths).outcome.1 with
    | ok batch => exact ⟨batch, rfl⟩
    | error failure =>
        obtain ⟨path, member, fault, rfl, failed⟩ := fault_of_keepGoing_eq_error result
        exact absurd failed (faultless path member fault)
  · intro batch done path member failure failed
    exact recorded_of_keepGoing_eq_ok done member failed
  · intro failure stopped
    obtain ⟨path, member, fault, rfl, failed⟩ := fault_of_keepGoing_eq_error stopped
    exact ⟨path, member, fault, rfl, failed, (generateFile_yields disk path).failure _ failed⟩

/-- Four documents: one compiles, one breaks off, one has bytes that are no text, and one has a day
in a month that does not exist. -/
def shelf : Disk where
  tree :=
    { entries :=
      [(["paint"], .file "{D: {Color: {type: string}}}".toUTF8.toList),
       (["torn"], .file "\x7bD: [".toUTF8.toList),
       (["raw"], .file [0xFF]),
       (["dated"], .file "{D: {Color: {type: string}}, on: 2024-13-01}".toUTF8.toList)] }

theorem shelf_returns_or_finds_fault :
    (∃ batch error,
      (plainCompiler.generateFiles (readDocument shelf) true
        [⟨"", ["paint"]⟩, ⟨"", ["torn"]⟩, ⟨"", ["raw"]⟩]).outcome.1 = .ok batch ∧
      (plainCompiler.generateFile (readDocument shelf) ⟨"", ["torn"]⟩).outcome.1 =
        .error (.error error) ∧
      ("torn", error) ∈ batch.failures) ∧
    (plainCompiler.generateFiles (readDocument shelf) true [⟨"", ["dated"]⟩]).outcome.1 =
      .error (.fault (.value .monthOutOfRange)) ∧
    plainCompiler.FaultOrigin shelf ⟨"", ["dated"]⟩ (.value .monthOutOfRange) := by
  constructor
  · have run : (plainCompiler.generateFiles (readDocument shelf) true
        [⟨"", ["paint"]⟩, ⟨"", ["torn"]⟩, ⟨"", ["raw"]⟩]).outcome.1.isOk = true := by decide +kernel
    have torn : (plainCompiler.generateFile (readDocument shelf) ⟨"", ["torn"]⟩).outcome.1.isOk =
        false := by
      decide +kernel
    cases failed : (plainCompiler.generateFile (readDocument shelf) ⟨"", ["torn"]⟩).outcome.1 with
    | ok units =>
        rw [failed] at torn
        cases torn
    | error failure =>
        cases done : (plainCompiler.generateFiles (readDocument shelf) true
            [⟨"", ["paint"]⟩, ⟨"", ["torn"]⟩, ⟨"", ["raw"]⟩]).outcome.1 with
        | error other =>
            rw [done] at run
            cases run
        | ok batch =>
            have records := (keepGoing_returns_iff plainCompiler shelf
              [⟨"", ["paint"]⟩, ⟨"", ["torn"]⟩, ⟨"", ["raw"]⟩]).2.1
            obtain ⟨error, rfl, recorded⟩ :=
              records batch done ⟨"", ["torn"]⟩ (by decide) failure failed
            exact ⟨batch, error, rfl, rfl, recorded⟩
  · have stopped :
        (plainCompiler.generateFiles (readDocument shelf) true [⟨"", ["dated"]⟩]).outcome.1 =
        .error (.fault (.value .monthOutOfRange)) := by decide +kernel
    have finds := (keepGoing_returns_iff plainCompiler shelf [⟨"", ["dated"]⟩]).2.2
    obtain ⟨path, member, fault, same, _, origin⟩ := finds _ stopped
    cases same
    cases List.mem_singleton.mp member
    exact ⟨stopped, origin⟩

/-- Not every batch that keeps going returns: the day stops it, though the first document
compiles. -/
theorem shelf_stopped_by_fault :
    (plainCompiler.generateFile (readDocument shelf) ⟨"", ["paint"]⟩).outcome.1.isOk = true ∧
    (plainCompiler.generateFiles (readDocument shelf) true
      [⟨"", ["paint"]⟩, ⟨"", ["dated"]⟩]).outcome.1 =
      .error (.fault (.value .monthOutOfRange)) := by
  decide +kernel

end Compiler

end SchemaCompiler
