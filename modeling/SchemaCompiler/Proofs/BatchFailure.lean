import SchemaCompiler.Proofs.BatchMerge

/-!
# Failed documents of a batch

A batch that keeps going records the error of a document and goes on with the units it had before.
Whether the next document fits depends on these units and never on what has failed
(`Batch.checkUnits_cleared`), so that the documents which did not fail find the same batch whether
or not the others are tried in between.

One step is `Batch.next`, given what the document gives; the run over all paths adds one step at
its end (`keepGoing_concat`). The failure of a document is known by its position: it is what the
batch of the documents up to there has recorded more than the batch of those before.
-/

namespace SchemaCompiler

open FileSystem (Path)
open Schema (Failure Logged bind_eq_ok)
open Target (Language OutputUnit)

namespace Batch

/-- The batch as if no document had failed. -/
def cleared (batch : Batch) : Batch := { batch with failures := [] }

/-- The batch with one more failure. -/
def record (batch : Batch) (document : String) (error : Schema.Error) : Batch :=
  { batch with failures := batch.failures ++ [(document, error)] }

/-- What becomes of a batch that keeps going, given what the next document gives. -/
def next (batch : Batch) (document : String) :
    Except Failure (List OutputUnit) → Except Failure Batch
  | .ok units => .ok (batch.addUnits document units)
  | .error (.error error) => .ok (batch.record document error)
  | .error (.fault fault) => .error (.fault fault)

/-- Whether units fit is decided by units. -/
theorem checkUnits_cleared (language : Language) (batch : Batch) (document : String)
    (units : List OutputUnit) :
    batch.cleared.checkUnits language document units =
      batch.checkUnits language document units := by
  induction units with
  | nil => rfl
  | cons unit rest ih =>
      rw [checkUnits, checkUnits, ih]
      rfl

theorem addUnits_cleared (batch : Batch) (document : String) (units : List OutputUnit) :
    batch.cleared.addUnits document units = (batch.addUnits document units).cleared := by
  induction units generalizing batch with
  | nil => rfl
  | cons unit rest ih =>
      have step : batch.cleared.addUnit document unit = (batch.addUnit document unit).cleared := by
        unfold addUnit
        show (if (batch.owner? unit.name).isSome then _ else _) = _
        split <;> rfl
      show (batch.cleared.addUnit document unit).addUnits document rest = _
      rw [step]
      exact ih _

end Batch

namespace Compiler

variable {compiler : Compiler} {read : DocumentReader}

/-! ## One document -/

theorem extend_keepGoing_gives (batch : Batch) (path : Path) :
    (compiler.extend read true batch path).Gives
      (batch.next path.name (compiler.generateNext read batch path).outcome.1) := by
  have generated := (generateNext_gives compiler read batch path).determined
  have added := Logged.Gives.bind generated fun units _ =>
    Logged.gives_pure (batch.addUnits path.name units)
  refine added.tryCatch ?_ ?_
  · intro value done
    obtain ⟨units, isUnits, done⟩ := bind_eq_ok done
    rw [isUnits]
    exact done
  · intro failure failed
    cases result : (compiler.generateNext read batch path).outcome.1 with
    | ok units =>
        rw [result] at failed
        cases failed
    | error other =>
        rw [result] at failed
        cases failed
        -- an error is recorded, and a fault is passed on
        cases failure <;> exact fun _ => rfl

/-- A document that a batch took while others failed is taken as well when nothing has failed. -/
theorem extend_cleared {batch : Batch} {path : Path} {units : List OutputUnit}
    (taken : (compiler.generateNext read batch path).outcome.1 = .ok units) :
    (compiler.extend read false batch.cleared path).outcome.1 =
      .ok (batch.addUnits path.name units).cleared := by
  rw [(generateNext_gives compiler read batch path).outcome_eq] at taken
  obtain ⟨generated, isGenerated, taken⟩ := bind_eq_ok taken
  obtain ⟨_, checked, taken⟩ := bind_eq_ok taken
  cases taken
  rw [(extend_gives batch.cleared path).outcome_eq, isGenerated]
  show (Except.mapError Failure.error
    (batch.cleared.checkUnits compiler.language path.name units) >>= _) = _
  rw [batch.checkUnits_cleared, checked, ← batch.addUnits_cleared]
  rfl

/-! ## All documents -/

theorem keepGoing_determined (paths : List Path) (batch : Batch) :
    (paths.foldlM (compiler.extend read true) batch).Determined := by
  induction paths generalizing batch with
  | nil => exact Logged.determined_pure _
  | cons path rest ih => exact (extend_keepGoing_gives batch path).determined.bind ih

/-- One more document is one more step. -/
theorem keepGoing_concat (paths : List Path) (path : Path) :
    (compiler.generateFiles read true (paths ++ [path])).outcome.1 = (do
      let before ← (compiler.generateFiles read true paths).outcome.1
      before.next path.name (compiler.generateNext read before path).outcome.1) := by
  unfold generateFiles
  rw [List.foldlM_append]
  refine (Logged.Gives.bind (keepGoing_determined paths {}) fun before _ => ?_).outcome_eq
  rw [List.foldlM_cons]
  rw [← bind_pure (before.next _ _)]
  exact (extend_keepGoing_gives before path).bind fun after _ => Logged.gives_pure after

/-- A batch that returns has returned after each of its documents. -/
theorem keepGoing_take {paths : List Path} {batch : Batch}
    (done : (compiler.generateFiles read true paths).outcome.1 = .ok batch) (index : Nat) :
    ∃ before, (compiler.generateFiles read true (paths.take index)).outcome.1 = .ok before := by
  unfold generateFiles at done ⊢
  rw [← List.take_append_drop index paths, List.foldlM_append] at done
  obtain ⟨before, _, first, _⟩ := Logged.run_bind_eq_ok done
  exact ⟨before, first⟩

theorem stopping_concat {paths : List Path} {before : Batch}
    (done : (compiler.generateFiles read false paths).outcome.1 = .ok before) (path : Path) :
    (compiler.generateFiles read false (paths ++ [path])).outcome.1 =
      (compiler.extend read false before path).outcome.1 := by
  unfold generateFiles at done ⊢
  rw [List.foldlM_append,
    ((foldlM_determined paths {}).gives_bind fun _ => foldlM_determined _ _).outcome_eq,
    done]
  show ([path].foldlM (compiler.extend read false) before).outcome.1 = _
  rw [List.foldlM_cons]
  simp only [List.foldlM_nil, bind_pure]

/-! ## Failures by position -/

/-- The error of a document, if that is why there is no result. -/
def errorOf? {α : Type} : Except Failure α → Option Schema.Error
  | .error (.error error) => some error
  | _ => none

/-- The failure that a batch which keeps going records for the document at a position. -/
def recordedAt? (compiler : Compiler) (read : DocumentReader) (paths : List Path) (index : Nat) :
    Option (String × Schema.Error) := do
  let before ← (compiler.generateFiles read true (paths.take index)).outcome.1.toOption
  let after ← (compiler.generateFiles read true (paths.take (index + 1))).outcome.1.toOption
  after.failures[before.failures.length]?

/-- The paths of a batch without those at positions for which a failure is recorded. -/
def survivors (compiler : Compiler) (read : DocumentReader) (paths : List Path) : List Path :=
  (paths.zipIdx.filter fun (_, index) => (compiler.recordedAt? read paths index).isNone).map (·.1)

/-- What is recorded for a document is its own error, under its own name. -/
theorem recordedAt?_eq {paths : List Path} {index : Nat} {path : Path} {before : Batch}
    (here : paths[index]? = some path)
    (done : (compiler.generateFiles read true (paths.take index)).outcome.1 = .ok before) :
    compiler.recordedAt? read paths index =
      (errorOf? (compiler.generateNext read before path).outcome.1).map (path.name, ·) := by
  have up : paths.take (index + 1) = paths.take index ++ [path] := by
    rw [List.take_add_one, here, Option.toList_some]
  rw [recordedAt?, up, keepGoing_concat, done]
  show ((before.next path.name (compiler.generateNext read before path).outcome.1).toOption >>=
    fun after => after.failures[before.failures.length]?) = _
  cases (compiler.generateNext read before path).outcome.1 with
  | ok units =>
      show (before.addUnits path.name units).failures[before.failures.length]? = none
      rw [Batch.failures_addUnits]
      simp
  | error failure =>
      cases failure with
      | error error =>
          show (before.failures ++ [(path.name, error)])[before.failures.length]? = _
          simp [errorOf?]
      | fault fault => rfl

theorem recordedAt?_eq_some_iff {paths : List Path} {index : Nat} {path : Path} {batch : Batch}
    (done : (compiler.generateFiles read true paths).outcome.1 = .ok batch)
    (here : paths[index]? = some path) {name : String} {error : Schema.Error} :
    compiler.recordedAt? read paths index = some (name, error) ↔
      name = path.name ∧ ∃ before,
        (compiler.generateFiles read true (paths.take index)).outcome.1 = .ok before ∧
          (compiler.generateNext read before path).outcome.1 = .error (.error error) := by
  obtain ⟨before, reached⟩ := keepGoing_take done index
  rw [recordedAt?_eq here reached]
  constructor
  · intro recorded
    obtain ⟨own, isOwn, same⟩ := Option.map_eq_some_iff.mp recorded
    cases same
    refine ⟨rfl, before, reached, ?_⟩
    unfold errorOf? at isOwn
    split at isOwn
    next failed =>
      cases isOwn
      exact failed
    next => cases isOwn
  · rintro ⟨rfl, other, otherReached, failed⟩
    cases Except.ok.inj (reached.symm.trans otherReached)
    rw [failed]
    rfl

/-- What comes after a position does not matter to what is recorded there. -/
theorem recordedAt?_append {paths : List Path} {index : Nat} (lt : index < paths.length)
    (later : List Path) :
    compiler.recordedAt? read (paths ++ later) index = compiler.recordedAt? read paths index := by
  unfold recordedAt?
  rw [List.take_append_of_le_length (by omega), List.take_append_of_le_length (by omega)]

theorem survivors_concat (paths : List Path) (path : Path) :
    compiler.survivors read (paths ++ [path]) =
      compiler.survivors read paths ++
        if (compiler.recordedAt? read (paths ++ [path]) paths.length).isNone then [path]
          else [] := by
  have earlier : paths.zipIdx.filter (fun (_, index) =>
        (compiler.recordedAt? read (paths ++ [path]) index).isNone) =
      paths.zipIdx.filter fun (_, index) => (compiler.recordedAt? read paths index).isNone := by
    refine List.filter_congr ?_
    rintro ⟨other, index⟩ member
    have lt : index < paths.length := by simpa using List.snd_lt_of_mem_zipIdx member
    show (compiler.recordedAt? read (paths ++ [path]) index).isNone = _
    rw [recordedAt?_append lt]
  unfold survivors
  rw [List.zipIdx_append, List.filter_append, earlier, List.map_append]
  congr 1
  simp only [List.zipIdx_cons, List.zipIdx_nil, List.filter_cons, List.filter_nil, Nat.zero_add]
  split <;> rfl

/-- A batch that keeps going has recorded the failures of its documents in order, and the documents
that did not fail give the same units alone. -/
theorem keepGoing_run {paths : List Path} {batch : Batch}
    (done : (compiler.generateFiles read true paths).outcome.1 = .ok batch) :
    batch.failures = (List.range paths.length).filterMap (compiler.recordedAt? read paths) ∧
      (compiler.generateFiles read false (compiler.survivors read paths)).outcome.1 =
        .ok batch.cleared := by
  induction paths using List.reverseRecOn generalizing batch with
  | nil =>
      cases done
      exact ⟨rfl, rfl⟩
  | append_singleton paths path ih =>
      rw [keepGoing_concat] at done
      obtain ⟨before, reached, done⟩ := bind_eq_ok done
      obtain ⟨failures, alone⟩ := ih reached
      have here : (paths ++ [path])[paths.length]? = some path := by simp
      have upTo : (paths ++ [path]).take paths.length = paths := by simp
      rw [← upTo] at reached
      have last := recordedAt?_eq here reached
      have earlier : (List.range paths.length).filterMap
          (compiler.recordedAt? read (paths ++ [path])) = before.failures := by
        rw [failures]
        refine List.filterMap_congr fun index member => ?_
        exact recordedAt?_append (List.mem_range.mp member) [path]
      rw [List.length_append, List.length_singleton, List.range_succ,
        List.filterMap_append, earlier, survivors_concat, List.filterMap_cons, last]
      cases result : (compiler.generateNext read before path).outcome.1 with
      | ok units =>
          rw [result] at done
          cases done
          refine ⟨Batch.failures_addUnits .. |>.trans (by simp [errorOf?]), ?_⟩
          show (compiler.generateFiles read false
            (compiler.survivors read paths ++ [path])).outcome.1 = _
          rw [stopping_concat alone, extend_cleared result]
      | error failure =>
          rw [result] at done
          cases failure with
          | error error =>
              cases done
              refine ⟨rfl, ?_⟩
              show (compiler.generateFiles read false
                (compiler.survivors read paths ++ [])).outcome.1 = _
              rw [List.append_nil, alone]
              rfl
          | fault fault => cases done

/-- A document that fails leaves no trace in a batch that keeps going. What was recorded are the
errors of the documents that could not be generated or did not fit to those before, in the order of
the paths and each under the name of its document. A batch of the other documents alone, which stops
at failures, has the same units in the same order. -/
theorem failed_documents_leave_no_trace {compiler : Compiler} {read : DocumentReader}
    {paths : List Path} {batch : Batch}
    (done : (compiler.generateFiles read true paths).outcome.1 = .ok batch) :
    batch.failures = (List.range paths.length).filterMap (compiler.recordedAt? read paths) ∧
    (∀ index path, paths[index]? = some path → ∀ name error,
      (compiler.recordedAt? read paths index = some (name, error) ↔
        name = path.name ∧ ∃ before,
          (compiler.generateFiles read true (paths.take index)).outcome.1 = .ok before ∧
            (compiler.generateNext read before path).outcome.1 = .error (.error error))) ∧
    ∃ alone,
      (compiler.generateFiles read false (compiler.survivors read paths)).outcome.1 = .ok alone ∧
      alone.units = batch.units ∧ alone.failures = [] := by
  obtain ⟨failures, alone⟩ := keepGoing_run done
  refine ⟨failures, ?_, batch.cleared, alone, rfl, rfl⟩
  intro index path here name error
  exact recordedAt?_eq_some_iff done here

/-- Documents of which two fail: one breaks off, and one declares a type in another form than the
first. -/
def mixedReader : DocumentReader := fun path =>
  if path.name == "paint" then .ok "{D: {Color: {type: string}}}".toList
  else if path.name == "torn" then .ok "\x7bD: [".toList
  else if path.name == "clash" then .ok "{D: {Color: {type: integer}}}".toList
  else .ok "{D: {Shape: {type: object}}}".toList

theorem mixedReader_leaves_no_trace :
    ∃ batch alone,
      (plainCompiler.generateFiles mixedReader true
        [⟨"", ["paint"]⟩, ⟨"", ["torn"]⟩, ⟨"", ["clash"]⟩, ⟨"", ["form"]⟩]).outcome.1 = .ok batch ∧
      batch.failures.map (·.1) = ["torn", "clash"] ∧
      batch.units.map (·.name) = ["Color", "Shape"] ∧
      (plainCompiler.generateFiles mixedReader false [⟨"", ["paint"]⟩, ⟨"", ["form"]⟩]).outcome.1 =
        .ok alone ∧
      alone.units = batch.units := by
  have run : (plainCompiler.generateFiles mixedReader true
      [⟨"", ["paint"]⟩, ⟨"", ["torn"]⟩, ⟨"", ["clash"]⟩, ⟨"", ["form"]⟩]).outcome.1.toOption.map
        (fun batch => (batch.failures.map (·.1), batch.units.map (·.name))) =
      some (["torn", "clash"], ["Color", "Shape"]) := by decide +kernel
  have others : plainCompiler.survivors mixedReader
      [⟨"", ["paint"]⟩, ⟨"", ["torn"]⟩, ⟨"", ["clash"]⟩, ⟨"", ["form"]⟩] =
        [⟨"", ["paint"]⟩, ⟨"", ["form"]⟩] := by decide +kernel
  obtain ⟨batch, found, seen⟩ := Option.map_eq_some_iff.mp run
  have done := Schema.eq_ok_of_toOption found
  obtain ⟨_, _, alone, aloneDone, sameUnits, _⟩ := failed_documents_leave_no_trace done
  rw [others] at aloneDone
  exact ⟨batch, alone, done, congrArg Prod.fst seen, congrArg Prod.snd seen, aloneDone, sameUnits⟩

end Compiler

end SchemaCompiler
