import SchemaCompiler.Output.Sink
import SchemaCompiler.Proofs.Replacement

/-!
# What one write of a sink does

A unit that is handed to a sink is passed over, kept as it is on the disk, or put in place as a
whole (`UnitWritten`), and a failure leaves no file changed. A support file is put in place unless
there is something at its path (`SupportWritten`). Both are told by the tree alone: on disks that
agree, writes that return do the same.
-/

namespace SchemaCompiler.Output

open FileSystem (Disk DiskM Path Place)
open Target (Language OutputUnit)

/-! ## Writing files -/

section Writing

variable {α : Type} {disk : Disk} {returns : α → Disk → Prop} {fails : Disk → Prop}

theorem ends_onDisk {operation : DiskM α} (ends : Ends operation disk returns fails) :
    Ends (onDisk operation) disk returns fails := by
  have split : (onDisk operation).run.run disk =
      ((operation.run.run disk).1.mapError WriteFailure.disk, (operation.run.run disk).2) := rfl
  unfold Ends at ends ⊢
  rw [split]
  split at ends
  next ran =>
    rw [ran]
    exact ends
  next ran =>
    rw [ran]
    exact ends

theorem ends_reporting {path : Path} {computation : WriteM α}
    (ends : Ends computation disk returns fails) :
    Ends (reporting path computation) disk returns fails := by
  refine .tryCatch (ends.mono (fun _ _ done => done) ?_)
  intro after failed failure
  split
  · exact .throw failed
  · exact .throw failed

theorem ends_checkedLanguage {setting : Data.Value} {returns : Option Language → Disk → Prop}
    (here : ∀ language, returns language disk) (failed : fails disk) :
    Ends (checkedLanguage setting) disk returns fails := by
  unfold checkedLanguage
  split
  · exact .pure (here _)
  · split
    · exact .pure (here _)
    · exact .throw failed

end Writing

/-- A disk after a text has been put at a path. -/
def Put (before : Disk) (path : Path) (text : String) (after : Disk) : Prop :=
  ∃ content, Text.encodeUtf8 text = .ok content ∧ before.Replaced path content after

theorem Put.of_agree {before between after : Disk} {path : Path} {text : String}
    (agree : before.Agree between) (put : Put between path text after) :
    Put before path text after := by
  obtain ⟨content, encoded, replaced⟩ := put
  exact ⟨content, encoded, replaced.of_agree agree⟩

/-- Writing a file puts it in place as a whole, or leaves no more than directories behind. -/
theorem writeFile_ends (path : Path) (content : String) (language : Option Language) (check : Check)
    (disk : Disk) :
    Ends (writeFile path content language check) disk (fun _ => Put disk path content)
      (Disk.Grown (path.parent.Visits disk.here) disk) := by
  have put := ends_onDisk (Disk.replaceFile_ends path content disk)
  unfold writeFile
  split
  · exact put
  · split
    · exact put
    · exact .bind (.throw (Disk.Agree.refl disk).grown)

/-- What becomes of a file that is written unless there is something at its path. -/
inductive SupportWritten (path : Path) (text : String) (before after : Disk) : Prop where
  | kept (entry : FileSystem.Entry) (found : before.probe path = .ok (some entry))
      (same : before.Agree after)
  | wrote (absent : before.probe path = .ok none) (put : Put before path text after)

theorem writeIfAbsent_ends (path : Path) (content : String) (setting : Data.Value) (check : Check)
    (disk : Disk) :
    Ends (writeIfAbsent path content (checkedLanguage setting) check) disk
      (fun _ => SupportWritten path content disk)
      (Disk.Grown (path.parent.Visits disk.here) disk) := by
  refine .bind ((ends_onDisk (Disk.exists?_ends path disk)).mono ?_ fun _ agree => agree.grown)
  rintro found looked ⟨agree, entry, probed, rfl⟩
  cases entry with
  | some entry => exact .pure (.kept entry probed agree)
  | none =>
      refine .bind (ends_checkedLanguage ?_ agree.grown)
      intro language
      refine .bind ((writeFile_ends path content language check looked).mono ?_ fun _ =>
        .of_agree agree)
      exact fun _ _ put => .pure (.wrote probed (put.of_agree agree))

/-- The place that a unit is written to. -/
def SinkState.target (state : SinkState) (unit : OutputUnit) : Place :=
  (state.sink.pathOf unit).place state.disk.here

namespace Sink

variable {α : Type} {state : SinkState} {returns : α → SinkState → Prop} {fails : SinkState → Prop}

theorem ends_writing {computation : WriteM α}
    (ends : Ends computation state.disk (fun value disk => returns value { state with disk })
      fun disk => fails { state with disk }) :
    Ends (writing computation) state returns fails := by
  have split : (writing computation).run.run state =
      ((computation.run.run state.disk).1,
        { state with disk := (computation.run.run state.disk).2 }) := rfl
  unfold Ends at ends ⊢
  rw [split]
  split at ends
  next ran =>
    rw [ran]
    exact ends
  next ran =>
    rw [ran]
    exact ends

/-! ## Units -/

/-- The sink after a unit has been written. -/
def marked (sink : Sink) (unit : OutputUnit) : Sink :=
  if unit.shared then { sink with sharedWritten := unit.name :: sink.sharedWritten } else sink

/-- Has the sink written the unit as a shared one? -/
def HasShared (sink : Sink) (unit : OutputUnit) : Prop :=
  unit.shared = true ∧ unit.name ∈ sink.sharedWritten

/-- What becomes of a unit: it is passed over, its file is kept, or its text is put in place. -/
inductive UnitWritten (settings : Settings) (unit : OutputUnit) (before after : SinkState) :
    Option Path → Prop where
  | skipped (already : before.sink.HasShared unit) (sink : after.sink = before.sink)
      (disk : before.disk.Agree after.disk) : UnitWritten settings unit before after none
  | kept (fresh : ¬before.sink.HasShared unit)
      (keeps : settings.overwriteExistingFiles.isTrue = false) (entry : FileSystem.Entry)
      (found : before.disk.probe (before.sink.pathOf unit) = .ok (some entry))
      (sink : after.sink = before.sink) (disk : before.disk.Agree after.disk) :
      UnitWritten settings unit before after none
  | wrote (fresh : ¬before.sink.HasShared unit)
      (absent : settings.overwriteExistingFiles.isTrue = false →
        before.disk.probe (before.sink.pathOf unit) = .ok none)
      (sink : after.sink = before.sink.marked unit)
      (disk : Put before.disk (before.sink.pathOf unit) unit.body after.disk) :
      UnitWritten settings unit before after (some (before.sink.pathOf unit))

/-- Writing a unit changes no more of a sink than the shared units that it has written. -/
theorem UnitWritten.sink_eq {settings : Settings} {unit : OutputUnit} {before after : SinkState}
    {result : Option Path} (written : UnitWritten settings unit before after result) :
    ∃ names, after.sink = { before.sink with sharedWritten := names } := by
  cases written with
  | skipped _ sink => exact ⟨_, sink⟩
  | kept _ _ _ _ sink => exact ⟨_, sink⟩
  | wrote _ _ sink =>
      rw [sink, marked]
      split
      · exact ⟨_, rfl⟩
      · exact ⟨_, rfl⟩

/-- A unit that cannot be written leaves no more than directories behind. -/
def UnitFailed (unit : OutputUnit) (before after : SinkState) : Prop :=
  after.sink = before.sink ∧
    Disk.Grown ((before.sink.pathOf unit).parent.Visits before.disk.here) before.disk after.disk

theorem ends_markWritten {unit : OutputUnit} {returns : Unit → SinkState → Prop}
    (here : returns () { state with sink := state.sink.marked unit }) :
    Ends (markWritten unit) state returns fails := by
  unfold marked at here
  unfold markWritten
  split
  next shared =>
    rw [if_pos shared] at here
    exact .modify here
  next own =>
    rw [if_neg own] at here
    exact .pure here

theorem writeUnit_ends (settings : Settings) (unit : OutputUnit) (state : SinkState) :
    Ends (writeUnit settings unit) state
      (fun result after => UnitWritten settings unit state after result)
      (UnitFailed unit state) := by
  refine .bind (.get ?_)
  dsimp only
  split
  next already =>
    simp only [Bool.and_eq_true, List.contains_iff_mem] at already
    exact .pure (.skipped already rfl (.refl state.disk))
  next fresh =>
    simp only [Bool.and_eq_true, List.contains_iff_mem] at fresh
    refine .bind (ends_writing ((ends_onDisk (Disk.exists?_ends _ state.disk)).mono ?_ ?_))
    · rintro found looked ⟨agree, entry, probed, rfl⟩
      refine .byCases ?_ fun writes => ?_
      · intro keeps
        obtain ⟨isSome, keeps⟩ := Bool.and_eq_true_iff.mp keeps
        obtain ⟨entry, rfl⟩ := Option.isSome_iff_exists.mp isSome
        exact .bind (.modify (.pure (.kept fresh (by simpa using keeps) entry probed rfl agree)))
      · have absent (keeps : settings.overwriteExistingFiles.isTrue = false) :
            state.disk.probe (state.sink.pathOf unit) = .ok none := by
          have empty : entry = none := by simpa [keeps] using writes
          rw [probed, empty]
        have written : Ends (do
              writeFile (state.sink.pathOf unit) unit.body
                (← checkedLanguage settings.language) state.check)
            looked (fun _ => Put state.disk (state.sink.pathOf unit) unit.body)
            (Disk.Grown ((state.sink.pathOf unit).parent.Visits state.disk.here) state.disk) := by
          refine .bind (ends_checkedLanguage (fun language => ?_) agree.grown)
          exact (writeFile_ends _ unit.body language state.check looked).mono
            (fun _ _ put => put.of_agree agree) fun _ => .of_agree agree
        refine .bind (ends_writing ((ends_reporting written).mono ?_ fun _ grown => ⟨rfl, grown⟩))
        intro _ after put
        exact .bind (ends_markWritten (.bind (.modify (.pure (.wrote fresh absent rfl put)))))
    · exact fun _ agree => ⟨rfl, agree.grown⟩

/-! ## Runs -/

/-- Units that have been written one after the other, with the paths that were written. -/
inductive UnitsWritten (settings : Settings) :
    List OutputUnit → SinkState → List Path → SinkState → Prop where
  | nil (state : SinkState) : UnitsWritten settings [] state [] state
  | cons {unit : OutputUnit} {rest : List OutputUnit} {before between after : SinkState}
      {path : Option Path} {paths : List Path}
      (first : UnitWritten settings unit before between path)
      (others : UnitsWritten settings rest between paths after) :
      UnitsWritten settings (unit :: rest) before (path.toList ++ paths) after

/-- Units of which some have been written, and the next one has failed. -/
inductive UnitsFailed (settings : Settings) : List OutputUnit → SinkState → SinkState → Prop where
  | here {unit : OutputUnit} {rest : List OutputUnit} {before after : SinkState}
      (failed : UnitFailed unit before after) : UnitsFailed settings (unit :: rest) before after
  | later {unit : OutputUnit} {rest : List OutputUnit} {before between after : SinkState}
      {path : Option Path} (first : UnitWritten settings unit before between path)
      (others : UnitsFailed settings rest between after) :
      UnitsFailed settings (unit :: rest) before after

theorem writeUnits_ends (settings : Settings) (units : List OutputUnit) (state : SinkState) :
    Ends (writeUnits settings units) state
      (fun paths after => UnitsWritten settings units state paths after)
      (UnitsFailed settings units state) := by
  induction units generalizing state with
  | nil => exact .pure (.nil state)
  | cons unit rest ih =>
      refine .bind ((writeUnit_ends settings unit state).mono ?_ fun _ => .here)
      intro path between first
      refine .bind ((ih between).mono ?_ fun _ => .later first)
      exact fun paths after others => .pure (.cons first others)

/-- Support files that have been seen to one after the other. -/
inductive SupportsWritten (directory : Path) : List (String × String) → Disk → Disk → Prop where
  | nil (disk : Disk) : SupportsWritten directory [] disk disk
  | cons {file : String × String} {rest : List (String × String)} {before between after : Disk}
      (first : SupportWritten (directory.join (.ofText file.1)) file.2 before between)
      (others : SupportsWritten directory rest between after) :
      SupportsWritten directory (file :: rest) before after

/-- Support files of which some have been seen to, and the next one has failed. -/
inductive SupportsFailed (directory : Path) : List (String × String) → Disk → Disk → Prop where
  | here {file : String × String} {rest : List (String × String)} {before after : Disk}
      (failed : Disk.Grown ((directory.join (.ofText file.1)).parent.Visits before.here)
        before after) :
      SupportsFailed directory (file :: rest) before after
  | later {file : String × String} {rest : List (String × String)} {before between after : Disk}
      (first : SupportWritten (directory.join (.ofText file.1)) file.2 before between)
      (others : SupportsFailed directory rest between after) :
      SupportsFailed directory (file :: rest) before after

/-- A sink that has seen to its support files. -/
def SupportDone (files : List (String × String)) (before after : SinkState) : Prop :=
  after.sink = { before.sink with supportWritten := true } ∧
    SupportsWritten before.sink.directory files before.disk after.disk

/-- A sink that could not see to all of its support files. -/
def SupportStopped (files : List (String × String)) (before after : SinkState) : Prop :=
  after.sink = before.sink ∧ SupportsFailed before.sink.directory files before.disk after.disk

theorem writeSupport_ends (settings : Settings) (files : List (String × String))
    (state : SinkState) :
    Ends (writeSupport settings files) state (fun _ => SupportDone files state)
      (SupportStopped files state) := by
  induction files generalizing state with
  | nil => exact .modify ⟨rfl, .nil state.disk⟩
  | cons file rest ih =>
      refine .bind (.get ?_)
      dsimp only
      have written := writeIfAbsent_ends (state.sink.directory.join (.ofText file.1)) file.2
        settings.language state.check state.disk
      refine .bind
        (ends_writing ((ends_reporting written).mono ?_ fun _ grown => ⟨rfl, .here grown⟩))
      intro written between first
      have others (log : Log) : Ends (writeSupport settings rest)
          { state with disk := between, log }
          (fun _ => SupportDone (file :: rest) state) (SupportStopped (file :: rest) state) :=
        (ih _).mono (fun _ _ done => ⟨done.1, .cons first done.2⟩) fun _ failed =>
          ⟨failed.1, .later first failed.2⟩
      cases written with
      | false => exact others _
      | true => exact .bind (.modify (others _))

/-- A sink that has seen to its support files, unless it had done so before. -/
def Prepared (before after : SinkState) : Prop :=
  before.sink.supportWritten = true ∧ after = before ∨
    before.sink.supportWritten = false ∧ SupportDone before.sink.language.supportFiles before after

/-- Seeing to the support files changes no more of a sink than that it has done so. -/
theorem Prepared.sink_eq {before after : SinkState} (prepared : Prepared before after) :
    after.sink = { before.sink with supportWritten := true } := by
  rcases prepared with ⟨done, rfl⟩ | ⟨_, sink, _⟩
  · rw [← done]
  · exact sink

/-- A write that has returned. -/
def Completed (settings : Settings) (units : List OutputUnit) (before : SinkState)
    (paths : List Path) (after : SinkState) : Prop :=
  ∃ between, Prepared before between ∧ UnitsWritten settings units between paths after

/-- A write that has failed, at a support file or at a unit. -/
def Broken (settings : Settings) (units : List OutputUnit) (before after : SinkState) : Prop :=
  SupportStopped before.sink.language.supportFiles before after ∨
    ∃ between, Prepared before between ∧ UnitsFailed settings units between after

/-- A write sees to the support files first and then to the units, and ends where one of them
fails. -/
theorem write_ends (settings : Settings) (units : List OutputUnit) (state : SinkState) :
    Ends (write settings units) state (Completed settings units state)
      (Broken settings units state) := by
  have unitsEnd (between : SinkState) (prepared : Prepared state between) :
      Ends (writeUnits settings units) between (Completed settings units state)
        (Broken settings units state) :=
    (writeUnits_ends settings units between).mono (fun _ _ done => ⟨between, prepared, done⟩)
      fun _ failed => .inr ⟨between, prepared, failed⟩
  refine .bind (.get (.byCases ?_ ?_))
  · intro due
    refine .bind ((writeSupport_ends settings _ state).mono ?_ fun _ stopped => .inl stopped)
    exact fun _ between done => unitsEnd between (.inr ⟨by simpa using due, done⟩)
  · intro written
    exact unitsEnd state (.inl ⟨by simpa using written, rfl⟩)

end Sink

end SchemaCompiler.Output
