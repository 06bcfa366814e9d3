import SchemaCompiler.Proofs.BatchMerge
import SchemaCompiler.Proofs.UnitFile

/-!
# Writing a batch at once and document by document

The units of a batch are the first ones of each name. Documents that are written one after the other
bring the repeated units to the sink as well. A unit that comes again finds its file as it would
write it, or in the way and kept, so it changes nothing (`Settled`). So both ways leave the same
tree behind, and a shared unit is written once.
-/

namespace SchemaCompiler

open FileSystem (Disk Entry FileTree Path Place)
open Target (Language OutputUnit)

namespace FileSystem.Disk

variable {one other before after : Disk} {path : Path} {content : List UInt8}

/-! ## Replacing a file that is there -/

/-- What replacing a file leaves behind can be told from what there was. -/
theorem Replaced.agree (first : Replaced before path content one)
    (second : Replaced before path content other) :
    one.Agree other := by
  refine ⟨second.here.trans first.here.symm, fun place => ?_⟩
  by_cases target : place = path.place before.here
  · rw [target, first.filled, second.filled]
  · by_cases visited : path.parent.Visits before.here place
    · rw [first.way place visited, second.way place visited]
    · rw [first.entry place target visited, second.entry place target visited]

/-- A file that is there with its content and its way is replaced by itself. -/
theorem Replaced.agree_self (replaced : Replaced before path content after)
    (filled : before.tree.get? (path.place before.here) = some (.file content))
    (way : before.HasWay path.parent) :
    before.Agree after := by
  refine ⟨replaced.here, fun place => ?_⟩
  by_cases target : place = path.place before.here
  · rw [target, filled, replaced.filled]
  · by_cases visited : path.parent.Visits before.here place
    · rw [replaced.way place visited, way place visited]
    · exact replaced.entry place target visited

/-- Whatever is at a place stays there, or a file takes its place. -/
theorem Replaced.get?_ne_none (replaced : Replaced before path content after) {place : Place}
    (present : before.tree.get? place ≠ none) : after.tree.get? place ≠ none := by
  by_cases target : place = path.place before.here
  · rw [target, replaced.filled]
    exact nofun
  · by_cases visited : path.parent.Visits before.here place
    · rw [replaced.way place visited]
      exact nofun
    · rw [replaced.entry place target visited]
      exact present

/-- Another file stays as it is. -/
theorem Replaced.file (replaced : Replaced before path content after) {place : Place}
    {old : List UInt8} (isFile : before.tree.get? place = some (.file old))
    (elsewhere : place ≠ path.place before.here) :
    after.tree.get? place = some (.file old) := by
  rw [← FileTree.content?_eq_some_iff, replaced.content? elsewhere,
    FileTree.content?_eq_some_iff, isFile]

theorem HasWay.replaced {way : Path} (hasWay : before.HasWay way)
    (replaced : Replaced before path content after) :
    after.HasWay way := by
  intro place visits
  rw [replaced.here] at visits
  exact replaced.directories place (hasWay place visits)

theorem HasWay.agree {way : Path} (hasWay : before.HasWay way) (same : before.Agree after) :
    after.HasWay way := by
  intro place visits
  rw [same.here] at visits
  rw [same.entry, hasWay place visits]

/-- A path that is found is found after a file has been replaced. -/
theorem Replaced.probe (replaced : Replaced before path content after) {way : Path} {entry : Entry}
    (found : before.probe way = .ok (some entry)) :
    ∃ entry, after.probe way = .ok (some entry) := by
  obtain ⟨clean, looked⟩ := probe_eq_some_iff.mp found
  obtain ⟨place, located, present⟩ := FileTree.lookup_eq_ok_iff.mp looked
  have again := locate_extends replaced.directories located nofun nofun
  obtain ⟨now, isNow⟩ :=
    Option.ne_none_iff_exists'.mp (replaced.get?_ne_none (by rw [present]; exact nofun))
  refine ⟨now, probe_eq_some_iff.mpr ⟨clean, FileTree.lookup_eq_ok_iff.mpr ⟨place, ?_, isNow⟩⟩⟩
  rw [replaced.here, again]

end FileSystem.Disk

namespace Output

/-! ## Writing on disks that agree -/

section Files

variable {one other before after : Disk} {path : Path} {text : String}

theorem Put.agree (first : Put before path text one) (second : Put before path text other) :
    one.Agree other := by
  obtain ⟨content, encoded, first⟩ := first
  obtain ⟨same, encodedSame, second⟩ := second
  cases Except.ok.inj (encoded.symm.trans encodedSame)
  exact first.agree second

theorem SupportWritten.of_agree (same : one.Agree other)
    (written : SupportWritten path text other after) :
    SupportWritten path text one after := by
  cases written with
  | kept entry found disk =>
      exact .kept entry ((same.probe path).symm.trans found) (same.trans disk)
  | wrote absent put => exact .wrote ((same.probe path).symm.trans absent) (put.of_agree same)

theorem SupportWritten.agree (first : SupportWritten path text before one)
    (second : SupportWritten path text before other) : one.Agree other := by
  cases first with
  | kept entry found disk =>
      cases second with
      | kept _ _ disk' => exact disk.symm.trans disk'
      | wrote absent _ => cases found.symm.trans absent
  | wrote absent put =>
      cases second with
      | kept _ found _ => cases found.symm.trans absent
      | wrote _ put' => exact put.agree put'

end Files

namespace Sink

variable {settings : Settings} {unit : OutputUnit} {one other before after : SinkState}

theorem SupportsWritten.agree {directory : Path} {files : List (String × String)}
    {one other oneAfter otherAfter : Disk} (same : one.Agree other)
    (first : SupportsWritten directory files one oneAfter)
    (second : SupportsWritten directory files other otherAfter) : oneAfter.Agree otherAfter := by
  induction first generalizing other with
  | nil =>
      cases second
      exact same
  | cons first _ ih =>
      cases second with
      | cons second others => exact ih (first.agree (second.of_agree same)) others

/-- Sinks that have written the same, on disks that agree. -/
structure Agree (one other : SinkState) : Prop where
  sink : other.sink = one.sink
  disk : one.disk.Agree other.disk

theorem Agree.symm (same : Agree one other) : Agree other one := ⟨same.sink.symm, same.disk.symm⟩

theorem Agree.trans {third : SinkState} (first : Agree one other) (second : Agree other third) :
    Agree one third :=
  ⟨second.sink.trans first.sink, first.disk.trans second.disk⟩

theorem Prepared.agree {oneAfter otherAfter : SinkState} (same : Agree one other)
    (first : Prepared one oneAfter) (second : Prepared other otherAfter) :
    Agree oneAfter otherAfter := by
  unfold Prepared SupportDone at first second
  rw [same.sink] at second
  rcases first with ⟨done, rfl⟩ | ⟨due, sink, files⟩
  · rcases second with ⟨_, rfl⟩ | ⟨due, _⟩
    · exact same
    · cases done.symm.trans due
  · rcases second with ⟨done, _⟩ | ⟨_, otherSink, otherFiles⟩
    · cases done.symm.trans due
    · exact ⟨otherSink.trans sink.symm, files.agree same.disk otherFiles⟩

theorem UnitWritten.of_agree {result : Option Path} (same : Agree one other)
    (written : UnitWritten settings unit other after result) :
    UnitWritten settings unit one after result := by
  cases other
  obtain ⟨sameSink, sameDisk⟩ := same
  cases sameSink
  cases written with
  | skipped already sink disk => exact .skipped already sink (sameDisk.trans disk)
  | kept fresh keeps entry found sink disk =>
      exact .kept fresh keeps entry ((sameDisk.probe _).symm.trans found) sink (sameDisk.trans disk)
  | wrote fresh absent sink put =>
      exact .wrote fresh (fun keeps => (sameDisk.probe _).symm.trans (absent keeps)) sink
        (put.of_agree sameDisk)

/-- What writing a unit leaves behind can be told from what there was. -/
theorem UnitWritten.agree {result otherResult : Option Path}
    (first : UnitWritten settings unit before one result)
    (second : UnitWritten settings unit before other otherResult) : Agree one other := by
  cases first with
  | skipped already sink disk =>
      cases second with
      | skipped _ sink' disk' => exact ⟨sink'.trans sink.symm, disk.symm.trans disk'⟩
      | kept fresh => exact absurd already fresh
      | wrote fresh => exact absurd already fresh
  | kept fresh keeps entry found sink disk =>
      cases second with
      | skipped already => exact absurd already fresh
      | kept _ _ _ _ sink' disk' => exact ⟨sink'.trans sink.symm, disk.symm.trans disk'⟩
      | wrote _ absent => cases found.symm.trans (absent keeps)
  | wrote fresh absent sink put =>
      cases second with
      | skipped already => exact absurd already fresh
      | kept _ keeps _ found => cases found.symm.trans (absent keeps)
      | wrote _ _ sink' put' => exact ⟨sink'.trans sink.symm, put.agree put'⟩

/-! ## Units that come again -/

theorem marked_of_own (sink : Sink) (own : ¬unit.shared = true) : sink.marked unit = sink :=
  if_neg own

theorem mem_marked_iff {sink : Sink} {name : String} :
    name ∈ (sink.marked unit).sharedWritten ↔
      unit.shared = true ∧ name = unit.name ∨ name ∈ sink.sharedWritten := by
  unfold marked
  split
  next shared => simp [shared]
  next own => simp [own]

theorem UnitWritten.pathOf {result : Option Path}
    (written : UnitWritten settings unit before after result) (other : OutputUnit) :
    after.sink.pathOf other = before.sink.pathOf other := by
  obtain ⟨names, sink⟩ := written.sink_eq
  rw [sink]
  rfl

theorem UnitWritten.here {result : Option Path}
    (written : UnitWritten settings unit before after result) :
    after.disk.here = before.disk.here := by
  cases written with
  | skipped _ _ disk => exact disk.here
  | kept _ _ _ _ _ disk => exact disk.here
  | wrote _ _ _ put =>
      obtain ⟨_, _, replaced⟩ := put
      exact replaced.here

theorem UnitWritten.target {result : Option Path}
    (written : UnitWritten settings unit before after result) (other : OutputUnit) :
    after.target other = before.target other := by
  rw [SinkState.target, written.pathOf, written.here, SinkState.target]

/-- A unit that has been seen to: its file is as it would be written, or it is in the way and
kept. -/
inductive Settled (settings : Settings) (state : SinkState) (unit : OutputUnit) : Prop where
  | filled (content : List UInt8) (encoded : Text.encodeUtf8 unit.body = .ok content)
      (isFile : state.disk.tree.get? (state.target unit) = some (.file content))
      (way : state.disk.HasWay (state.sink.pathOf unit).parent)
      (known : unit.shared = true → unit.name ∈ state.sink.sharedWritten)
  | kept (keeps : settings.overwriteExistingFiles.isTrue = false) (entry : Entry)
      (found : state.disk.probe (state.sink.pathOf unit) = .ok (some entry))

/-- Writing a unit again changes nothing. -/
theorem Settled.agree {result : Option Path} (settled : Settled settings before unit)
    (written : UnitWritten settings unit before after result) : Agree before after := by
  cases written with
  | skipped _ sink disk => exact ⟨sink, disk⟩
  | kept _ _ _ _ sink disk => exact ⟨sink, disk⟩
  | wrote fresh absent sink put =>
      cases settled with
      | filled content encoded isFile way known =>
          obtain ⟨same, encodedSame, replaced⟩ := put
          cases Except.ok.inj (encoded.symm.trans encodedSame)
          have own : ¬unit.shared = true := fun shared => fresh ⟨shared, known shared⟩
          exact ⟨sink.trans (marked_of_own _ own), replaced.agree_self isFile way⟩
      | kept keeps entry found => cases found.symm.trans (absent keeps)

/-- A unit that comes for the first time is seen to. -/
theorem UnitWritten.settled {result : Option Path}
    (written : UnitWritten settings unit before after result)
    (fresh : ¬before.sink.HasShared unit) : Settled settings after unit := by
  have path := written.pathOf unit
  have target := written.target unit
  cases written with
  | skipped already => exact absurd already fresh
  | kept _ keeps entry found sink disk => exact .kept keeps entry (by rw [path, disk.probe, found])
  | wrote _ _ sink put =>
      obtain ⟨content, encoded, replaced⟩ := put
      refine .filled content encoded (by rw [target]; exact replaced.filled) ?_ fun shared => ?_
      · rw [path]
        intro place visits
        rw [replaced.here] at visits
        exact replaced.way place visits
      · rw [sink, mem_marked_iff]
        exact .inl ⟨shared, rfl⟩

theorem Settled.of_agree (settled : Settled settings before unit) (same : Agree before after) :
    Settled settings after unit := by
  obtain ⟨sink, disk⟩ := same
  cases settled with
  | filled content encoded isFile way known =>
      refine .filled content encoded ?_ (by rw [sink]; exact way.agree disk)
        (by rw [sink]; exact known)
      rw [SinkState.target, sink, disk.here, disk.entry]
      exact isFile
  | kept keeps entry found => exact .kept keeps entry (by rw [sink, disk.probe, found])

/-- A unit that has been seen to stays so when another is written elsewhere. -/
theorem Settled.step {other : OutputUnit} {result : Option Path}
    (settled : Settled settings before unit)
    (written : UnitWritten settings other before after result)
    (elsewhere : before.target unit ≠ before.target other) :
    Settled settings after unit := by
  have path := written.pathOf unit
  have target := written.target unit
  cases written with
  | skipped _ sink disk => exact settled.of_agree ⟨sink, disk⟩
  | kept _ _ _ _ sink disk => exact settled.of_agree ⟨sink, disk⟩
  | wrote _ _ sink put =>
      obtain ⟨_, _, replaced⟩ := put
      cases settled with
      | filled content encoded isFile way known =>
          refine .filled content encoded ?_ ?_ ?_
          · rw [target]
            exact replaced.file isFile elsewhere
          · rw [path]
            exact way.replaced replaced
          · intro shared
            rw [sink, mem_marked_iff]
            exact .inr (known shared)
      | kept keeps entry found =>
          obtain ⟨entry, found⟩ := replaced.probe found
          exact .kept keeps entry (by rw [path, found])

/-! ## Runs with and without repetitions -/

theorem UnitsWritten.append_iff {units added : List OutputUnit} {paths : List Path} :
    UnitsWritten settings (units ++ added) before paths after ↔
      ∃ between front back, UnitsWritten settings units before front between ∧
        UnitsWritten settings added between back after ∧ paths = front ++ back := by
  induction units generalizing before paths with
  | nil =>
      constructor
      · intro run
        exact ⟨before, [], paths, .nil before, run, rfl⟩
      · rintro ⟨between, front, back, first, second, rfl⟩
        cases first
        exact second
  | cons unit rest ih =>
      constructor
      · intro run
        cases run with
        | cons first others =>
            obtain ⟨between, front, back, front', back', rfl⟩ := ih.mp others
            exact ⟨between, _, back, .cons first front', back', (List.append_assoc ..).symm⟩
      · rintro ⟨between, front, back, first, second, rfl⟩
        cases first with
        | cons first others =>
            rw [List.append_assoc]
            exact .cons first (ih.mpr ⟨between, _, back, others, second, rfl⟩)

theorem UnitsWritten.sink_eq {units : List OutputUnit} {paths : List Path}
    (run : UnitsWritten settings units before paths after) :
    ∃ names, after.sink = { before.sink with sharedWritten := names } := by
  induction run with
  | nil => exact ⟨_, rfl⟩
  | cons first _ ih =>
      obtain ⟨names, sink⟩ := ih
      obtain ⟨_, first⟩ := first.sink_eq
      exact ⟨names, by rw [sink, first]⟩

theorem UnitsWritten.target {units : List OutputUnit} {paths : List Path}
    (run : UnitsWritten settings units before paths after) (unit : OutputUnit) :
    after.target unit = before.target unit := by
  induction run with
  | nil => rfl
  | cons first _ ih => exact ih.trans (first.target unit)

/-- The shared units that a run adds are among its units. -/
theorem UnitsWritten.mem_or_exists {units : List OutputUnit} {paths : List Path}
    (run : UnitsWritten settings units before paths after) {name : String}
    (known : name ∈ after.sink.sharedWritten) :
    name ∈ before.sink.sharedWritten ∨ ∃ unit ∈ units, unit.name = name := by
  induction run with
  | nil => exact .inl known
  | @cons unit rest _ _ _ _ _ first _ ih =>
      rcases ih known with earlier | ⟨other, isOther, named⟩
      · cases first with
        | skipped _ sink => exact .inl (sink ▸ earlier)
        | kept _ _ _ _ sink => exact .inl (sink ▸ earlier)
        | wrote _ _ sink =>
            rw [sink, mem_marked_iff] at earlier
            exact earlier.elim (fun new => .inr ⟨unit, by simp, new.2.symm⟩) .inl
      · exact .inr ⟨other, by simp [isOther], named⟩

/-- Units that can be told by their names, each with a place of its own. -/
structure Apart (state : SinkState) (units : List OutputUnit) : Prop where
  eq_of_name : ∀ one ∈ units, ∀ other ∈ units, one.name = other.name → one = other
  target_ne : ∀ one ∈ units, ∀ other ∈ units, one.name ≠ other.name →
    state.target one ≠ state.target other

theorem Apart.subset {state : SinkState} {units others : List OutputUnit}
    (apart : Apart state units) (sub : ∀ unit ∈ others, unit ∈ units) : Apart state others where
  eq_of_name one isOne other isOther :=
    apart.eq_of_name one (sub one isOne) other (sub other isOther)
  target_ne one isOne other isOther := apart.target_ne one (sub one isOne) other (sub other isOther)

theorem Apart.eq_of_pathOf {state : SinkState} {units : List OutputUnit} (apart : Apart state units)
    {one other : OutputUnit} (isOne : one ∈ units) (isOther : other ∈ units)
    (same : state.sink.pathOf one = state.sink.pathOf other) : one = other := by
  refine apart.eq_of_name one isOne other isOther ?_
  by_contra names
  exact apart.target_ne one isOne other isOther names
    (by rw [SinkState.target, SinkState.target, same])

/-- Units that are written with their repetitions leave behind what the first ones of each name
do. -/
theorem UnitsWritten.agree_firstOfName {units : List OutputUnit} {paths firsts : List Path}
    {oneAfter otherAfter : SinkState} (apart : Apart one units)
    (unused : one.sink.sharedWritten = []) (same : Agree one other)
    (all : UnitsWritten settings units one paths oneAfter)
    (once : UnitsWritten settings (firstOfName units) other firsts otherAfter) :
    Agree oneAfter otherAfter ∧ ∀ unit ∈ units, Settled settings oneAfter unit := by
  -- from the last unit back: it repeats a name, and its unit is settled, or both runs write it
  induction units using List.reverseRecOn generalizing paths firsts oneAfter otherAfter with
  | nil =>
      cases all
      cases once
      exact ⟨same, by simp⟩
  | append_singleton units unit ih =>
      obtain ⟨between, _, _, run, last, _⟩ := append_iff.mp all
      have inner := apart.subset fun _ isUnit => List.mem_append_left [unit] isUnit
      cases last with
      | cons step ended =>
      cases ended
      rw [firstOfName_concat] at once
      split at once
      next repeated =>
        obtain ⟨known, isKnown, named⟩ := repeated
        cases apart.eq_of_name known (by simp [isKnown]) unit (by simp) named
        obtain ⟨agree, settled⟩ := ih inner run once
        have stays := (settled unit isKnown).agree step
        refine ⟨stays.symm.trans agree, fun seen isSeen => ?_⟩
        have isSeen : seen ∈ units := by
          rcases List.mem_append.mp isSeen with old | new
          · exact old
          · exact List.mem_singleton.mp new ▸ isKnown
        exact (settled seen isSeen).of_agree stays
      next new =>
        obtain ⟨_, _, _, otherRun, otherLast, _⟩ := append_iff.mp once
        cases otherLast with
        | cons otherStep ended =>
        cases ended
        obtain ⟨agree, settled⟩ := ih inner run otherRun
        have fresh : ¬between.sink.HasShared unit := by
          rintro ⟨_, known⟩
          rcases run.mem_or_exists known with old | seen
          · simp [unused] at old
          · exact new seen
        refine ⟨step.agree (otherStep.of_agree agree), fun seen isSeen => ?_⟩
        rcases List.mem_append.mp isSeen with old | isLast
        · refine (settled seen old).step step ?_
          rw [run.target, run.target]
          exact apart.target_ne seen isSeen unit (by simp) fun named => new ⟨seen, old, named⟩
        · cases List.mem_singleton.mp isLast
          exact step.settled fresh

/-- A shared unit is written once, and not at all if it was written before. -/
theorem UnitsWritten.count_le {units : List OutputUnit} {paths : List Path}
    (run : UnitsWritten settings units before paths after) (shared : unit.shared = true)
    (own : ∀ other ∈ units, before.sink.pathOf other = before.sink.pathOf unit → other = unit) :
    paths.count (before.sink.pathOf unit) ≤ if unit.name ∈ before.sink.sharedWritten
      then 0 else 1 := by
  induction run with
  | nil => simp
  | @cons next rest before between after path paths first _ ih =>
      rw [first.pathOf] at ih
      simp only [first.pathOf] at ih
      have ih := ih fun other isOther => own other (by simp [isOther])
      cases first with
      | skipped _ sink => simpa [sink] using ih
      | kept _ _ _ _ sink => simpa [sink] using ih
      | wrote fresh _ sink =>
          simp only [sink, mem_marked_iff] at ih
          by_cases here : before.sink.pathOf next = before.sink.pathOf unit
          · cases own next (by simp) here
            have unknown : unit.name ∉ before.sink.sharedWritten :=
              fun known => fresh ⟨shared, known⟩
            simpa [shared, unknown] using ih
          · have elsewhere : (some (before.sink.pathOf next)).toList.count
                (before.sink.pathOf unit) = 0 := by
              simp [here]
            rw [List.count_append, elsewhere, Nat.zero_add]
            refine ih.trans ?_
            split <;> split <;> simp_all

/-! ## Documents -/

/-- Documents that are written one after the other are written as one list of units. -/
theorem writeAll_ends (settings : Settings) (documents : List (List OutputUnit)) (state : SinkState)
    (prepared : documents = [] → state.sink.supportWritten = true) :
    Ends (documents.mapM (write settings)) state
      (fun lists => Completed settings documents.flatten state lists.flatten) fun _ => True := by
  induction documents generalizing state with
  | nil =>
      rw [List.mapM_nil]
      exact .pure ⟨state, .inl ⟨prepared rfl, rfl⟩, .nil state⟩
  | cons units rest ih =>
      rw [List.mapM_cons]
      refine .bind ((write_ends settings units state).mono ?_ fun _ _ => trivial)
      rintro paths between ⟨start, starts, run⟩
      have done : between.sink.supportWritten = true := by
        obtain ⟨names, sink⟩ := run.sink_eq
        rw [sink, starts.sink_eq]
      refine .bind ((ih between fun _ => done).mono ?_ fun _ _ => trivial)
      rintro lists after ⟨again, ⟨_, rfl⟩ | ⟨due, _⟩, others⟩
      · exact .pure ⟨start, starts, UnitsWritten.append_iff.mpr ⟨again, paths, _, run, others, rfl⟩⟩
      · cases done.symm.trans due

end Sink

end Output

namespace Compiler

open Output (Sink SinkState)

variable {compiler : Compiler} {read : DocumentReader}

/-- No unit of a document has a file in another directory. -/
theorem Generates.slash_not_mem {path : Path} {units : List OutputUnit}
    (generates : compiler.Generates read path units) {unit : OutputUnit} (member : unit ∈ units) :
    '/' ∉ (compiler.language.fileName unit.name).toList := by
  obtain ⟨root, done⟩ := generateFile_eq_ok generates
  exact (plainFile_of_generate done member compiler.language).whole

/-- Compatible documents have units that can be told by their names, each with a place of its
own. -/
theorem apart_of_generates {paths : List Path} {documents : List (List OutputUnit)}
    (generate : List.Forall₂ (compiler.Generates read) paths documents)
    (compatible : Compatible compiler.language documents.flatten) {state : SinkState}
    (language : state.sink.language = compiler.language) : Sink.Apart state documents.flatten where
  eq_of_name _ isOne _ isOther := eq_of_name_eq generate compatible isOne isOther
  target_ne one isOne other isOther names same := by
    have target {unit : OutputUnit} (member : unit ∈ documents.flatten) : state.target unit =
        state.sink.directory.place state.disk.here ++ [unit.file compiler.language] := by
      obtain ⟨units, isDocument, inside⟩ := List.mem_flatten.mp member
      obtain ⟨path, _, generates⟩ := exists_left_of_mem generate isDocument
      rw [SinkState.target, Sink.place_pathOf_of_name
        _ (by rw [language]; exact generates.slash_not_mem inside),
        language, OutputUnit.file]
    rw [target isOne, target isOther] at same
    have sameFile : one.file compiler.language = other.file compiler.language := by simpa using same
    exact compatible one isOne other isOther (.inr ⟨names, sameFile⟩)

/-- Where both return, writing a batch at once and writing its documents one after the other, each
with a sink that has written nothing yet, leave the same tree behind. The disks may differ in what
strikes on them. Either way, a shared unit is written once at most. -/
theorem write_batch_agrees_with_documents (compiler : Compiler) (read : DocumentReader)
    {paths : List Path} (nonempty : paths ≠ []) {batch : Batch}
    (merged : (compiler.generateFiles read false paths).outcome.1 = .ok batch)
    {documents : List (List OutputUnit)}
    (generate : List.Forall₂ (compiler.Generates read) paths documents) {directory : Path}
    {start other : SinkState} (fresh : start.sink = { directory, language := compiler.language })
    (same : Sink.Agree start other) {written : List Path} {lists : List (List Path)}
    {after last : SinkState}
    (ran : (Sink.write compiler.settings batch.units).run.run start = (.ok written, after))
    (ranApart : (documents.mapM (Sink.write compiler.settings)).run.run other = (.ok lists, last)) :
    after.disk.Agree last.disk ∧
      ∀ unit ∈ documents.flatten, unit.shared = true →
        written.count (start.sink.pathOf unit) ≤ 1 ∧
        lists.flatten.count (start.sink.pathOf unit) ≤ 1 := by
  have merges := merges_of_generateFiles_eq_ok merged generate
  have notEmpty : documents ≠ [] := by
    rintro rfl
    cases generate
    exact nonempty rfl
  rw [merges.units_eq] at ran
  obtain ⟨one, oneStarts, once⟩ := (Sink.write_ends _ _ start).value ran
  obtain ⟨two, twoStarts, all⟩ :=
    (Sink.writeAll_ends _ documents other (absurd · notEmpty)).value ranApart
  -- both runs see to the support files first, so they come to the units in states that agree
  have oneSink := oneStarts.sink_eq
  have starts := oneStarts.agree same twoStarts
  have twoSink := starts.sink.trans oneSink
  rw [fresh] at oneSink twoSink ⊢
  have oneApart := (apart_of_generates generate merges.compatible (by rw [oneSink])).subset
    fun _ => mem_of_mem_firstOfName
  have twoApart := apart_of_generates generate merges.compatible (by rw [twoSink])
  refine ⟨(Sink.UnitsWritten.agree_firstOfName twoApart (by rw [twoSink]) starts.symm all
    once).1.disk.symm, ?_⟩
  intro unit member shared
  have isFirst := (mem_firstOfName_flatten generate merges.compatible).mpr member
  have onceCount := once.count_le shared fun _ isOther => oneApart.eq_of_pathOf isOther isFirst
  have allCount := all.count_le shared fun _ isOther => twoApart.eq_of_pathOf isOther member
  rw [oneSink] at onceCount
  rw [twoSink] at allCount
  exact ⟨onceCount.trans (by split <;> decide), allCount.trans (by split <;> decide)⟩

/-- A sink for a directory that is not there. -/
def unusedSink (language : Language) : SinkState :=
  { sink := { directory := .ofText "out", language }, disk := {} }

/-- A compiler for Kotlin that keeps existing files and leaves the name of the document out of the
units. -/
def keepingKotlin : Compiler where
  settings :=
    { schemasPath := some (.list [.text "D"])
      language := .text "kotlin"
      addGenerationComment := .bool false
      overwriteExistingFiles := .bool false }
  language := .kotlin

/-- The units that all its documents share. -/
def kotlinShared : List OutputUnit :=
  (Target.sharedUnits (keepingKotlin.settings.style keepingKotlin.language)).toOption.getD []

/-- The units of its documents are those of the types, which can be computed, and the shared
ones. -/
theorem keepingKotlin_generates {path : Path} {ofTypes : List OutputUnit}
    (own : (keepingKotlin.generateFile sharingReader path).outcome.1.toOption.map
      (·.filter (!·.shared)) = some ofTypes) :
    keepingKotlin.Generates sharingReader path (ofTypes ++ kotlinShared) := by
  obtain ⟨units, found, rfl⟩ := Option.map_eq_some_iff.mp own
  have done := Schema.eq_ok_of_toOption found
  obtain ⟨root, generates⟩ := generateFile_eq_ok done
  obtain ⟨graph, ofTypes, shared, _, rfl, generated⟩ := generate_eq_ok generates
  have isShared := generated.shared_eq
  rw [if_pos (by decide)] at isShared
  rw [generated.filter_types, kotlinShared, isShared]
  exact done

/-- The unit that two documents have in common. -/
def colorUnit : OutputUnit :=
  { name := "Color", body := "package generated\n\ntypealias Color = String\n" }

def shapeUnit : OutputUnit := { name := "Shape", body := "package generated\n\nclass Shape\n" }

/-- The units of the two documents. -/
def sharingDocuments : List (List OutputUnit) :=
  [[colorUnit] ++ kotlinShared, [colorUnit, shapeUnit] ++ kotlinShared]

/-- A sink for a directory in which the files of the shared units are there. -/
def usedSink : SinkState where
  sink := { directory := .ofText "out", language := .kotlin }
  disk :=
    { tree :=
        { entries := [(["out"], .directory), (["out", "Validation.kt"], .file [47, 47]),
            (["out", "Validate.kt"], .file [47, 47])] } }

theorem sharingReader_written_alike :
    ∃ batch after last,
      (keepingKotlin.generateFiles sharingReader false
        [⟨"", ["paint"]⟩, ⟨"", ["form"]⟩]).outcome.1 = .ok batch ∧
      List.Forall₂ (keepingKotlin.Generates sharingReader) [⟨"", ["paint"]⟩, ⟨"", ["form"]⟩]
        sharingDocuments ∧
      kotlinShared.map (fun unit => (unit.name, unit.shared)) =
        [("Validation", true), ("Validate", true)] ∧
      (Sink.write keepingKotlin.settings batch.units).run.run usedSink =
        (.ok [⟨"", ["out", "Color.kt"]⟩, ⟨"", ["out", "Shape.kt"]⟩], after) ∧
      (sharingDocuments.mapM (Sink.write keepingKotlin.settings)).run.run usedSink =
        (.ok [[⟨"", ["out", "Color.kt"]⟩], [⟨"", ["out", "Shape.kt"]⟩]], last) ∧
      after.disk.Agree last.disk := by
  have paint : keepingKotlin.Generates sharingReader ⟨"", ["paint"]⟩
      ([colorUnit] ++ kotlinShared) :=
    keepingKotlin_generates (by decide +kernel)
  have form : keepingKotlin.Generates sharingReader ⟨"", ["form"]⟩
      ([colorUnit, shapeUnit] ++ kotlinShared) :=
    keepingKotlin_generates (by decide +kernel)
  have generate := List.Forall₂.cons paint (.cons form .nil)
  -- the second document has all units of the first, so they are compatible as its own are
  have inForm {unit : OutputUnit} (member : unit ∈ sharingDocuments.flatten) :
      unit ∈ [colorUnit, shapeUnit] ++ kotlinShared := by
    grind [sharingDocuments]
  obtain ⟨batch, merged⟩ := generateFiles_returns_iff.mpr ⟨_, generate,
    fun left isLeft right isRight => form.compatible left (inForm isLeft) right (inForm isRight)⟩
  obtain ⟨after, ran⟩ : ∃ after, (Sink.write keepingKotlin.settings batch.units).run.run usedSink =
      (.ok [⟨"", ["out", "Color.kt"]⟩, ⟨"", ["out", "Shape.kt"]⟩], after) := by
    rw [(merges_of_generateFiles_eq_ok merged generate).units_eq]
    exact Ends.exists_run_eq (by decide +kernel)
  obtain ⟨last, ranApart⟩ : ∃ last,
      (sharingDocuments.mapM (Sink.write keepingKotlin.settings)).run.run usedSink =
        (.ok [[⟨"", ["out", "Color.kt"]⟩], [⟨"", ["out", "Shape.kt"]⟩]], last) :=
    Ends.exists_run_eq (by decide +kernel)
  refine ⟨batch, after, last, merged, generate, by decide +kernel, ran, ranApart, ?_⟩
  exact (write_batch_agrees_with_documents keepingKotlin sharingReader
    (by decide) merged generate rfl ⟨rfl, .refl _⟩ ran ranApart).1

/-- Without documents nothing is written, but a batch without units still prepares the directory. -/
theorem empty_batch_prepares_directory :
    (plainCompiler.generateFiles sharingReader false []).outcome.1 = .ok {} ∧
    List.Forall₂ (plainCompiler.Generates sharingReader) [] [] ∧
    ∃ after, (Sink.write plainCompiler.settings []).run.run (unusedSink .python) = (.ok [], after) ∧
      (([] : List (List OutputUnit)).mapM (Sink.write plainCompiler.settings)).run.run
        (unusedSink .python) = (.ok [], (unusedSink .python)) ∧
      ¬after.disk.Agree (unusedSink .python).disk := by
  have written :
      ((Sink.write plainCompiler.settings []).run.run (unusedSink .python)).1.toOption = some [] ∧
      ((Sink.write plainCompiler.settings []).run.run (unusedSink .python)).2.disk.tree.get?
        ["out", "__init__.py"] = some (.file []) := by decide +kernel
  obtain ⟨after, ran⟩ := Ends.exists_run_eq written.1
  refine ⟨rfl, .nil, after, ran, rfl, fun agree => ?_⟩
  have missing := agree.entry ["out", "__init__.py"]
  rw [ran] at written
  rw [written.2] at missing
  cases missing

end Compiler

end SchemaCompiler
