import SchemaCompiler.Proofs.OutputPath
import SchemaCompiler.Proofs.SinkStep

/-!
# What a write can change

A write changes no files but those of its units and the support files of the language, and each of
these as a whole, whatever fails on the way and whatever the check of the contents lets pass. A file
that is to be kept is kept if its path is found before directories are made. A path with a step back
out of a directory that is missing is not: making the directory brings the file behind it into
sight, after the question has been asked.
-/

namespace SchemaCompiler.FileSystem

/-! ## Paths that overlook a file -/

namespace Disk

variable {allowed : Place → List UInt8 → Prop} {start disk after : Disk} {path : Path}

/-- Is nothing found at a path, although there is a file at its place? -/
def Overlooks (disk : Disk) (path : Path) : Prop :=
  disk.probe path = .ok none ∧ (disk.tree.content? (path.place disk.here)).isSome = true

/-- Only a path with a step back overlooks a file, as long as everything lies in a directory and the
path can be that of a file at all. -/
theorem not_overlooks_of_straight (rooted : disk.tree.Rooted) (straight : ".." ∉ path.parts)
    (clean : path.hasZero = false) : ¬disk.Overlooks path := by
  rintro ⟨unseen, isFile⟩
  obtain ⟨content, isFile⟩ := Option.isSome_iff_exists.mp isFile
  have found := FileTree.content?_eq_some_iff.mp isFile
  have lost := (probe_eq_none_iff.mp unseen).resolve_left (by simp [clean])
  have located : disk.tree.locate disk.here path = .ok (path.place disk.here) ∨
      disk.tree.locate disk.here path = .error .nameTooLong := by
    unfold FileTree.locate
    split
    · exact .inr rfl
    · have isPlace : path.place disk.here = path.start disk.here ++ path.parts :=
        Path.collapse_straight straight _
      rw [isPlace] at found ⊢
      have present : disk.tree.get? (path.start disk.here ++ path.parts) ≠ none := by simp [found]
      exact rooted.walk straight present
  rcases located with located | long
  · rw [FileTree.lookup_eq_ok_iff.mpr ⟨_, located, found⟩] at lost
    rcases lost with lost | lost <;> cases lost
  · rw [FileTree.lookup_of_locate_eq_error long] at lost
    rcases lost with lost | lost <;> cases lost

/-- A disk on which some files have changed, each to a content that is allowed. -/
structure Kept (allowed : Place → List UInt8 → Prop) (start disk : Disk) : Prop where
  here : disk.here = start.here
  directories : disk.tree.Extends start.tree
  content : ∀ place, disk.tree.content? place = start.tree.content? place ∨
    ∃ content, allowed place content ∧ disk.tree.content? place = some content

theorem Kept.refl (start : Disk) : Kept allowed start start := ⟨rfl, fun _ => id, fun _ => .inl rfl⟩

theorem Kept.grown {made : Place → Prop} (kept : Kept allowed start disk)
    (grown : Grown made disk after) :
    Kept allowed start after where
  here := grown.here.trans kept.here
  directories place directory := grown.directories place (kept.directories place directory)
  content place := by
    rw [grown.content?]
    exact kept.content place

theorem Kept.agree (kept : Kept allowed start disk) (agree : disk.Agree after) :
    Kept allowed start after := by
  have grown : Grown (fun _ => False) disk after := agree.grown
  exact kept.grown grown

theorem Kept.replaced {content : List UInt8} (kept : Kept allowed start disk)
    (replaced : Replaced disk path content after)
    (isAllowed : allowed (path.place start.here) content) :
    Kept allowed start after where
  here := replaced.here.trans kept.here
  directories place directory := replaced.directories place (kept.directories place directory)
  content place := by
    by_cases target : place = path.place disk.here
    · subst target
      refine .inr ⟨content, ?_, FileTree.content?_eq_some_iff.mpr replaced.filled⟩
      rw [kept.here]
      exact isAllowed
    · rw [replaced.content? target]
      exact kept.content place

/-- A file that was in sight at the start stays in sight, so there was none where there is nothing
in sight now. -/
theorem Kept.absent (kept : Kept allowed start disk) (absent : disk.probe path = .ok none)
    (clear : ¬start.Overlooks path) : start.tree.content? (path.place start.here) = none := by
  by_contra present
  have seen : start.probe path ≠ .ok none :=
    fun unseen => clear ⟨unseen, Option.isSome_iff_ne_none.mpr present⟩
  rw [Ne, probe_eq_none_iff, not_or, not_or] at seen
  obtain ⟨clean, entry, directory⟩ := seen
  have absent := (probe_eq_none_iff.mp absent).resolve_left clean
  rw [kept.here] at absent
  cases located : start.tree.locate start.here path with
  | error reason =>
      have lost := FileTree.lookup_of_locate_eq_error located
      rw [lost] at entry directory
      have again := locate_extends kept.directories located (by simpa using entry)
        (by simpa using directory)
      rw [FileTree.lookup_of_locate_eq_error again] at absent
      exact absent.elim entry directory
  | ok place =>
      have again := locate_extends kept.directories located nofun nofun
      rw [eq_place_of_locate located] at again
      obtain ⟨content, isFile⟩ : ∃ content, disk.tree.content? (path.place start.here) =
          some content := by
        rcases kept.content (path.place start.here) with same | ⟨content, _, isFile⟩
        · rw [same]
          exact Option.ne_none_iff_exists'.mp present
        · exact ⟨content, isFile⟩
      have found :=
        FileTree.lookup_eq_ok_iff.mpr ⟨_, again, FileTree.content?_eq_some_iff.mp isFile⟩
      rw [found] at absent
      rcases absent with absent | absent <;> cases absent

end Disk

end SchemaCompiler.FileSystem

namespace SchemaCompiler.Output

open FileSystem (Disk FileTree Path Place)
open Target (Language OutputUnit)

namespace SinkState

/-- The path of a support file. -/
def supportPath (state : SinkState) (file : String × String) : Path :=
  state.sink.directory.join (.ofText file.1)

/-- The place of a support file. -/
def support (state : SinkState) (file : String × String) : Place :=
  (state.supportPath file).place state.disk.here

/-- The content of the file at a place. -/
def content? (state : SinkState) (place : Place) : Option (List UInt8) :=
  state.disk.tree.content? place

end SinkState

namespace Sink

/-! ## What is allowed -/

/-- A file whose text is put at a path, and if the writer is careful only where there was none in
sight. -/
structure Fills (start : Disk) (path : Path) (text : String) (careful : Prop) (place : Place)
    (content : List UInt8) :
    Prop where
  target : path.place start.here = place
  encoded : Text.encodeUtf8 text = .ok content
  absent : careful → ¬start.Overlooks path → start.tree.content? place = none

/-- A file is filled against the will of the writer only if its path overlooks it. -/
theorem Fills.overlooks {start : Disk} {path : Path} {text : String} {careful : Prop}
    {place : Place} {content : List UInt8} (fills : Fills start path text careful place content)
    (isCareful : careful) (isFile : (start.tree.content? place).isSome = true) :
    start.Overlooks path := by
  by_contra clear
  rw [fills.absent isCareful clear] at isFile
  cases isFile

/-- The contents that a write of units can give to places. -/
def Allowed (settings : Settings) (units : List OutputUnit) (start : SinkState) (place : Place)
    (content : List UInt8) : Prop :=
  (∃ unit ∈ units, Fills start.disk (start.sink.pathOf unit) unit.body
    (settings.overwriteExistingFiles.isTrue = false) place content) ∨
  ∃ file ∈ start.sink.language.supportFiles,
    Fills start.disk (start.supportPath file) file.2 True place content

/-- A state after some of a write. The sink still writes to where it wrote. -/
structure Confined (settings : Settings) (units : List OutputUnit) (start state : SinkState) :
    Prop where
  directory : state.sink.directory = start.sink.directory
  language : state.sink.language = start.sink.language
  kept : Disk.Kept (Allowed settings units start) start.disk state.disk

variable {settings : Settings} {units : List OutputUnit} {start before after : SinkState}

theorem Confined.pathOf (confined : Confined settings units start before) (unit : OutputUnit) :
    before.sink.pathOf unit = start.sink.pathOf unit := by
  rw [Sink.pathOf, Sink.pathOf, confined.directory, confined.language]

/-! ## Steps -/

theorem kept_put {allowed : Place → List UInt8 → Prop} {begin disk done : Disk} {path : Path}
    {text : String} (kept : Disk.Kept allowed begin disk) (put : Put disk path text done)
    (fills : ∀ content, Text.encodeUtf8 text = .ok content →
      allowed (path.place begin.here) content) :
    Disk.Kept allowed begin done := by
  obtain ⟨content, encoded, replaced⟩ := put
  exact kept.replaced replaced (fills content encoded)

/-- Writing one of the units keeps the write confined. -/
theorem Confined.unitWritten (confined : Confined settings units start before) {unit : OutputUnit}
    (member : unit ∈ units) {result : Option Path}
    (written : UnitWritten settings unit before after result) :
    Confined settings units start after := by
  obtain ⟨names, sink⟩ := written.sink_eq
  refine ⟨by rw [sink, confined.directory], by rw [sink, confined.language], ?_⟩
  cases written with
  | skipped _ _ disk => exact confined.kept.agree disk
  | kept _ _ _ _ _ disk => exact confined.kept.agree disk
  | wrote _ absent _ put =>
      rw [confined.pathOf] at absent put
      refine kept_put confined.kept put fun content encoded => ?_
      exact .inl
        ⟨unit, member, rfl, encoded, fun careful clear =>
          confined.kept.absent (absent careful) clear⟩

theorem Confined.unitFailed (confined : Confined settings units start before) {unit : OutputUnit}
    (failed : UnitFailed unit before after) : Confined settings units start after :=
  ⟨failed.1 ▸ confined.directory, failed.1 ▸ confined.language, confined.kept.grown failed.2⟩

/-- Seeing to a support file keeps the write confined. -/
theorem kept_supportWritten {disk done : Disk}
    (kept : Disk.Kept (Allowed settings units start) start.disk disk) {file : String × String}
    (member : file ∈ start.sink.language.supportFiles)
    (written : SupportWritten (start.supportPath file) file.2 disk done) :
    Disk.Kept (Allowed settings units start) start.disk done := by
  cases written with
  | kept _ _ same => exact kept.agree same
  | wrote absent put =>
      refine kept_put kept put fun content encoded => ?_
      exact .inr ⟨file, member, rfl, encoded, fun _ clear => kept.absent absent clear⟩

/-! ## Runs -/

theorem Confined.unitsWritten (confined : Confined settings units start before)
    {part : List OutputUnit} (members : ∀ unit ∈ part, unit ∈ units) {paths : List Path}
    (written : UnitsWritten settings part before paths after) :
    Confined settings units start after := by
  induction written with
  | nil => exact confined
  | cons first _ ih =>
      rw [List.forall_mem_cons] at members
      exact ih (confined.unitWritten members.1 first) members.2

theorem Confined.unitsFailed (confined : Confined settings units start before)
    {part : List OutputUnit} (members : ∀ unit ∈ part, unit ∈ units)
    (failed : UnitsFailed settings part before after) :
    Confined settings units start after := by
  induction failed with
  | here failed => exact confined.unitFailed failed
  | later first _ ih =>
      rw [List.forall_mem_cons] at members
      exact ih (confined.unitWritten members.1 first) members.2

theorem kept_supportsWritten {disk done : Disk}
    (kept : Disk.Kept (Allowed settings units start) start.disk disk)
    {files : List (String × String)}
    (members : ∀ file ∈ files, file ∈ start.sink.language.supportFiles)
    (written : SupportsWritten start.sink.directory files disk done) :
    Disk.Kept (Allowed settings units start) start.disk done := by
  induction written with
  | nil => exact kept
  | cons first _ ih =>
      rw [List.forall_mem_cons] at members
      exact ih (kept_supportWritten kept members.1 first) members.2

theorem kept_supportsFailed {disk done : Disk}
    (kept : Disk.Kept (Allowed settings units start) start.disk disk)
    {files : List (String × String)}
    (members : ∀ file ∈ files, file ∈ start.sink.language.supportFiles)
    (failed : SupportsFailed start.sink.directory files disk done) :
    Disk.Kept (Allowed settings units start) start.disk done := by
  induction failed with
  | here failed => exact kept.grown failed
  | later first _ ih =>
      rw [List.forall_mem_cons] at members
      exact ih (kept_supportWritten kept members.1 first) members.2

theorem Prepared.confined (prepared : Prepared start after) :
    Confined settings units start after := by
  rcases prepared with ⟨_, rfl⟩ | ⟨_, sink, supports⟩
  · exact ⟨rfl, rfl, .refl _⟩
  · exact ⟨by rw [sink], by rw [sink], kept_supportsWritten (.refl _) (fun _ => id) supports⟩

/-- A write is confined, whether it returns or fails. -/
theorem write_confined (settings : Settings) (units : List OutputUnit) (start : SinkState) :
    Confined settings units start ((write settings units).run.run start).2 := by
  refine Ends.state ((write_ends settings units start).mono ?_ ?_)
  · rintro _ after ⟨between, prepared, written⟩
    exact prepared.confined.unitsWritten (fun _ => id) written
  · rintro after (⟨sink, supports⟩ | ⟨between, prepared, failed⟩)
    · exact ⟨by rw [sink], by rw [sink], kept_supportsFailed (.refl _) (fun _ => id) supports⟩
    · exact prepared.confined.unitsFailed (fun _ => id) failed

/-! ## The places of a write -/

theorem supportFiles_unique {language : Language} {one other : String × String}
    (isOne : one ∈ language.supportFiles) (isOther : other ∈ language.supportFiles) :
    one = other := by
  cases language with
  | kotlin => cases isOne
  | python => rw [List.mem_singleton.mp isOne, List.mem_singleton.mp isOther]

theorem support_eq (start : SinkState) {file : String × String}
    (isSupport : file ∈ start.sink.language.supportFiles) :
    start.support file = start.sink.directory.place start.disk.here ++ [file.1] := by
  cases language : start.sink.language with
  | kotlin =>
      rw [language] at isSupport
      cases isSupport
  | python =>
      rw [language] at isSupport
      cases List.mem_singleton.mp isSupport
      exact Path.place_join (by decide) (by decide) (by decide) start.sink.directory start.disk.here

theorem support_ne_target (start : SinkState) {file : String × String}
    (isSupport : file ∈ start.sink.language.supportFiles) (unit : OutputUnit) :
    start.support file ≠ start.target unit := by
  have whole : '/' ∉ (start.sink.language.fileName unit.name).toList := by
    cases language : start.sink.language with
    | kotlin =>
        rw [language] at isSupport
        cases isSupport
    | python => exact slash_not_mem_python unit.name
  rw [support_eq start isSupport, SinkState.target, place_pathOf_of_name start.sink whole]
  intro same
  exact fileName_ne_support _ isSupport unit.name (by simpa using same.symm)

theorem target_ne_temporary (start : SinkState) (unit : OutputUnit) (directory : Place)
    (name : String) (number : Nat) :
    start.target unit ≠ directory ++ [Disk.temporaryName name number] := by
  obtain ⟨place, stem, isTarget⟩ := start.sink.place_pathOf unit start.disk.here
  rw [SinkState.target, isTarget]
  intro same
  exact ending_ne_temporaryName _ stem name number
    (List.append_inj_right' same rfl |> List.singleton_inj.mp)

theorem support_ne_temporary (start : SinkState) {file : String × String}
    (isSupport : file ∈ start.sink.language.supportFiles) (directory : Place) (name : String)
    (number : Nat) :
    start.support file ≠ directory ++ [Disk.temporaryName name number] := by
  rw [support_eq start isSupport]
  intro same
  have last : file.1 = Disk.temporaryName name number :=
    List.append_inj_right' same rfl |> List.singleton_inj.mp
  cases language : start.sink.language with
  | kotlin =>
      rw [language] at isSupport
      cases isSupport
  | python =>
      rw [language] at isSupport
      cases List.mem_singleton.mp isSupport
      exact ending_ne_temporaryName .python "__init__" name number last

/-- A write, whether it returns or fails and whatever strikes the disk, changes whole files only,
and only those of its units and the support files. It leaves no temporary file. A support file that
is there is kept, and so is every file if existing files are to be kept, unless a path overlooks it,
which a path without steps back does not. -/
theorem write_changes_whole_files {settings : Settings} {units : List OutputUnit}
    {start after : SinkState} (ended : ((write settings units).run.run start).2 = after) :
    (∀ place, (∀ unit ∈ units, start.target unit ≠ place) →
      (∀ file ∈ start.sink.language.supportFiles, start.support file ≠ place) →
      after.content? place = start.content? place) ∧
    (∀ unit ∈ units, after.content? (start.target unit) = start.content? (start.target unit) ∨
      ∃ other ∈ units, start.target other = start.target unit ∧
        ∃ content, Text.encodeUtf8 other.body = .ok content ∧
          after.content? (start.target unit) = some content) ∧
    (∀ file ∈ start.sink.language.supportFiles,
      (start.content? (start.support file)).isSome = true →
      after.content? (start.support file) = start.content? (start.support file) ∨
      start.disk.Overlooks (start.supportPath file)) ∧
    (∀ directory name number, after.content? (directory ++ [Disk.temporaryName name number]) =
      start.content? (directory ++ [Disk.temporaryName name number])) ∧
    (settings.overwriteExistingFiles.isTrue = false →
      ∀ place, (start.content? place).isSome = true →
      after.content? place = start.content? place ∨
      (∃ unit ∈ units, start.target unit = place ∧ start.disk.Overlooks (start.sink.pathOf unit)) ∨
      ∃ file ∈ start.sink.language.supportFiles, start.support file = place ∧
        start.disk.Overlooks (start.supportPath file)) ∧
    (start.disk.tree.Rooted → ∀ path : Path, ".." ∉ path.parts → path.hasZero = false →
      ¬start.disk.Overlooks path) := by
  subst ended
  have changes := (write_confined settings units start).kept.content
  refine ⟨?_, ?_, ?_, ?_, ?_, fun rooted path => Disk.not_overlooks_of_straight rooted⟩
  · intro place noUnit noSupport
    rcases changes place with same | ⟨_, ⟨unit, member, fills⟩ | ⟨file, isSupport, fills⟩, _⟩
    · exact same
    · exact absurd fills.target (noUnit unit member)
    · exact absurd fills.target (noSupport file isSupport)
  · intro unit member
    rcases changes (start.target unit) with same |
      ⟨content, ⟨other, isOther, fills⟩ | ⟨file, isSupport, fills⟩, filled⟩
    · exact .inl same
    · exact .inr ⟨other, isOther, fills.target, content, fills.encoded, filled⟩
    · exact absurd fills.target (support_ne_target start isSupport unit)
  · intro file isSupport isFile
    rcases changes (start.support file) with same |
      ⟨_, ⟨unit, _, fills⟩ | ⟨other, isOther, fills⟩, _⟩
    · exact .inl same
    · exact absurd fills.target.symm (support_ne_target start isSupport unit)
    · cases supportFiles_unique isSupport isOther
      exact .inr (fills.overlooks trivial isFile)
  · intro directory name number
    rcases changes (directory ++ [Disk.temporaryName name number]) with
      same | ⟨_, ⟨unit, _, fills⟩ | ⟨file, isSupport, fills⟩, _⟩
    · exact same
    · exact absurd fills.target (target_ne_temporary start unit directory name number)
    · exact absurd fills.target (support_ne_temporary start isSupport directory name number)
  · intro careful place isFile
    rcases changes place with same | ⟨_, ⟨unit, member, fills⟩ | ⟨file, isSupport, fills⟩, _⟩
    · exact .inl same
    · exact .inr (.inl ⟨unit, member, fills.target, fills.overlooks careful isFile⟩)
    · exact .inr (.inr ⟨file, isSupport, fills.target, fills.overlooks trivial isFile⟩)

/-- Settings that keep existing files. -/
def keeping : Settings := { overwriteExistingFiles := .bool false }

/-- A sink of a directory with two files, on a disk that is full when a temporary file is filled. -/
def nearlyFull : SinkState where
  sink := { directory := .ofText "out", language := .python }
  disk :=
    { tree :=
        { entries := [(["out"], .directory), (["out", "__init__.py"], .file [35]),
          (["out", "a.py"], .file [35])] }
      faults := [none, none, none, none, none, some .noSpace] }

/-- A unit whose file is there, and one that finds the disk full. -/
def twoUnits : List OutputUnit :=
  [{ name := "A", body := "a = 1\n" }, { name := "B", body := "b = 2\n" }]

theorem nearlyFull_keeps_files :
    ((write keeping twoUnits).run.run nearlyFull).1.toOption.isSome = false ∧
    ((write keeping twoUnits).run.run nearlyFull).2.content? ["out", "a.py"] = some [35] ∧
    ((write keeping twoUnits).run.run nearlyFull).2.content? ["out", "__init__.py"] = some [35] ∧
    ((write keeping twoUnits).run.run nearlyFull).2.content? ["out", Disk.temporaryName "b.py" 0] =
      none ∧
    ((write keeping twoUnits).run.run nearlyFull).2.content? ["a.py"] = none := by
  obtain ⟨others, _, supports, temporaries, careful, straight⟩ :=
    write_changes_whole_files (rfl : ((write keeping twoUnits).run.run nearlyFull).2 = _)
  have clear := straight (FileTree.Rooted.of_entries (by decide))
  have straightUnits : ∀ unit ∈ twoUnits, ".." ∉ (nearlyFull.sink.pathOf unit).parts ∧
      (nearlyFull.sink.pathOf unit).hasZero = false := by decide +kernel
  have clearSupport : ¬nearlyFull.disk.Overlooks (nearlyFull.supportPath ("__init__.py", "")) :=
    clear _ (by decide) (by decide)
  refine ⟨by decide +kernel, ?_, ?_, ?_, ?_⟩
  · rcases careful rfl ["out", "a.py"] rfl with same | ⟨unit, member, _, overlooks⟩ |
      ⟨file, isSupport, _, overlooks⟩
    · exact same
    · exact absurd overlooks (clear _ (straightUnits unit member).1 (straightUnits unit member).2)
    · cases List.mem_singleton.mp isSupport
      exact absurd overlooks clearSupport
  · exact (supports ("__init__.py", "") (List.mem_singleton.mpr rfl)
      (by decide +kernel)).resolve_right clearSupport
  · exact (temporaries ["out"] "b.py" 0).trans (by decide +kernel)
  · refine (others ["a.py"] (by decide +kernel) ?_).trans rfl
    intro file isSupport
    cases List.mem_singleton.mp isSupport
    decide

/-- A sink whose directory is behind a step back out of a missing one. -/
def behindMissing : SinkState where
  sink := { directory := .ofText "missing/../out", language := .python }
  disk := { tree := { entries := [(["out"], .directory), (["out", "__init__.py"], .file [35])] } }

/-- The support file that was there is written over, because its path is asked for too early. -/
theorem behindMissing_loses_support :
    behindMissing.content? ["out", "__init__.py"] = some [35] ∧
    ((write {} []).run.run behindMissing).1.toOption.isSome = true ∧
    ((write {} []).run.run behindMissing).2.content? ["out", "__init__.py"] = some [] := by
  decide +kernel

end Sink

end SchemaCompiler.Output
