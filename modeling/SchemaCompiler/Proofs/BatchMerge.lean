import Mathlib.Data.List.Perm.Basic
import SchemaCompiler.Proofs.Compilation
import SchemaCompiler.Proofs.Generation

/-!
# Merging the units of a batch

A batch compares each document only with the units it holds, which are the first ones with their
names. This is as good as comparing all documents with each other: of the units that came before,
each has its name and its body in the batch, and so a conflict with any of them is a conflict with
one that the batch holds.

The invariant is `Batch.Merges`: the batch holds the units of some list, without those that repeat a
name, and no two units of the list conflict. Adding a document keeps it or fails
(`extend_eq_ok_iff`), hence so does adding any number of them.
-/

namespace SchemaCompiler

open FileSystem (Path)
open Schema (Failure Logged bind_eq_ok)
open Target (Language OutputUnit)

/-- Units that cannot stand in one batch: those with one name and two bodies, and those with two
names and one file. -/
def Conflict (language : Language) (left right : OutputUnit) : Prop :=
  (left.name = right.name ∧ left.body ≠ right.body) ∨
    (left.name ≠ right.name ∧ left.file language = right.file language)

theorem Conflict.symm {language : Language} {left right : OutputUnit}
    (conflict : Conflict language left right) : Conflict language right left :=
  conflict.imp (.imp .symm .symm) (.imp .symm .symm)

/-- Units no two of which conflict. -/
def Compatible (language : Language) (units : List OutputUnit) : Prop :=
  ∀ left ∈ units, ∀ right ∈ units, ¬Conflict language left right

theorem Compatible.append_iff {language : Language} {before after : List OutputUnit} :
    Compatible language (before ++ after) ↔ Compatible language before ∧ Compatible language after ∧
      ∀ left ∈ before, ∀ right ∈ after, ¬Conflict language left right := by
  constructor
  · intro compatible
    exact ⟨fun left isLeft right isRight =>
      compatible left (by simp [isLeft]) right (by simp [isRight]),
      fun left isLeft right isRight => compatible left (by simp [isLeft]) right (by simp [isRight]),
      fun left isLeft right isRight => compatible left (by simp [isLeft]) right (by simp [isRight])⟩
  · rintro ⟨first, second, across⟩ left isLeft right isRight conflict
    rcases List.mem_append.mp isLeft with isLeft | isLeft <;>
      rcases List.mem_append.mp isRight with isRight | isRight
    · exact first left isLeft right isRight conflict
    · exact across left isLeft right isRight conflict
    · exact across right isRight left isLeft conflict.symm
    · exact second left isLeft right isRight conflict

/-- Documents none of which conflicts within itself are compatible exactly if no two of them
conflict. -/
theorem compatible_flatten_iff {language : Language} {documents : List (List OutputUnit)}
    (own : ∀ units ∈ documents, Compatible language units) :
    Compatible language documents.flatten ↔
      documents.Pairwise fun left right =>
        ∀ unit ∈ left, ∀ other ∈ right, ¬Conflict language unit other := by
  induction documents with
  | nil => simp [Compatible]
  | cons units rest ih =>
      obtain ⟨first, others⟩ := List.forall_mem_cons.mp own
      rw [List.flatten_cons, Compatible.append_iff, List.pairwise_cons, ih others]
      constructor
      · rintro ⟨_, apart, across⟩
        refine ⟨fun document isDocument unit isUnit other isOther => ?_, apart⟩
        exact across unit isUnit other (List.mem_flatten_of_mem isDocument isOther)
      · rintro ⟨across, apart⟩
        refine ⟨first, apart, fun unit isUnit other isOther => ?_⟩
        obtain ⟨document, isDocument, inside⟩ := List.mem_flatten.mp isOther
        exact across document isDocument unit isUnit other inside

/-- Units that go to different files do not conflict. -/
theorem compatible_of_nodup_files {language : Language} {units : List OutputUnit}
    (files : (units.map (·.file language)).Nodup) : Compatible language units := by
  rintro left isLeft right isRight conflict
  have same : left.file language = right.file language := by
    rcases conflict with ⟨name, _⟩ | ⟨_, file⟩
    · exact congrArg language.fileName name
    · exact file
  cases List.inj_on_of_nodup_map files isLeft isRight same
  simp [Conflict] at conflict

/-! ## Units without repetitions -/

/-- The units of a list without those that repeat the name of one before. -/
def firstOfName (units : List OutputUnit) : List OutputUnit :=
  units.eraseDupsBy fun left right => left.name == right.name

theorem firstOfName_concat (units : List OutputUnit) (unit : OutputUnit) :
    firstOfName (units ++ [unit]) =
      if ∃ other ∈ units, other.name = unit.name then firstOfName units
      else firstOfName units ++ [unit] := by
  -- what the first unit removes need not be looked at again, so the induction is on the length
  induction size : units.length using Nat.strongRecOn generalizing units with
  | ind _ ih =>
      cases units with
      | nil => rfl
      | cons first rest =>
          unfold firstOfName at ih ⊢
          rw [List.cons_append, List.eraseDupsBy_cons, List.eraseDupsBy_cons, List.filter_append]
          by_cases same : first.name = unit.name
          · have repeated : ∃ other ∈ first :: rest, other.name = unit.name :=
              ⟨first, by simp, same⟩
            rw [if_pos repeated]
            simp [same]
          · have kept : [unit].filter (fun other => decide ((other.name == first.name) = false)) =
                [unit] := by
              simp [Ne.symm same]
            rw [kept, ih _ (by
              rw [← size, List.length_cons]
              exact Nat.lt_succ_of_le (List.length_filter_le ..)) _ rfl]
            have iff :
                (∃ other ∈ rest.filter fun other => decide ((other.name == first.name) = false),
                other.name = unit.name) ↔ ∃ other ∈ first :: rest, other.name = unit.name := by
              grind
            by_cases repeated : ∃ other ∈ first :: rest, other.name = unit.name
            · rw [if_pos repeated, if_pos (iff.mpr repeated)]
            · rw [if_neg repeated, if_neg (mt iff.mp repeated), List.cons_append]

theorem mem_of_mem_firstOfName {units : List OutputUnit} {unit : OutputUnit}
    (member : unit ∈ firstOfName units) : unit ∈ units := by
  induction units using List.reverseRecOn with
  | nil => exact member
  | append_singleton units last ih =>
      rw [firstOfName_concat] at member
      split at member
      · exact List.mem_append_left _ (ih member)
      · exact (List.mem_append.mp member).elim (fun old => List.mem_append_left _ (ih old))
          fun new => List.mem_append_right _ new

theorem exists_mem_firstOfName {units : List OutputUnit} {unit : OutputUnit}
    (member : unit ∈ units) :
    ∃ other ∈ firstOfName units, other.name = unit.name := by
  induction units using List.reverseRecOn generalizing unit with
  | nil => cases member
  | append_singleton units last ih =>
      rw [firstOfName_concat]
      split
      next repeated =>
        rcases List.mem_append.mp member with old | new
        · exact ih old
        · cases List.mem_singleton.mp new
          obtain ⟨other, isOther, same⟩ := repeated
          obtain ⟨first, isFirst, sameFirst⟩ := ih isOther
          exact ⟨first, isFirst, sameFirst.trans same⟩
      next =>
        rcases List.mem_append.mp member with old | new
        · obtain ⟨other, isOther, same⟩ := ih old
          exact ⟨other, List.mem_append_left _ isOther, same⟩
        · exact ⟨unit, List.mem_append_right _ new, rfl⟩

theorem nodup_names_firstOfName (units : List OutputUnit) :
    ((firstOfName units).map (·.name)).Nodup := by
  induction units using List.reverseRecOn with
  | nil => exact List.nodup_nil
  | append_singleton units last ih =>
      rw [firstOfName_concat]
      split
      · exact ih
      next new =>
        rw [List.map_append, List.nodup_append]
        refine ⟨ih, by simp, ?_⟩
        rintro name isName other isOther rfl
        obtain ⟨unit, isUnit, rfl⟩ := List.mem_map.mp isName
        simp only [List.map_cons, List.map_nil, List.mem_singleton] at isOther
        exact new ⟨unit, mem_of_mem_firstOfName isUnit, isOther⟩

/-- Of units that do not conflict, the first ones with their names go to different files. -/
theorem Compatible.nodup_files {language : Language} {units : List OutputUnit}
    (compatible : Compatible language units) :
    ((firstOfName units).map (·.file language)).Nodup := by
  have names := nodup_names_firstOfName units
  refine List.Nodup.map_on ?_ (List.Nodup.of_map _ names)
  intro left isLeft right isRight sameFile
  have noConflict := compatible left (mem_of_mem_firstOfName isLeft) right
    (mem_of_mem_firstOfName isRight)
  refine List.inj_on_of_nodup_map names isLeft isRight ?_
  by_contra different
  exact noConflict (.inr ⟨different, sameFile⟩)

/-- A unit conflicts with one of some compatible units exactly if it does so with one of the
first. -/
theorem Compatible.conflict_firstOfName_iff {language : Language} {units : List OutputUnit}
    (compatible : Compatible language units) (unit : OutputUnit) :
    (∃ other ∈ firstOfName units, Conflict language other unit) ↔
      ∃ other ∈ units, Conflict language other unit := by
  constructor
  · rintro ⟨other, isOther, conflict⟩
    exact ⟨other, mem_of_mem_firstOfName isOther, conflict⟩
  · rintro ⟨other, isOther, conflict⟩
    obtain ⟨first, isFirst, sameName⟩ := exists_mem_firstOfName isOther
    have sameBody : first.body = other.body := by
      by_contra different
      exact compatible first (mem_of_mem_firstOfName isFirst) other isOther
        (.inl ⟨sameName, different⟩)
    refine ⟨first, isFirst, ?_⟩
    unfold Conflict OutputUnit.file at conflict ⊢
    rwa [sameName, sameBody]

/-! ## Adding a document -/

namespace Batch

variable {language : Language} {batch : Batch}

theorem checkUnits_eq_ok_iff {document : String} {units : List OutputUnit} :
    batch.checkUnits language document units = .ok () ↔
      ∀ unit ∈ units, batch.checkUnit language document unit = .ok () := by
  induction units with
  | nil => simp [checkUnits]
  | cons unit rest ih =>
      rw [checkUnits, List.forall_mem_cons, ← ih]
      constructor
      · intro done
        obtain ⟨_, first, done⟩ := bind_eq_ok done
        exact ⟨first, done⟩
      · rintro ⟨first, second⟩
        rw [first]
        exact second

theorem owner?_isSome_iff {name : String} :
    (batch.owner? name).isSome ↔ ∃ unit ∈ batch.units, unit.name = name := by
  rw [owner?, List.find?_isSome]
  constructor
  · rintro ⟨⟨document, unit⟩, member, named⟩
    exact ⟨unit, List.mem_map_of_mem member, by simpa using named⟩
  · rintro ⟨unit, member, named⟩
    obtain ⟨pair, isPair, rfl⟩ := List.mem_map.mp member
    exact ⟨pair, isPair, by simpa using named⟩

/-- A batch with the units of a list, the first for each name. None of them conflict, and nothing
has failed. -/
structure Merges (language : Language) (batch : Batch) (units : List OutputUnit) : Prop where
  units_eq : batch.units = firstOfName units
  compatible : Compatible language units
  failures : batch.failures = []

/-- The check of a unit sees all conflicts with units of the batch. -/
theorem checkUnit_eq_ok_iff (files : (batch.units.map (·.file language)).Nodup) {document : String}
    {unit : OutputUnit} :
    batch.checkUnit language document unit = .ok () ↔
      ∀ other ∈ batch.units, ¬Conflict language other unit := by
  rw [checkUnit]
  split
  next owner existing found =>
    have named : existing.name = unit.name := by
      simpa using List.find?_some found
    have member : existing ∈ batch.units := List.mem_map_of_mem (List.mem_of_find?_eq_some found)
    -- any unit for the file of this one is the existing one
    have only : ∀ other ∈ batch.units, other.file language = unit.file language →
        other = existing := by
      intro other isOther sameFile
      refine List.inj_on_of_nodup_map files isOther member ?_
      rw [sameFile, OutputUnit.file, OutputUnit.file, named]
    by_cases sameBody : existing.body = unit.body
    · rw [if_pos (by simpa using sameBody)]
      refine iff_of_true rfl ?_
      rintro other isOther (⟨sameName, differ⟩ | ⟨differ, sameFile⟩)
      · rw [only other isOther (congrArg language.fileName sameName)] at differ
        exact differ sameBody
      · rw [only other isOther sameFile] at differ
        exact differ named
    · rw [if_neg (by simpa using sameBody)]
      refine iff_of_false (by simp) fun none => ?_
      exact none existing member (.inl ⟨named, sameBody⟩)
  next missing =>
    have new : ∀ other ∈ batch.units, other.name ≠ unit.name := by
      intro other isOther named
      have found := owner?_isSome_iff.mpr ⟨other, isOther, named⟩
      rw [missing] at found
      cases found
    dsimp only
    split
    next other found =>
      have sameFile : other.file language = unit.file language := by
        simpa [OutputUnit.file] using List.find?_some found
      have member : other ∈ batch.units := List.mem_of_find?_eq_some found
      refine iff_of_false (by simp) fun none => ?_
      exact none other member (.inr ⟨new other member, sameFile⟩)
    next free =>
      refine iff_of_true rfl ?_
      rintro other isOther (⟨sameName, _⟩ | ⟨_, sameFile⟩)
      · exact new other isOther sameName
      · have unlike := List.find?_eq_none.mp free other isOther
        simp only [beq_iff_eq] at unlike
        exact unlike sameFile

/-- So it sees all conflicts with the units that the batch was made from. -/
theorem Merges.checkUnit_eq_ok_iff {units : List OutputUnit} (merges : batch.Merges language units)
    {document : String} {unit : OutputUnit} :
    batch.checkUnit language document unit = .ok () ↔
    ∀ other ∈ units, ¬Conflict language other unit := by
  have files := merges.compatible.nodup_files
  have same := merges.compatible.conflict_firstOfName_iff unit
  rw [← merges.units_eq] at files same
  rw [Batch.checkUnit_eq_ok_iff files]
  grind

/-- A document can be added exactly if its units conflict with none of those before. -/
theorem Merges.checkUnits_eq_ok_iff {units added : List OutputUnit}
    (merges : batch.Merges language units) (own : Compatible language added) (document : String) :
    batch.checkUnits language document added = .ok () ↔ Compatible language (units ++ added) := by
  rw [Batch.checkUnits_eq_ok_iff, Compatible.append_iff]
  constructor
  · intro checked
    refine ⟨merges.compatible, own, fun left isLeft right isRight => ?_⟩
    exact merges.checkUnit_eq_ok_iff.mp (checked right isRight) left isLeft
  · rintro ⟨_, _, across⟩ unit isUnit
    exact merges.checkUnit_eq_ok_iff.mpr fun other isOther => across other isOther unit isUnit

theorem units_addUnit {units : List OutputUnit} (held : batch.units = firstOfName units)
    (document : String) (unit : OutputUnit) :
    (batch.addUnit document unit).units = firstOfName (units ++ [unit]) := by
  have known : (batch.owner? unit.name).isSome ↔ ∃ other ∈ units, other.name = unit.name := by
    rw [owner?_isSome_iff, held]
    constructor
    · rintro ⟨other, isOther, named⟩
      exact ⟨other, mem_of_mem_firstOfName isOther, named⟩
    · rintro ⟨other, isOther, named⟩
      obtain ⟨first, isFirst, same⟩ := exists_mem_firstOfName isOther
      exact ⟨first, isFirst, same.trans named⟩
  rw [firstOfName_concat, addUnit]
  by_cases repeated : ∃ other ∈ units, other.name = unit.name
  · rw [if_pos repeated, if_pos (known.mpr repeated), held]
  · rw [if_neg repeated, if_neg (mt known.mp repeated), ← held]
    simp [Batch.units]

theorem units_addUnits {units : List OutputUnit} (held : batch.units = firstOfName units)
    (document : String) (added : List OutputUnit) :
    (batch.addUnits document added).units = firstOfName (units ++ added) := by
  induction added generalizing batch units with
  | nil => rw [List.append_nil]; exact held
  | cons unit rest ih =>
      rw [show units ++ unit :: rest = units ++ [unit] ++ rest by simp]
      exact ih (units_addUnit held document unit)

theorem failures_addUnits (document : String) (added : List OutputUnit) :
    (batch.addUnits document added).failures = batch.failures := by
  induction added generalizing batch with
  | nil => rfl
  | cons unit rest ih =>
      refine ih.trans ?_
      unfold addUnit
      split <;> rfl

/-- A batch keeps its invariant when a document is added to it. -/
theorem Merges.addUnits {units added : List OutputUnit} (merges : batch.Merges language units)
    (document : String) (compatible : Compatible language (units ++ added)) :
    (batch.addUnits document added).Merges language (units ++ added) where
  units_eq := units_addUnits merges.units_eq document added
  compatible := compatible
  failures := (failures_addUnits document added).trans merges.failures

end Batch

/-! ## Adding all documents -/

namespace Compiler

variable {compiler : Compiler} {read : DocumentReader}

/-- Does the document at a path generate these units? -/
def Generates (compiler : Compiler) (read : DocumentReader) (path : Path)
    (units : List OutputUnit) : Prop :=
  (compiler.generateFile read path).outcome.1 = .ok units

/-- The units of one document never conflict. -/
theorem Generates.compatible {path : Path} {units : List OutputUnit}
    (generates : compiler.Generates read path units) : Compatible compiler.language units := by
  obtain ⟨root, done⟩ := generateFile_eq_ok generates
  obtain ⟨graph, ofTypes, shared, _, rfl, generated⟩ := generate_eq_ok done
  exact compatible_of_nodup_files generated.files

/-- Whether a unit of a document is shared can be read off its name. -/
theorem Generates.shared_iff {path : Path} {units : List OutputUnit}
    (generates : compiler.Generates read path units) {unit : OutputUnit} (member : unit ∈ units) :
    unit.shared = true ↔ (compiler.settings.style compiler.language).validations = true ∧
      (unit.name = Target.validationUnit ∨ unit.name = Target.markerUnit) := by
  obtain ⟨root, done⟩ := generateFile_eq_ok generates
  obtain ⟨graph, ofTypes, shared, _, rfl, generated⟩ := generate_eq_ok done
  exact generated.shared_iff member

/-- What generating a document that must fit to a batch gives. -/
theorem generateNext_gives (compiler : Compiler) (read : DocumentReader) (batch : Batch)
    (path : Path) :
    (compiler.generateNext read batch path).Gives (do
      let units ← (compiler.generateFile read path).outcome.1
      (batch.checkUnits compiler.language path.name units).mapError Failure.error
      return units) := by
  refine Logged.Gives.bind (compiler.generateFile_gives read path).determined fun units _ => ?_
  exact (Logged.gives_ofResult _).bind fun _ _ => Logged.gives_pure units

/-- What adding a document to a batch that stops at failures gives. -/
theorem extend_gives (batch : Batch) (path : Path) :
    (compiler.extend read false batch path).Gives (do
      let units ← (compiler.generateFile read path).outcome.1
      (batch.checkUnits compiler.language path.name units).mapError Failure.error
      return batch.addUnits path.name units) := by
  have added := (generateNext_gives compiler read batch path).bind fun units _ =>
    Logged.gives_pure (batch.addUnits path.name units)
  simp only [bind_assoc, pure_bind] at added
  refine added.tryCatch (fun _ done => done) fun failure failed => ?_
  refine Eq.mpr (congrArg _ failed) ?_
  -- without going on, the failure is that of the document
  cases failure <;> exact fun _ => rfl

/-- Adding a document to a batch succeeds exactly if the document generates units that conflict with
none of those before. -/
theorem extend_eq_ok_iff {batch after : Batch} {units : List OutputUnit}
    (merges : batch.Merges compiler.language units) {path : Path} :
    (compiler.extend read false batch path).outcome.1 = .ok after ↔
      ∃ added, compiler.Generates read path added ∧ Compatible compiler.language (units ++ added) ∧
        after = batch.addUnits path.name added := by
  rw [(extend_gives batch path).outcome_eq]
  constructor
  · intro done
    obtain ⟨added, generates, done⟩ := bind_eq_ok done
    obtain ⟨_, checked, done⟩ := bind_eq_ok done
    cases done
    have checked := Schema.mapError_eq_ok_iff.mp checked
    exact ⟨added, generates, (merges.checkUnits_eq_ok_iff (Generates.compatible generates) _).mp
      checked, rfl⟩
  · rintro ⟨added, generates, compatible, rfl⟩
    have checked := (merges.checkUnits_eq_ok_iff generates.compatible path.name).mpr compatible
    rw [generates]
    show (Except.mapError Failure.error
      (batch.checkUnits compiler.language path.name added) >>= _) = _
    rw [checked]
    rfl

theorem foldlM_determined (paths : List Path) (batch : Batch) :
    (paths.foldlM (compiler.extend read false) batch).Determined := by
  induction paths generalizing batch with
  | nil => exact Logged.determined_pure _
  | cons path rest ih => exact (extend_gives batch path).determined.bind ih

/-- A batch to which documents were added holds the units of all of them. -/
theorem merges_of_foldlM_eq_ok {batch after : Batch} {units : List OutputUnit}
    (merges : batch.Merges compiler.language units) {paths : List Path}
    (done : (paths.foldlM (compiler.extend read false) batch).outcome.1 = .ok after) :
    ∃ documents, List.Forall₂ (compiler.Generates read) paths documents ∧
      after.Merges compiler.language (units ++ documents.flatten) := by
  induction paths generalizing batch units with
  | nil =>
      cases done
      exact ⟨[], .nil, by simpa using merges⟩
  | cons path rest ih =>
      rw [List.foldlM_cons, ((extend_gives batch path).determined.gives_bind
        (foldlM_determined rest)).outcome_eq] at done
      obtain ⟨between, extended, done⟩ := bind_eq_ok done
      obtain ⟨added, generates, compatible, rfl⟩ := (extend_eq_ok_iff merges).mp extended
      obtain ⟨documents, others, final⟩ := ih (merges.addUnits path.name compatible) done
      exact ⟨added :: documents, .cons generates others, by simpa using final⟩

/-- Documents whose units do not conflict can be added to a batch. -/
theorem foldlM_eq_ok_of_compatible {batch : Batch} {units : List OutputUnit}
    (merges : batch.Merges compiler.language units) {paths : List Path}
    {documents : List (List OutputUnit)}
    (generate : List.Forall₂ (compiler.Generates read) paths documents)
    (compatible : Compatible compiler.language (units ++ documents.flatten)) :
    ∃ after, (paths.foldlM (compiler.extend read false) batch).outcome.1 = .ok after := by
  induction generate generalizing batch units with
  | nil => exact ⟨batch, rfl⟩
  | @cons path added rest documents generates _ ih =>
      rw [List.flatten_cons, ← List.append_assoc] at compatible
      have first := (Compatible.append_iff.mp compatible).1
      obtain ⟨after, done⟩ := ih (merges.addUnits path.name first) compatible
      refine ⟨after, ?_⟩
      rw [List.foldlM_cons, ((extend_gives batch path).determined.gives_bind
        (foldlM_determined rest)).outcome_eq, (extend_eq_ok_iff merges).mpr
          ⟨added, generates, first, rfl⟩]
      exact done

/-- The batch before any document. -/
theorem merges_empty (language : Language) : ({} : Batch).Merges language [] where
  units_eq := rfl
  compatible := by simp [Compatible]
  failures := rfl

/-- A batch returns exactly if its documents generate units and these are compatible. -/
theorem generateFiles_returns_iff {paths : List Path} :
    (∃ batch, (compiler.generateFiles read false paths).outcome.1 = .ok batch) ↔
      ∃ documents, List.Forall₂ (compiler.Generates read) paths documents ∧
        Compatible compiler.language documents.flatten := by
  constructor
  · rintro ⟨batch, done⟩
    obtain ⟨documents, generate, merges⟩ :=
      merges_of_foldlM_eq_ok (merges_empty compiler.language) done
    exact ⟨documents, generate, merges.compatible⟩
  · rintro ⟨documents, generate, compatible⟩
    exact foldlM_eq_ok_of_compatible (merges_empty compiler.language) generate compatible

/-- What documents generate is determined by their paths. -/
theorem generated_unique {paths : List Path} {documents others : List (List OutputUnit)}
    (left : List.Forall₂ (compiler.Generates read) paths documents)
    (right : List.Forall₂ (compiler.Generates read) paths others) : documents = others := by
  induction left generalizing others with
  | nil =>
      cases right
      rfl
  | cons first _ ih =>
      cases right with
      | cons same rest =>
          cases Except.ok.inj (first.symm.trans same)
          rw [ih rest]

/-- A batch that returns holds the units of its documents. -/
theorem merges_of_generateFiles_eq_ok {paths : List Path} {batch : Batch}
    {documents : List (List OutputUnit)}
    (done : (compiler.generateFiles read false paths).outcome.1 = .ok batch)
    (generate : List.Forall₂ (compiler.Generates read) paths documents) :
    batch.Merges compiler.language documents.flatten := by
  obtain ⟨others, othersGenerate, merges⟩ :=
    merges_of_foldlM_eq_ok (merges_empty compiler.language) done
  rw [generated_unique generate othersGenerate]
  exact merges

/-- The order of the documents does not decide whether a batch returns. -/
theorem returns_of_perm {paths others : List Path} (perm : paths.Perm others)
    (returns : ∃ batch, (compiler.generateFiles read false others).outcome.1 = .ok batch) :
    ∃ batch, (compiler.generateFiles read false paths).outcome.1 = .ok batch := by
  obtain ⟨documents, generate, compatible⟩ := generateFiles_returns_iff.mp returns
  obtain ⟨reordered, generateReordered, same⟩ := List.perm_comp_forall₂ perm generate
  refine generateFiles_returns_iff.mpr ⟨reordered, generateReordered, ?_⟩
  intro left isLeft right isRight
  exact compatible left (same.flatten.mem_iff.mp isLeft) right (same.flatten.mem_iff.mp isRight)

/-- Units of compatible documents can be told by their names. -/
theorem eq_of_name_eq {paths : List Path} {documents : List (List OutputUnit)}
    (generate : List.Forall₂ (compiler.Generates read) paths documents)
    (compatible : Compatible compiler.language documents.flatten) {first unit : OutputUnit}
    (firstMember : first ∈ documents.flatten) (member : unit ∈ documents.flatten)
    (sameName : first.name = unit.name) :
    first = unit := by
  have sameBody : first.body = unit.body := by
    by_contra different
    exact compatible first firstMember unit member (.inl ⟨sameName, different⟩)
  -- documents agree on which of the names are those of shared units
  have marked : ∀ {one}, one ∈ documents.flatten →
      (one.shared = true ↔ (compiler.settings.style compiler.language).validations = true ∧
        (one.name = Target.validationUnit ∨ one.name = Target.markerUnit)) := by
    intro one isOne
    obtain ⟨units, isDocument, inside⟩ := List.mem_flatten.mp isOne
    obtain ⟨path, _, generates⟩ := exists_left_of_mem generate isDocument
    exact generates.shared_iff inside
  have sameMark : first.shared = unit.shared := by
    rw [Bool.eq_iff_iff, marked firstMember, marked member, sameName]
  cases first
  cases unit
  simp_all

/-- All units of compatible documents stand among the first with their names. -/
theorem mem_firstOfName_flatten {paths : List Path} {documents : List (List OutputUnit)}
    (generate : List.Forall₂ (compiler.Generates read) paths documents)
    (compatible : Compatible compiler.language documents.flatten) {unit : OutputUnit} :
    unit ∈ firstOfName documents.flatten ↔ unit ∈ documents.flatten := by
  refine ⟨mem_of_mem_firstOfName, fun member => ?_⟩
  obtain ⟨first, isFirst, sameName⟩ := exists_mem_firstOfName member
  have same := eq_of_name_eq generate compatible (mem_of_mem_firstOfName isFirst) member sameName
  exact same ▸ isFirst

/-- A batch that stops at failures returns exactly if every document generates units and no two
documents conflict. The batch then has the units of all documents, one after the other, without
those that repeat a name, so that each name and each file stands once, and each unit stands with its
own body. The order of the documents decides neither whether the batch returns nor which units it
has. -/
theorem generateFiles_merges_compatible (compiler : Compiler) (read : DocumentReader)
    (paths : List Path) :
    ((∃ batch, (compiler.generateFiles read false paths).outcome.1 = .ok batch) ↔
      ∃ documents, List.Forall₂ (compiler.Generates read) paths documents ∧
        documents.Pairwise fun left right =>
          ∀ unit ∈ left, ∀ other ∈ right, ¬Conflict compiler.language unit other) ∧
    (∀ batch documents, (compiler.generateFiles read false paths).outcome.1 = .ok batch →
      List.Forall₂ (compiler.Generates read) paths documents →
      batch.units = firstOfName documents.flatten ∧
      (batch.units.map (·.name)).Nodup ∧
      (batch.units.map (·.file compiler.language)).Nodup ∧
      (∀ units ∈ documents, ∀ unit ∈ units, unit ∈ batch.units) ∧
      batch.failures = []) ∧
    ∀ others, paths.Perm others →
      ((∃ batch, (compiler.generateFiles read false paths).outcome.1 = .ok batch) ↔
        ∃ batch, (compiler.generateFiles read false others).outcome.1 = .ok batch) ∧
      ∀ batch other, (compiler.generateFiles read false paths).outcome.1 = .ok batch →
        (compiler.generateFiles read false others).outcome.1 = .ok other →
        ∀ unit, unit ∈ batch.units ↔ unit ∈ other.units := by
  refine ⟨?_, ?_, ?_⟩
  · rw [generateFiles_returns_iff]
    refine exists_congr fun documents => and_congr_right fun generate => ?_
    refine compatible_flatten_iff fun units member => ?_
    obtain ⟨path, _, generates⟩ := exists_left_of_mem generate member
    exact generates.compatible
  · intro batch documents done generate
    have merges := merges_of_generateFiles_eq_ok done generate
    rw [merges.units_eq]
    refine ⟨rfl, nodup_names_firstOfName _, merges.compatible.nodup_files, ?_, merges.failures⟩
    intro units isDocument unit member
    exact (mem_firstOfName_flatten generate merges.compatible).mpr
      (List.mem_flatten_of_mem isDocument member)
  · intro others perm
    refine ⟨⟨returns_of_perm perm.symm, returns_of_perm perm⟩, ?_⟩
    intro batch other done otherDone unit
    obtain ⟨documents, generate, _⟩ := generateFiles_returns_iff.mp ⟨other, otherDone⟩
    obtain ⟨reordered, generateReordered, same⟩ := List.perm_comp_forall₂ perm generate
    have merges := merges_of_generateFiles_eq_ok done generateReordered
    have otherMerges := merges_of_generateFiles_eq_ok otherDone generate
    rw [merges.units_eq, otherMerges.units_eq,
      mem_firstOfName_flatten generateReordered merges.compatible,
      mem_firstOfName_flatten generate otherMerges.compatible]
    exact same.flatten.mem_iff

/-- Two documents that share a type. -/
def sharingReader : DocumentReader := fun path =>
  if path.name == "paint" then .ok "{D: {Color: {type: string}}}".toList
  else .ok "{D: {Color: {type: string}, Shape: {type: object}}}".toList

/-- A compiler that leaves the name of the document out of the units. -/
def plainCompiler : Compiler :=
  { settings :=
      { schemasPath := some (.list [.text "D"])
        generateValidations := .bool false
        addGenerationComment := .bool false }
    language := .python }

theorem sharingReader_merges :
    ∃ batch documents other,
      (plainCompiler.generateFiles sharingReader false
        [⟨"", ["paint"]⟩, ⟨"", ["form"]⟩]).outcome.1 = .ok batch ∧
      batch.units.map (·.name) = ["Color", "Shape"] ∧
      List.Forall₂ (plainCompiler.Generates sharingReader)
        [⟨"", ["paint"]⟩, ⟨"", ["form"]⟩] documents ∧
      batch.units = firstOfName documents.flatten ∧
      (plainCompiler.generateFiles sharingReader false
        [⟨"", ["form"]⟩, ⟨"", ["paint"]⟩]).outcome.1 = .ok other ∧
      ∀ unit, unit ∈ batch.units ↔ unit ∈ other.units := by
  have names : (plainCompiler.generateFiles sharingReader false
      [⟨"", ["paint"]⟩, ⟨"", ["form"]⟩]).outcome.1.toOption.map (·.units.map (·.name)) =
        some ["Color", "Shape"] := by decide +kernel
  obtain ⟨batch, found, named⟩ := Option.map_eq_some_iff.mp names
  have done := Schema.eq_ok_of_toOption found
  obtain ⟨returns, units, order⟩ := generateFiles_merges_compatible plainCompiler sharingReader
    [⟨"", ["paint"]⟩, ⟨"", ["form"]⟩]
  obtain ⟨documents, generate, _⟩ := returns.mp ⟨batch, done⟩
  obtain ⟨either, same⟩ := order [⟨"", ["form"]⟩, ⟨"", ["paint"]⟩] (.swap ..)
  obtain ⟨other, otherDone⟩ := either.mp ⟨batch, done⟩
  exact ⟨batch, documents, other, done, named, generate,
    (units batch documents done generate).1, otherDone,
    same batch other done otherDone⟩

end Compiler

end SchemaCompiler
