import SchemaCompiler.FileSystem.Disk
import SchemaCompiler.Proofs.FileTree
import SchemaCompiler.Proofs.Operation

/-!
# Putting a file in place

A file is put in place through a temporary file beside it. Whatever strikes on the way, a failure
leaves no more behind than directories on the way to the file: the temporary file is gone, and no
other file has changed. Where nothing strikes, the file has its whole content and the way to it is
there, so the tree afterwards can be told from the tree before.
-/

namespace SchemaCompiler.FileSystem

open SchemaCompiler.FileSystem.Path (Visits)

namespace Disk

/-! ## How disks can differ -/

/-- Disks with the same tree, entry by entry, and the same working directory. -/
structure Agree (one other : Disk) : Prop where
  here : other.here = one.here
  entry : ∀ place, other.tree.get? place = one.tree.get? place

/-- A disk that has more directories, at some places where there was nothing. -/
structure Grown (made : Place → Prop) (before after : Disk) : Prop where
  here : after.here = before.here
  entry : ∀ place, after.tree.get? place = before.tree.get? place ∨
    made place ∧ before.tree.get? place = none ∧ after.tree.get? place = some .directory

/-- All that a path visits is directories. -/
def HasWay (disk : Disk) (path : Path) : Prop :=
  ∀ place, path.Visits disk.here place → disk.tree.get? place = some .directory

/-- A disk with a temporary file that another one does not have. -/
structure Holds (before : Disk) (temporary : Path) (place : Place) (content : List UInt8)
    (after : Disk) : Prop where
  here : after.here = before.here
  located : after.tree.locate after.here temporary = .ok place
  free : before.tree.get? place = none
  filled : after.tree.get? place = some (.file content)
  entry : ∀ other, other ≠ place → after.tree.get? other = before.tree.get? other

/-- A disk with a file at a path, and directories on the way to it. -/
structure Replaced (before : Disk) (path : Path) (content : List UInt8) (after : Disk) : Prop where
  here : after.here = before.here
  free : before.tree.get? (path.place before.here) ≠ some .directory
  filled : after.tree.get? (path.place before.here) = some (.file content)
  /-- No file was in the way, and now there are directories. -/
  clear : ∀ place, path.parent.Visits before.here place → before.tree.content? place = none
  way : ∀ place, path.parent.Visits before.here place → after.tree.get? place = some .directory
  entry : ∀ place, place ≠ path.place before.here → ¬path.parent.Visits before.here place →
    after.tree.get? place = before.tree.get? place

variable {made : Place → Prop} {before between after disk : Disk} {path : Path}

theorem Agree.refl (disk : Disk) : disk.Agree disk := ⟨rfl, fun _ => rfl⟩

theorem Agree.of_eq (tree : after.tree = before.tree) (here : after.here = before.here) :
    before.Agree after :=
  ⟨here, fun _ => by rw [tree]⟩

theorem Agree.symm (agree : before.Agree after) : after.Agree before :=
  ⟨agree.here.symm, fun place => (agree.entry place).symm⟩

theorem Agree.trans (first : before.Agree between) (second : between.Agree after) :
    before.Agree after :=
  ⟨second.here.trans first.here, fun place => (second.entry place).trans (first.entry place)⟩

theorem Agree.grown (agree : before.Agree after) : Grown made before after :=
  ⟨agree.here, fun place => .inl (agree.entry place)⟩

theorem Grown.trans (first : Grown made before between) (second : Grown made between after) :
    Grown made before after where
  here := second.here.trans first.here
  entry place := by
    rcases second.entry place with same | ⟨isMade, empty, directory⟩
    · rw [same]
      exact first.entry place
    · rcases first.entry place with same | ⟨_, _, directory'⟩
      · exact .inr ⟨isMade, same ▸ empty, directory⟩
      · rw [empty] at directory'
        cases directory'

theorem Grown.of_agree (agree : before.Agree between)
    (grown : Grown (path.Visits between.here) between after) :
    Grown (path.Visits before.here) before after := by
  rw [agree.here] at grown
  exact agree.grown.trans grown

theorem Grown.mono {wider : Place → Prop} (grown : Grown made before after)
    (more : ∀ place, made place → wider place) :
    Grown wider before after where
  here := grown.here
  entry place := (grown.entry place).imp_right fun new => ⟨more place new.1, new.2⟩

theorem Grown.directories (grown : Grown made before after) : after.tree.Extends before.tree := by
  intro place directory
  rcases grown.entry place with same | ⟨_, empty, _⟩
  · rw [same, directory]
  · rw [directory] at empty
    cases empty

/-- No file changes where only directories are made. -/
theorem Grown.content? (grown : Grown made before after) (place : Place) :
    after.tree.content? place = before.tree.content? place := by
  rcases grown.entry place with same | ⟨_, empty, directory⟩
  · exact FileTree.content?_congr same
  · rw [FileTree.content?_eq_none (.inr directory), FileTree.content?_eq_none (.inl empty)]

/-! ## Steps -/

section Steps

variable {ε : Type} {returns : Unit → Disk → Prop} {fails : Disk → Prop}

theorem ends_refuseZero (passes : returns () disk) (refuses : fails disk) :
    Ends (refuseZero path) disk returns fails :=
  .byCases (fun _ => .throw refuses) fun _ => .pure passes

theorem ends_attempt {source target : Option String}
    (goes : ∀ after : Disk, after.tree = disk.tree → after.here = disk.here → returns () after)
    (struck : ∀ after : Disk, after.tree = disk.tree → after.here = disk.here → fails after) :
    Ends (attempt source target) disk returns fails := by
  refine .bind (.get ?_)
  split
  · exact .pure (goes disk rfl rfl)
  · refine .bind (.modify ?_)
    split
    · exact .throw (struck _ rfl rfl)
    · exact .pure (goes _ rfl rfl)

theorem ends_locate {returns : Place → Disk → Prop}
    (found : ∀ place, disk.tree.locate disk.here path = .ok place → returns place disk)
    (lost : fails disk) :
    Ends (locate path) disk returns fails := by
  refine .bind (.get ?_)
  split
  next place here => exact .pure (found place here)
  · exact .throw lost

end Steps

/-! ## Directories -/

/-- A path that leads to a directory goes through directories only. -/
theorem hasWay_of_locate {place : Place} (located : disk.tree.locate disk.here path = .ok place)
    (directory : disk.tree.get? place = some .directory) : disk.HasWay path := by
  rintro _ ⟨front, isFront, rfl⟩
  unfold FileTree.locate at located
  split at located
  · cases located
  · by_cases whole : front = path.parts
    · have isLast := FileTree.walk_eq_ok located
      rw [whole]
      exact isLast ▸ directory
    · exact FileTree.directory_of_walk located isFront whole

theorem eq_place_of_locate {tree : FileTree} {here place : Place}
    (located : tree.locate here path = .ok place) :
    place = path.place here := by
  unfold FileTree.locate at located
  split at located
  · cases located
  · exact FileTree.walk_eq_ok located

theorem locate_of_entry? {entry : Entry} (found : disk.entry? path = some entry) :
    ∃ place, disk.tree.locate disk.here path = .ok place ∧ disk.tree.get? place = some entry := by
  apply FileTree.lookup_eq_ok_iff.mp
  unfold entry? at found
  cases looked : disk.tree.lookup disk.here path with
  | error reason =>
      rw [looked] at found
      cases found
  | ok other =>
      rw [looked] at found
      cases found
      rfl

/-- A path that leads somewhere leads there as well where there are more directories. -/
theorem locate_extends {tree other : FileTree} {here : Place} {result : Except Reason Place}
    (more : other.Extends tree) (located : tree.locate here path = result)
    (present : result ≠ .error .noEntry) (through : result ≠ .error .notDirectory) :
    other.locate here path = result := by
  unfold FileTree.locate at located ⊢
  split at located
  next long => rw [if_pos long, located]
  next short =>
    rw [if_neg short]
    exact FileTree.walk_extends more located present through

theorem grown_insert {place : Place} (isMade : made place) (empty : disk.tree.get? place = none) :
    Grown made disk { disk with tree := disk.tree.insert place .directory } := by
  refine ⟨rfl, fun other => ?_⟩
  by_cases here : other = place
  · subst here
    refine .inr ⟨isMade, empty, FileTree.get?_insert_self ?_⟩
    rintro rfl
    cases empty
  · exact .inl (FileTree.get?_insert_of_ne here)

/-- What is known of a directory that has been made. -/
def Made (path : Path) (before after : Disk) : Prop :=
  Grown (path.Visits before.here) before after ∧ after.HasWay path

theorem makeDirectory_ends (path : Path) (disk : Disk) :
    Ends (makeDirectory path) disk (fun _ => Made path disk) disk.Agree := by
  refine .bind (ends_refuseZero ?_ (.refl disk))
  refine .bind (ends_attempt ?_ fun after tree here => .of_eq tree here)
  intro started tree here
  have agree := Agree.of_eq tree here
  refine .bind (ends_locate ?_ agree)
  intro place located
  refine .bind (.get ?_)
  split
  · exact .throw agree
  next empty =>
    have isPlace := eq_place_of_locate located
    have visited : path.Visits disk.here place := by
      rw [isPlace, here]
      exact path.visits_place disk.here
    have grown := grown_insert visited empty
    refine .modify ⟨agree.grown.trans grown, ?_⟩
    -- the way to the new directory was there, and now its end is, too
    exact hasWay_of_locate (locate_extends grown.directories located nofun nofun)
      (FileTree.get?_insert_self (by
        rintro rfl
        cases empty))

theorem unlessDirectory_ends (path : Path) (error : DiskError) (disk : Disk) :
    Ends (unlessDirectory path error) disk (fun _ after => after = disk ∧ disk.HasWay path)
      (· = disk) := by
  refine .bind (.get (.byCases ?_ fun _ => .throw rfl))
  intro both
  have isDirectory : disk.entry? path = some .directory :=
    eq_of_beq (Bool.and_eq_true_iff.mp both).2
  obtain ⟨place, located, directory⟩ := locate_of_entry? isDirectory
  exact .pure ⟨rfl, hasWay_of_locate located directory⟩

/-- A directory is made, or it is there already. -/
theorem ensureDirectory_ends (path : Path) (disk : Disk) :
    Ends (tryCatch (makeDirectory path) (unlessDirectory path)) disk
      (fun _ => Made path disk) disk.Agree := by
  refine .tryCatch ((makeDirectory_ends path disk).mono (fun _ _ made => made) ?_)
  intro between agree error
  refine (unlessDirectory_ends path error between).mono ?_ ?_
  · rintro _ _ ⟨rfl, way⟩
    exact ⟨agree.grown, way⟩
  · rintro _ rfl
    exact agree

theorem Grown.then_made (grown : Grown (path.Visits before.here) before between)
    (made : Made path between after) :
    Made path before after := by
  refine ⟨grown.trans ?_, made.2⟩
  rw [← grown.here]
  exact made.1

theorem visits_of_above {anchor name : String} {above : List String} {here place : Place}
    (visits : Visits { anchor, parts := above.reverse } here place) :
    Visits { anchor, parts := (name :: above).reverse } here place := by
  obtain ⟨front, isFront, isPlace⟩ := visits
  refine ⟨front, ?_, isPlace⟩
  show front <+: (name :: above).reverse
  rw [List.reverse_cons]
  exact isFront.trans (List.prefix_append _ _)

/-- Making directories leaves nothing but directories on the way behind, and where it returns the
way is there. -/
theorem makeDirectoriesFrom_ends (anchor : String) (names : List String) (disk : Disk) :
    Ends (makeDirectoriesFrom anchor names) disk
      (fun _ => Made { anchor, parts := names.reverse } disk)
      (Grown (Visits { anchor, parts := names.reverse } disk.here) disk) := by
  induction names generalizing disk with
  | nil =>
      exact (ensureDirectory_ends _ disk).mono (fun _ _ made => made) fun _ agree => agree.grown
  | cons name above ih =>
      refine .tryCatch ((makeDirectory_ends _ disk).mono (fun _ _ made => made) ?_)
      intro refused agree error
      have ofAbove {after : Disk}
          (grown : Grown (Visits { anchor, parts := above.reverse } refused.here) refused after) :
          Grown (Visits { anchor, parts := (name :: above).reverse } disk.here) disk after := by
        rw [agree.here] at grown
        exact agree.grown.trans (grown.mono fun _ => visits_of_above)
      refine .byCases (fun _ => .bind ((ih refused).mono ?_ fun _ => ofAbove)) fun _ => ?_
      · -- the directories above are there, so the last one is tried again
        intro _ between above
        have grown := ofAbove above.1
        refine (ensureDirectory_ends _ between).mono (fun _ _ => grown.then_made) ?_
        exact fun _ agree => grown.trans agree.grown
      · refine (unlessDirectory_ends _ error refused).mono ?_ ?_
        · rintro _ _ ⟨rfl, way⟩
          exact ⟨agree.grown, way⟩
        · rintro _ rfl
          exact agree.grown

theorem makeDirectories_ends (path : Path) (disk : Disk) :
    Ends (makeDirectories path) disk (fun _ => Made path disk)
      (Grown (path.Visits disk.here) disk) := by
  have ends := makeDirectoriesFrom_ends path.anchor path.parts.reverse disk
  rw [List.reverse_reverse] at ends
  exact ends

/-! ## Temporary files -/

theorem extends_insert {tree : FileTree} {place : Place} {entry : Entry}
    (free : tree.get? place ≠ some .directory) : (tree.insert place entry).Extends tree := by
  intro other directory
  have elsewhere : other ≠ place := by
    rintro rfl
    exact free directory
  rw [FileTree.get?_insert_of_ne elsewhere, directory]

theorem makeTemporary_ends (path : Path) (disk : Disk) :
    Ends (makeTemporary path) disk
      (fun temporary after => ∃ place, Holds disk temporary place [] after)
      disk.Agree := by
  refine .bind (.get ?_)
  refine .bind (ends_refuseZero ?_ (.refl disk))
  refine .bind (ends_attempt ?_ fun after tree here => .of_eq tree here)
  intro started tree here
  have agree := Agree.of_eq tree here
  refine .bind (ends_locate ?_ agree)
  intro place located
  refine .bind (.get ?_)
  split
  · exact .bind (.throw agree)
  next empty =>
    have outside : place ≠ [] := by
      rintro rfl
      cases empty
    refine .bind (.modify (.pure ⟨place, ?_⟩))
    exact {
      here
      located := locate_extends (extends_insert (by simp [empty])) located nofun nofun
      free := by rw [← agree.entry, empty]
      filled := FileTree.get?_insert_self outside
      entry := fun other elsewhere => (FileTree.get?_insert_of_ne elsewhere).trans
        (agree.entry other) }

variable {temporary target : Path} {place : Place} {content other : List UInt8}

theorem Holds.outside (holds : Holds before temporary place content disk) : place ≠ [] := by
  rintro rfl
  cases holds.free

/-- Operations that leave the tree as it is leave the temporary file. -/
theorem Holds.of_eq (holds : Holds before temporary place content disk)
    (tree : after.tree = disk.tree) (here : after.here = disk.here) :
    Holds before temporary place content after where
  here := here.trans holds.here
  located := by rw [tree, here, holds.located]
  free := holds.free
  filled := by rw [tree, holds.filled]
  entry other elsewhere := by rw [tree, holds.entry other elsewhere]

theorem fillFile_ends (holds : Holds before temporary place other disk) (content : List UInt8) :
    Ends (fillFile temporary content) disk (fun _ => Holds before temporary place content)
      (Holds before temporary place other) := by
  refine .bind (ends_attempt ?_ fun after tree here => holds.of_eq tree here)
  intro started tree here
  have held := holds.of_eq tree here
  refine .bind (ends_locate ?_ held)
  intro found located
  rw [held.located] at located
  cases located
  refine .modify {
    here := held.here
    located := locate_extends (extends_insert (by simp [held.filled])) held.located nofun nofun
    free := held.free
    filled := FileTree.get?_insert_self held.outside
    entry := fun other elsewhere => (FileTree.get?_insert_of_ne elsewhere).trans
      (held.entry other elsewhere) }

/-- Discarding the temporary file brings back what there was before it. -/
theorem discard_ends (holds : Holds before temporary place content disk) {fails : Disk → Prop} :
    Ends (discard temporary) disk (fun _ => before.Agree) fails := by
  refine .bind (.get ?_)
  rw [holds.located]
  refine .modify ⟨holds.here, fun other => ?_⟩
  by_cases here : other = place
  · rw [here, holds.free]
    exact FileTree.get?_erase_self holds.outside
  · exact (FileTree.get?_erase_of_ne here).trans (holds.entry other here)

/-- A disk where a file has taken a place, and nothing else has changed. -/
structure Swapped (before : Disk) (place : Place) (content : List UInt8) (after : Disk) : Prop where
  here : after.here = before.here
  free : before.tree.get? place ≠ some .directory
  filled : after.tree.get? place = some (.file content)
  entry : ∀ other, other ≠ place → after.tree.get? other = before.tree.get? other

/-- The temporary file takes a place where there is no directory, its own included. -/
theorem Holds.swapped (holds : Holds before temporary place content disk) {new : Place}
    (free : disk.tree.get? new ≠ some .directory) :
    Swapped before new content
      { disk with tree := (disk.tree.erase place).insert new (.file content) } where
  here := holds.here
  free := by
    by_cases same : new = place
    · rw [same, holds.free]
      exact nofun
    · rw [← holds.entry new same]
      exact free
  filled := by
    apply FileTree.get?_insert_self
    rintro rfl
    exact free rfl
  entry other elsewhere := by
    refine (FileTree.get?_insert_of_ne elsewhere).trans ?_
    by_cases here : other = place
    · rw [here, FileTree.get?_erase_self holds.outside, holds.free]
    · rw [FileTree.get?_erase_of_ne here, holds.entry other here]

theorem rename_ends (holds : Holds before temporary place content disk) (target : Path) :
    Ends (rename temporary target) disk (fun _ => Swapped before (target.place before.here) content)
      (Holds before temporary place content) := by
  refine .bind (ends_attempt ?_ fun after tree here => holds.of_eq tree here)
  intro started tree here
  have held := holds.of_eq tree here
  refine .bind (.get ?_)
  dsimp only
  split
  · exact .bind (.throw held)
  · rw [held.located]
    cases located : started.tree.locate started.here target with
    | error reason => exact .throw held
    | ok new =>
        have isPlace := eq_place_of_locate located
        rw [held.here] at isPlace
        dsimp only
        rw [held.filled, ← isPlace]
        cases found : started.tree.get? new with
        | none => exact .modify (held.swapped (by simp [found]))
        | some entry =>
            cases entry with
            | directory => exact .throw held
            | file old => exact .modify (held.swapped (by simp [found]))

/-! ## Files -/

theorem ends_encode {text : String} {returns : List UInt8 → Disk → Prop} {fails : Disk → Prop}
    (encoded : ∀ bytes, Text.encodeUtf8 text = .ok bytes → returns bytes disk)
    (failed : fails disk) :
    Ends (encode text) disk returns fails := by
  unfold encode
  split
  next bytes done => exact .pure (encoded bytes done)
  · exact .throw failed

theorem Replaced.of_agree (agree : before.Agree between)
    (replaced : Replaced between path content after) :
    Replaced before path content after where
  here := replaced.here.trans agree.here
  free := by
    rw [← agree.entry, ← agree.here]
    exact replaced.free
  filled := by
    rw [← agree.here]
    exact replaced.filled
  clear place visits := by
    rw [← FileTree.content?_congr (agree.entry place)]
    exact replaced.clear place (agree.here ▸ visits)
  way := by
    rw [← agree.here]
    exact replaced.way
  entry place elsewhere unvisited := by
    rw [← agree.here] at elsewhere unvisited
    rw [replaced.entry place elsewhere unvisited, agree.entry]

theorem Replaced.directories (replaced : Replaced before path content after) :
    after.tree.Extends before.tree := by
  intro place directory
  by_cases visited : path.parent.Visits before.here place
  · exact replaced.way place visited
  · have elsewhere : place ≠ path.place before.here := by
      rintro rfl
      exact replaced.free directory
    rw [replaced.entry place elsewhere visited, directory]

/-- No other file changes. -/
theorem Replaced.content? (replaced : Replaced before path content after) {place : Place}
    (elsewhere : place ≠ path.place before.here) :
    after.tree.content? place = before.tree.content? place := by
  by_cases visited : path.parent.Visits before.here place
  · rw [replaced.clear place visited, FileTree.content?_eq_none (.inr (replaced.way place visited))]
  · exact FileTree.content?_congr (replaced.entry place elsewhere visited)

/-- Directories on the way and then a file at the end are what replacing a file comes to. -/
theorem Made.replaced (made : Made path.parent before between)
    (swapped : Swapped between (path.place before.here) content after) :
    Replaced before path content after where
  here := swapped.here.trans made.1.here
  free directory := swapped.free (made.1.directories _ directory)
  filled := swapped.filled
  clear place visits := by
    have directory := made.2 place (made.1.here ▸ visits)
    rw [← made.1.content? place, FileTree.content?_eq_none (.inr directory)]
  way place visits := by
    have directory := made.2 place (made.1.here ▸ visits)
    rw [swapped.entry place, directory]
    rintro rfl
    exact swapped.free directory
  entry place elsewhere unvisited := by
    rw [swapped.entry place elsewhere]
    rcases made.1.entry place with same | ⟨visits, _⟩
    · exact same
    · exact absurd visits unvisited

/-- Replacing a file leaves no more than directories behind where it fails. Where it returns, the
file has its whole content. -/
theorem replaceFile_ends (path : Path) (text : String) (disk : Disk) :
    Ends (replaceFile path text) disk
      (fun _ after => ∃ content, Text.encodeUtf8 text = .ok content ∧
        Replaced disk path content after) (Grown (path.parent.Visits disk.here) disk) := by
  refine .bind ((makeDirectories_ends path.parent disk).mono ?_ fun _ grown => grown)
  intro _ made isMade
  refine .bind ((makeTemporary_ends path made).mono ?_ fun _ agree => isMade.1.trans agree.grown)
  rintro temporary started ⟨place, holds⟩
  have filling : Ends (do fillFile temporary (← encode text); rename temporary path) started
      (fun _ after => ∃ content, Text.encodeUtf8 text = .ok content ∧
        Replaced disk path content after)
      (fun after => ∃ content, Holds made temporary place content after) := by
    refine .bind (ends_encode ?_ ⟨_, holds⟩)
    intro content encoded
    refine .bind ((fillFile_ends holds content).mono ?_ fun _ held => ⟨_, held⟩)
    intro _ filled held
    refine (rename_ends held path).mono ?_ fun _ held => ⟨_, held⟩
    intro _ after swapped
    rw [isMade.1.here] at swapped
    exact ⟨content, encoded, isMade.replaced swapped⟩
  refine .tryCatch (filling.mono (fun _ _ done => done) ?_)
  rintro failed ⟨content, held⟩ error
  refine .bind ((discard_ends held).mono ?_ fun _ grown => grown)
  exact fun _ _ agree => .throw (isMade.1.trans agree.grown)

theorem probe_eq_none_iff : disk.probe path = .ok none ↔
    path.hasZero = true ∨ disk.tree.lookup disk.here path = .error .noEntry ∨
      disk.tree.lookup disk.here path = .error .notDirectory := by
  unfold probe
  split
  next zero => simp [zero]
  next clean =>
    simp only [clean, Bool.false_eq_true, false_or]
    split <;> simp_all

theorem probe_eq_some_iff {entry : Entry} : disk.probe path = .ok (some entry) ↔
    path.hasZero = false ∧ disk.tree.lookup disk.here path = .ok entry := by
  unfold probe
  split
  next zero => simp [zero]
  next clean =>
    simp only [clean, true_and]
    split <;> simp_all

theorem Agree.probe (agree : before.Agree after) (path : Path) :
    after.probe path = before.probe path := by
  unfold Disk.probe
  rw [agree.here, FileTree.lookup_congr agree.entry]

/-- Looking whether there is something at a path changes nothing. -/
theorem exists?_ends (path : Path) (disk : Disk) :
    Ends (exists? path) disk
      (fun found after => disk.Agree after ∧ ∃ entry, disk.probe path = .ok entry ∧
        found = entry.isSome) disk.Agree := by
  unfold exists?
  split
  next zero =>
    refine .pure ⟨.refl disk, none, ?_, rfl⟩
    rw [probe, if_pos zero]
  · refine .bind (ends_attempt ?_ fun _ tree here => .of_eq tree here)
    intro started tree here
    have agree := Agree.of_eq tree here
    refine .bind (.get ?_)
    rw [agree.probe path]
    split
    next entry found => exact .pure ⟨agree, entry, found, rfl⟩
    · exact .throw agree

end Disk

end SchemaCompiler.FileSystem
