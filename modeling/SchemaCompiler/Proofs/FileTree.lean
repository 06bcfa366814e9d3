import Mathlib.Data.List.Basic
import SchemaCompiler.FileSystem.Tree

/-!
# Places and paths

What is put at a place is found there, and nothing else moves. A path that can be walked leads to
one place, which can be told from its names alone, through directories that are all among the places
it visits; and where directories are only added, what a walk has found is found again.
-/

namespace SchemaCompiler.FileSystem

namespace FileTree

/-! ## Entries -/

/-- The content of the file at a place. -/
def content? (tree : FileTree) (place : Place) : Option (List UInt8) :=
  match tree.get? place with
  | some (.file content) => some content
  | _ => none

variable {tree other : FileTree} {place : Place} {entry : Entry}

@[simp]
theorem get?_root (tree : FileTree) : tree.get? [] = some .directory := rfl

theorem get?_of_ne_root (outside : place ≠ []) : tree.get? place = tree.entries.lookup place := by
  rw [get?, if_neg (by simpa using outside)]

theorem content?_eq_some_iff {content : List UInt8} :
    tree.content? place = some content ↔ tree.get? place = some (.file content) := by
  unfold content?
  split <;> simp_all

theorem content?_congr (same : tree.get? place = other.get? place) :
    tree.content? place = other.content? place := by
  rw [content?, content?, same]

theorem content?_eq_none (empty : tree.get? place = none ∨ tree.get? place = some .directory) :
    tree.content? place = none := by
  rcases empty with empty | empty <;> rw [content?, empty]

theorem lookup_cons_of_ne {key name : Place} (elsewhere : key ≠ name)
    (rest : List (Place × Entry)) :
    ((name, entry) :: rest).lookup key = rest.lookup key := by
  rw [List.lookup_cons, beq_eq_false_iff_ne.mpr elsewhere]

theorem lookup_filter_ne (entries : List (Place × Entry)) (place key : Place) :
    (entries.filter (·.1 != place)).lookup key = if key = place then none
      else entries.lookup key := by
  induction entries with
  | nil => simp
  | cons first rest ih =>
      obtain ⟨name, entry⟩ := first
      by_cases removed : name = place
      · rw [List.filter_cons_of_neg (by simpa using removed), ih]
        split
        · rfl
        next elsewhere => rw [lookup_cons_of_ne (removed ▸ elsewhere)]
      · rw [List.filter_cons_of_pos (by simpa using removed)]
        by_cases here : key = name
        · rw [here, List.lookup_cons_self, List.lookup_cons_self, if_neg removed]
        · rw [lookup_cons_of_ne here, lookup_cons_of_ne here, ih]

theorem get?_insert_self (outside : place ≠ []) :
    (tree.insert place entry).get? place = some entry := by
  rw [get?_of_ne_root outside, insert, List.lookup_append, lookup_filter_ne, if_pos rfl]
  simp

theorem get?_insert_of_ne {key : Place} (elsewhere : key ≠ place) :
    (tree.insert place entry).get? key = tree.get? key := by
  by_cases root : key = []
  · rw [root, get?_root, get?_root]
  · rw [get?_of_ne_root root, get?_of_ne_root root, insert, List.lookup_append, lookup_filter_ne,
      if_neg elsewhere, lookup_cons_of_ne elsewhere, List.lookup_nil, Option.or_none]

theorem get?_erase_self (outside : place ≠ []) : (tree.erase place).get? place = none := by
  rw [get?_of_ne_root outside, erase, lookup_filter_ne, if_pos rfl]

theorem get?_erase_of_ne {key : Place} (elsewhere : key ≠ place) :
    (tree.erase place).get? key = tree.get? key := by
  by_cases root : key = []
  · rw [root, get?_root, get?_root]
  · rw [get?_of_ne_root root, get?_of_ne_root root, erase, lookup_filter_ne, if_neg elsewhere]

end FileTree

/-! ## Paths -/

namespace Path

/-- Where a path starts. -/
def start (path : Path) (here : Place) : Place := if path.isAbsolute then [] else here

/-- The place that a path leads to, as its names tell. -/
def place (path : Path) (here : Place) : Place := collapse (path.start here) path.parts

/-- Is the place one that a path comes by on its way, or leads to? -/
def Visits (path : Path) (here place : Place) : Prop :=
  ∃ front, front <+: path.parts ∧ place = collapse (path.start here) front

theorem visits_place (path : Path) (here : Place) : path.Visits here (path.place here) :=
  ⟨path.parts, List.prefix_refl _, rfl⟩

theorem collapse_append (kept front back : List String) :
    collapse kept (front ++ back) = collapse (collapse kept front) back := by
  induction front generalizing kept with
  | nil => rfl
  | cons part rest ih =>
      rw [List.cons_append, collapse, collapse]
      split <;> exact ih _

/-- A name that is no step back is the last of the place. -/
theorem collapse_concat {name : String} (forward : name ≠ "..") (kept front : List String) :
    collapse kept (front ++ [name]) = collapse kept front ++ [name] := by
  rw [collapse_append, collapse, if_neg (by simpa using forward), collapse]

/-- Names without steps back are put behind one another. -/
theorem collapse_straight {parts : List String} (straight : ".." ∉ parts) (kept : List String) :
    collapse kept parts = kept ++ parts := by
  induction parts generalizing kept with
  | nil => simp [collapse]
  | cons part rest ih =>
      rw [List.mem_cons, not_or] at straight
      rw [collapse, if_neg (by simpa using Ne.symm straight.1), ih straight.2, List.append_assoc]
      rfl

end Path

/-! ## Walks -/

namespace FileTree

variable {tree other : FileTree} {place last : Place} {parts : List String}

/-- Trees that have the directories of another one. -/
def Extends (other tree : FileTree) : Prop :=
  ∀ place, tree.get? place = some .directory → other.get? place = some .directory

/-- A walk ends where the names tell. -/
theorem walk_eq_ok (found : tree.walk place parts = .ok last) :
    last = Path.collapse place parts := by
  induction parts generalizing place with
  | nil =>
      cases found
      rfl
  | cons name rest ih =>
      rw [walk] at found
      rw [Path.collapse]
      split at found
      · cases found
      · cases found
      · split at found
        next back => rw [if_pos back, ih found]
        next forward =>
          rw [if_neg forward]
          split at found
          · cases found
          · exact ih found

/-- Every place on the way to the last one is a directory. -/
theorem directory_of_walk (found : tree.walk place parts = .ok last) {front : List String}
    (isFront : front <+: parts) (proper : front ≠ parts) :
    tree.get? (Path.collapse place front) = some .directory := by
  induction parts generalizing place front with
  | nil => exact absurd (List.prefix_nil.mp isFront) proper
  | cons name rest ih =>
      rw [walk] at found
      split at found
      · cases found
      · cases found
      next directory =>
        cases front with
        | nil => exact directory
        | cons first others =>
            obtain ⟨rfl, inner⟩ := List.cons_prefix_cons.mp isFront
            have shorter : others ≠ rest := fun same => proper (by rw [same])
            rw [Path.collapse]
            split at found
            next back =>
              rw [if_pos back]
              exact ih found inner shorter
            next forward =>
              rw [if_neg forward]
              split at found
              · cases found
              · exact ih found inner shorter

/-- A walk that does not end in nothing goes the same way where there are more directories. -/
theorem walk_extends (more : other.Extends tree) {result : Except Reason Place}
    (walked : tree.walk place parts = result) (present : result ≠ .error .noEntry)
    (through : result ≠ .error .notDirectory) : other.walk place parts = result := by
  induction parts generalizing place with
  | nil => exact walked
  | cons name rest ih =>
      rw [walk] at walked
      split at walked
      · exact absurd walked.symm present
      · exact absurd walked.symm through
      next directory =>
        rw [walk, more place directory]
        dsimp only
        split at walked
        next back =>
          rw [if_pos back]
          exact ih walked
        next forward =>
          rw [if_neg forward]
          split at walked
          next long => rw [if_pos long, walked]
          next short =>
            rw [if_neg short]
            exact ih walked

/-- Trees in which everything lies in a directory. -/
def Rooted (tree : FileTree) : Prop :=
  ∀ place name, tree.get? (place ++ [name]) ≠ none → tree.get? place = some .directory

theorem Rooted.of_entries
    (inside : ∀ entry ∈ tree.entries, tree.get? entry.1.dropLast = some .directory) :
    tree.Rooted := by
  intro place name present
  rw [get?_of_ne_root (by simp)] at present
  obtain ⟨entry, found⟩ := Option.ne_none_iff_exists'.mp present
  obtain ⟨before, after, entries, _⟩ := List.lookup_eq_some_iff.mp found
  have directory := inside (place ++ [name], entry) (by simp [entries])
  rwa [List.dropLast_concat] at directory

theorem Rooted.above (rooted : tree.Rooted) {name : String} {rest : List String}
    (present : tree.get? (place ++ name :: rest) ≠ none) : tree.get? place = some .directory := by
  induction rest generalizing place name with
  | nil => exact rooted place name present
  | cons second others ih =>
      rw [List.append_cons] at present
      have below := ih present
      exact rooted place name (by simp [below])

/-- A walk without steps back gets to what there is, unless a name is too long. -/
theorem Rooted.walk (rooted : tree.Rooted) (straight : ".." ∉ parts)
    (present : tree.get? (place ++ parts) ≠ none) :
    tree.walk place parts = .ok (place ++ parts) ∨ tree.walk place parts = .error .nameTooLong := by
  induction parts generalizing place with
  | nil => exact .inl (by rw [FileTree.walk, List.append_nil])
  | cons name rest ih =>
      rw [List.mem_cons, not_or] at straight
      rw [FileTree.walk, rooted.above present]
      dsimp only
      rw [if_neg (by simpa using Ne.symm straight.1)]
      split
      · exact .inr rfl
      · have onward : place ++ name :: rest = (place ++ [name]) ++ rest :=
          List.append_cons place name rest
        rw [onward] at present ⊢
        exact ih straight.2 present

/-- What a path leads to depends on the entries alone. -/
theorem lookup_congr (same : ∀ place, other.get? place = tree.get? place) (here : Place)
    (path : Path) :
    other.lookup here path = tree.lookup here path := by
  have walks (place : Place) (parts : List String) :
      other.walk place parts = tree.walk place parts := by
    induction parts generalizing place with
    | nil => rfl
    | cons name rest ih => rw [walk, walk, same, ih, ih]
  simp only [lookup, locate, walks, same]

theorem lookup_of_locate_eq_error {here : Place} {path : Path} {reason : Reason}
    (lost : tree.locate here path = .error reason) : tree.lookup here path = .error reason := by
  rw [lookup, lost]
  rfl

theorem lookup_eq_ok_iff {here : Place} {path : Path} {entry : Entry} :
    tree.lookup here path = .ok entry ↔
      ∃ place, tree.locate here path = .ok place ∧ tree.get? place = some entry := by
  unfold lookup
  cases tree.locate here path with
  | error reason => simp [bind, Except.bind]
  | ok place =>
      simp only [bind, Except.bind, Except.ok.injEq, exists_eq_left']
      cases tree.get? place <;> simp [pure, Except.pure]

end FileTree

end SchemaCompiler.FileSystem
