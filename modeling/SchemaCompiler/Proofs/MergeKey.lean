import SchemaCompiler.Document.Loading
import SchemaCompiler.Proofs.Generation
import SchemaCompiler.Proofs.Outcome

/-!
# Merge keys

A merge key of a mapping brings in the entries of other mappings, its sources. Keys that the mapping
has itself are not brought in, and a key that several sources have is brought in from the first of
them (`broughtIn`). All own entries stand behind what is brought in, whatever the positions of the
merge keys (`mergeEntries_flatten`). Which nodes are sources and which are own values can be read
off the graph before anything is unfolded (`mergedSources`, `explicitPairs`).
-/

namespace SchemaCompiler.Document

open Schema (Failure bind_eq_ok fail_ne_ok map_eq_ok)
open Target (forall₂_of_mapM_eq_ok)

/-! ## Entries by their keys -/

namespace Entries

theorem mem_keys_iff {entries : Entries} {key : String} :
    key ∈ entries.keys ↔ (entries.lookup key).isSome := by
  induction entries with
  | nil => simp [keys]
  | cons entry rest ih =>
      obtain ⟨name, value⟩ := entry
      rw [keys, List.map_cons, List.mem_cons, List.lookup_cons]
      by_cases same : key = name
      · simp [same]
      · rw [beq_false_of_ne same, ← ih, keys]
        simp [same]

theorem contains_iff {entries : Entries} {key : String} :
    entries.contains key = true ↔ key ∈ entries.keys :=
  mem_keys_iff.symm

theorem lookup_eq_none {entries : Entries} {key : String} (missing : key ∉ entries.keys) :
    entries.lookup key = none := by
  rw [mem_keys_iff] at missing
  exact Option.not_isSome_iff_eq_none.mp missing

/-- In a list of mappings, a key is found in the first one that has it. -/
theorem lookup_flatten (sources : List Entries) (key : String) :
    sources.flatten.lookup key =
      (sources.find? (Entries.contains · key)).bind (List.lookup key) := by
  induction sources with
  | nil => rfl
  | cons source rest ih =>
      rw [List.flatten_cons, List.lookup_append, ih, List.find?_cons]
      unfold Entries.contains
      cases found : source.lookup key with
      | none => rfl
      | some node => exact found.symm

theorem keys_flatten (sources : List Entries) :
    Entries.keys sources.flatten = sources.flatMap Entries.keys := by
  rw [Entries.keys, List.map_flatten]
  rfl

end Entries

/-- What merge keys bring in: every key that only sources have, in the order in which the keys first
occur, with its value in the first source that has it. -/
def broughtIn (sources : List Entries) (explicit : Entries) : Entries :=
  ((sources.flatMap Entries.keys).filter (!explicit.contains ·)).eraseDups.filterMap fun key =>
    ((sources.find? (Entries.contains · key)).bind (List.lookup key)).map (key, ·)

/-- Going through merged entries one by one picks each new key once, with its first value. -/
theorem inherited_eq (explicit seen : List String) (merged : Entries) :
    inherited explicit seen merged =
      (merged.keys.filter fun key =>
        !(explicit.contains key || seen.contains key)).eraseDups.filterMap
        fun key => (merged.lookup key).map (key, ·) := by
  induction merged generalizing seen with
  | nil => simp [inherited, Entries.keys]
  | cons entry rest ih =>
      obtain ⟨key, value⟩ := entry
      have behind {keys : List String} (others : ∀ other ∈ keys, other ≠ key) :
          (keys.filterMap fun other => (List.lookup other ((key, value) :: rest)).map (other, ·)) =
            keys.filterMap fun other => (List.lookup other rest).map (other, ·) := by
        refine List.filterMap_congr fun other isOther => ?_
        rw [List.lookup_cons, beq_false_of_ne (others other isOther)]
      rw [inherited, Entries.keys, List.map_cons, ← Entries.keys]
      split
      next known =>
        rw [ih, List.filter_cons_of_neg (by rw [known]; decide), behind]
        rintro other isOther rfl
        rw [List.mem_eraseDups, List.mem_filter, known] at isOther
        exact absurd isOther.2 (by decide)
      next new =>
        rw [ih, List.filter_cons_of_pos (by simpa using new), List.eraseDups_cons,
          List.filterMap_cons]
        have first : List.lookup key ((key, value) :: rest) = some value := by simp
        rw [first, behind, List.filter_filter]
        · have same : (fun other => !(explicit.contains other || (key :: seen).contains other)) =
              fun other => (!other == key) &&
                !(explicit.contains other || seen.contains other) := by
            funext other
            rw [List.contains_cons]
            cases other == key <;> cases explicit.contains other <;> cases seen.contains
              other <;> rfl
          rw [same]
          rfl
        · intro other isOther
          rw [List.mem_eraseDups, List.mem_filter] at isOther
          simpa using isOther.2

/-- A mapping with merge keys has what they bring in, and then its own entries. -/
theorem mergeEntries_flatten (sources : List Entries) (explicit : Entries) :
    mergeEntries sources.flatten explicit = broughtIn sources explicit ++ explicit := by
  have own (key : String) : explicit.contains key = explicit.keys.contains key := by
    rw [Bool.eq_iff_iff, Entries.contains_iff, List.contains_iff_mem]
  rw [mergeEntries, inherited_eq, broughtIn, Entries.keys_flatten]
  simp only [own, Entries.lookup_flatten, List.contains_nil, Bool.or_false]

/-- The values of some keys, in order: each key is found with its own value. -/
theorem lookup_keyed (keys : List String) (value : String → Option Node) (key : String) :
    List.lookup key (keys.filterMap fun other => (value other).map (other, ·)) =
      if key ∈ keys then value key else none := by
  induction keys with
  | nil => rfl
  | cons first rest ih =>
      rw [List.filterMap_cons]
      by_cases same : key = first
      · subst same
        cases found : value key with
        | none => simp [ih, found]
        | some node => simp
      · cases value first with
        | none => simp [ih, same]
        | some node =>
            dsimp only [Option.map_some]
            rw [List.lookup_cons, beq_false_of_ne same]
            simp [ih, same]

theorem keys_keyed {keys : List String} {value : String → Option Node}
    (each : ∀ key ∈ keys, (value key).isSome) :
    Entries.keys (keys.filterMap fun key => (value key).map (key, ·)) = keys := by
  induction keys with
  | nil => rfl
  | cons first rest ih =>
      rw [List.forall_mem_cons, Option.isSome_iff_exists] at each
      obtain ⟨⟨node, found⟩, others⟩ := each
      rw [List.filterMap_cons, found]
      exact congrArg (first :: ·) (ih others)

section BroughtIn

variable (sources : List Entries) (explicit : Entries)

theorem keys_broughtIn : (broughtIn sources explicit).keys =
    ((sources.flatMap Entries.keys).filter (!explicit.contains ·)).eraseDups := by
  refine keys_keyed fun key isKey => ?_
  rw [List.mem_eraseDups, List.mem_filter] at isKey
  rw [← Entries.lookup_flatten, ← Entries.mem_keys_iff, Entries.keys_flatten]
  exact isKey.1

theorem mem_keys_broughtIn {key : String} :
    key ∈ (broughtIn sources explicit).keys ↔
      (∃ source ∈ sources, key ∈ source.keys) ∧ key ∉ explicit.keys := by
  rw [keys_broughtIn, List.mem_eraseDups, List.mem_filter, List.mem_flatMap, ← Entries.contains_iff]
  simp

/-- A key is found among the own entries, if it is one of theirs, and else in the first source that
has it. -/
theorem get?_broughtIn_append (key : String) :
    Entries.get? (broughtIn sources explicit ++ explicit) key =
      if explicit.contains key then explicit.get? key
      else (sources.find? (Entries.contains · key)).bind (Entries.get? · key) := by
  have picked : (broughtIn sources explicit ++ explicit).lookup key =
      if explicit.contains key then explicit.lookup key
      else (sources.find? (Entries.contains · key)).bind (List.lookup key) := by
    rw [List.lookup_append, ← Entries.lookup_flatten]
    split
    next own =>
      have missing : key ∉ (broughtIn sources explicit).keys := by
        simp [mem_keys_broughtIn, Entries.contains_iff.mp own]
      rw [Entries.lookup_eq_none missing, Option.none_or]
    next notOwn =>
      rw [Entries.contains_iff] at notOwn
      rw [Entries.lookup_eq_none notOwn, Option.or_none, broughtIn, lookup_keyed, ← keys_broughtIn,
        ← Entries.lookup_flatten]
      split
      next => rfl
      next missing =>
        refine (Entries.lookup_eq_none ?_).symm
        rw [Entries.keys_flatten, List.mem_flatMap]
        exact fun inSource => missing ((mem_keys_broughtIn sources explicit).mpr ⟨inSource, notOwn⟩)
  unfold Entries.get?
  rw [picked]
  split
  · rfl
  · cases sources.find? (Entries.contains · key) <;> rfl

end BroughtIn

/-! ## The entries of a mapping -/

/-- What the key of an entry stands for. -/
inductive KeyKind where
  /-- There is no node with the number of the key. -/
  | missing
  | merge
  /-- A key of the mapping itself, with its text. -/
  | own (text : String)
  /-- A collection, which starts on a line. -/
  | collection (line : Int)

section Unfolding

variable (graph : Yaml.Graph)

def keyKind (key : Nat) : KeyKind :=
  match graph.node? key with
  | none => .missing
  | some node =>
    if node.tag == Yaml.Tag.merge then .merge
    else
      match node.content with
      | .scalar text => .own text
      | _ => .collection (lineOf node)

/-- The sources of a mapping, in the order of its merge keys. -/
def mergedSources (pairs : List (Nat × Nat)) : List Nat :=
  pairs.flatMap fun pair =>
    match keyKind graph pair.1 with
    | .merge => mergeSources graph pair.2
    | _ => []

/-- The own keys of a mapping with their values, in order. -/
def explicitPairs (pairs : List (Nat × Nat)) : List (String × Nat) :=
  pairs.filterMap fun pair =>
    match keyKind graph pair.1 with
    | .own text => some (text, pair.2)
    | _ => none

/-- Mappings whose own keys are scalars. -/
def ScalarKeys (pairs : List (Nat × Nat)) : Prop :=
  ∀ pair ∈ pairs, ∀ line, keyKind graph pair.1 ≠ .collection line

variable (document : String) (convert : Nat → Except Failure Node)

/-- The entries of a source, which must be a mapping. -/
def sourceEntries (source : Nat) : Except Failure Entries := do
  match ← convert source with
  | .mapping _ entries => return entries
  | node => Schema.fail .mergeNotMapping { document := some document, line := node.line? }

theorem unfoldEntries_cons (key value : Nat) (rest : List (Nat × Nat)) :
    unfoldEntries graph document convert ((key, value) :: rest) =
      match keyKind graph key with
      | .missing => unfoldEntries graph document convert rest
      | .merge => do
        let sources ← (mergeSources graph value).mapM (sourceEntries document convert)
        let found ← unfoldEntries graph document convert rest
        return (sources.flatten ++ found.1, found.2)
      | .own text => do
        let node ← convert value
        let found ← unfoldEntries graph document convert rest
        return (found.1, (text, node) :: found.2)
      | .collection line =>
          Schema.fail .keyNotScalar { document := some document, line := some line } := by
  rw [unfoldEntries]
  unfold keyKind
  cases graph.node? key with
  | none => rfl
  | some node =>
      dsimp only
      split
      · rfl
      · cases node.content <;> rfl

variable {graph document convert} {pairs : List (Nat × Nat)}

theorem sourceEntries_eq_ok_iff {source : Nat} {entries : Entries} :
    sourceEntries document convert source = .ok entries ↔
    ∃ line, convert source = .ok (.mapping line entries) := by
  constructor
  · intro done
    obtain ⟨node, converted, done⟩ := bind_eq_ok done
    cases node with
    | mapping line own =>
        cases done
        exact ⟨line, converted⟩
    | scalar | sequence | absent => exact absurd done fail_ne_ok
  · rintro ⟨line, converted⟩
    rw [sourceEntries, converted]
    rfl

/-- What the sources and the own keys of a mapping are unfolded to, each in order. -/
structure Unfolded (graph : Yaml.Graph) (convert : Nat → Except Failure Node)
    (pairs : List (Nat × Nat)) (sources : List Entries) (explicit : Entries) : Prop where
  scalar : ScalarKeys graph pairs
  sources :
    List.Forall₂ (fun source entries => ∃ line, convert source = .ok (.mapping line entries))
    (mergedSources graph pairs) sources
  explicit : List.Forall₂ (fun pair entry => entry.1 = pair.1 ∧ convert pair.2 = .ok entry.2)
    (explicitPairs graph pairs) explicit

/-- Entries that come out of a mapping are those of all sources, and those of all own keys. -/
theorem unfoldEntries_eq_ok {found : Entries × Entries}
    (done : unfoldEntries graph document convert pairs = .ok found) :
    ∃ sources, found.1 = sources.flatten ∧ Unfolded graph convert pairs sources found.2 := by
  suffices ScalarKeys graph pairs ∧
      (∃ sources, found.1 = sources.flatten ∧
        List.Forall₂ (fun source entries => ∃ line, convert source = .ok (.mapping line entries))
          (mergedSources graph pairs) sources) ∧
      List.Forall₂ (fun pair entry => entry.1 = pair.1 ∧ convert pair.2 = .ok entry.2)
        (explicitPairs graph pairs) found.2 by
    obtain ⟨scalar, ⟨sources, flat, areSources⟩, explicit⟩ := this
    exact ⟨sources, flat, scalar, areSources, explicit⟩
  induction pairs generalizing found with
  | nil =>
      cases done
      exact ⟨by simp [ScalarKeys], ⟨[], rfl, .nil⟩, .nil⟩
  | cons pair rest ih =>
      obtain ⟨key, value⟩ := pair
      rw [unfoldEntries_cons] at done
      unfold ScalarKeys mergedSources explicitPairs at ih ⊢
      rw [List.forall_mem_cons, List.flatMap_cons, List.filterMap_cons]
      cases kind : keyKind graph key with
      | missing =>
          rw [kind] at done
          obtain ⟨scalar, sources, own⟩ := ih done
          exact ⟨⟨by simp, scalar⟩, sources, own⟩
      | merge =>
          rw [kind] at done
          obtain ⟨here, sourcesRead, done⟩ := bind_eq_ok done
          obtain ⟨others, othersRead, done⟩ := bind_eq_ok done
          cases done
          obtain ⟨scalar, ⟨sources, flat, converted⟩, own⟩ := ih othersRead
          refine ⟨⟨by simp, scalar⟩, ⟨here ++ sources, by simp [flat], ?_⟩, own⟩
          exact List.rel_append
            ((forall₂_of_mapM_eq_ok sourcesRead).imp fun _ _ => sourceEntries_eq_ok_iff.mp)
              converted
      | own text =>
          rw [kind] at done
          obtain ⟨node, converted, done⟩ := bind_eq_ok done
          obtain ⟨others, othersRead, done⟩ := bind_eq_ok done
          cases done
          obtain ⟨scalar, sources, own⟩ := ih othersRead
          exact ⟨⟨by simp, scalar⟩, sources, .cons ⟨rfl, converted⟩ own⟩
      | collection line =>
          rw [kind] at done
          exact absurd done fail_ne_ok

/-- Nothing else goes wrong with a mapping whose own keys are scalars than what goes wrong with its
values and its sources, if these are mappings. -/
theorem unfoldEntries_outcome {allowed : Failure → Prop} (scalar : ScalarKeys graph pairs)
    (sources : ∀ source ∈ mergedSources graph pairs, Outcome allowed
      (fun node => ∃ line entries, node = .mapping line entries) (convert source))
    (values : ∀ pair ∈ explicitPairs graph pairs, Outcome allowed (fun _ => True)
      (convert pair.2)) :
    Outcome allowed (fun _ => True) (unfoldEntries graph document convert pairs) := by
  induction pairs with
  | nil => exact .ok trivial
  | cons pair rest ih =>
      obtain ⟨key, value⟩ := pair
      rw [ScalarKeys, List.forall_mem_cons] at scalar
      rw [mergedSources, List.flatMap_cons, List.forall_mem_append] at sources
      rw [explicitPairs, List.filterMap_cons] at values
      rw [unfoldEntries_cons]
      cases kind : keyKind graph key with
      | missing =>
          rw [kind] at values
          exact ih scalar.2 sources.2 values
      | merge =>
          rw [kind] at values sources
          refine (Outcome.mapM_failures fun source member => ?_).bind fun _ _ =>
            (ih scalar.2 sources.2 values).bind fun _ _ => .ok trivial
          refine (sources.1 source member).bind ?_
          rintro _ ⟨line, entries, rfl⟩
          exact .ok trivial
      | own text =>
          rw [kind] at values
          rw [List.forall_mem_cons] at values
          exact values.1.bind fun _ _ =>
            (ih scalar.2 sources.2 values.2).bind fun _ _ => .ok trivial
      | collection line => exact absurd kind (scalar.1 line)

/-- What unfolding a mapping gives, in terms of its entries. -/
theorem unfold_mapping {id : Nat} {node : Yaml.Composed} (found : graph.node? id = some node)
    (isMapping : node.content = .mapping pairs) (document : String) (reader : ScalarReader)
    (steps : Nat) (active : List Nat) :
    unfold graph document reader (steps + 1) active id =
      if active.contains id then
        Schema.fail .recursiveAlias { document := some document, line := some (lineOf node) }
      else
        (unfoldEntries graph document (unfold graph document reader steps (id :: active)) pairs).map
          fun found =>
          .mapping (lineOf node) (mergeEntries found.1 found.2) := by
  rw [unfold, found]
  dsimp only
  rw [isMapping]
  rfl

/-- A mapping can be unfolded as soon as its sources are unfolded to mappings, and its own values to
anything. Then it consists of what its merge keys bring in and, behind that, of all own entries in
their order, repeated ones included. What is brought in has each key once, and none of the own keys.
All keys of the mapping and of its sources are there. A key has its first own value, if there is
one, and else its value in the first source that has it. -/
theorem merge_keys_expanded {id : Nat} {node : Yaml.Composed} (found : graph.node? id = some node)
    (isMapping : node.content = .mapping pairs) (document : String) (reader : ScalarReader)
    (steps : Nat) (active : List Nat) :
    ((∃ tree, unfold graph document reader (steps + 1) active id = .ok tree) ↔
      id ∉ active ∧ ∃ sources explicit,
        Unfolded graph (unfold graph document reader steps (id :: active)) pairs sources explicit) ∧
    ∀ tree, unfold graph document reader (steps + 1) active id = .ok tree →
      ∃ (sources : List Entries) (brought explicit : Entries),
      Unfolded graph (unfold graph document reader steps (id :: active)) pairs sources explicit ∧
      tree = .mapping (lineOf node) (brought ++ explicit) ∧
      brought.keys.Nodup ∧ (∀ key ∈ brought.keys, key ∉ explicit.keys) ∧
      (∀ key, key ∈ Entries.keys (brought ++ explicit) ↔
        key ∈ explicit.keys ∨ ∃ source ∈ sources, key ∈ source.keys) ∧
      ∀ key, Entries.get? (brought ++ explicit) key =
        if explicit.contains key then explicit.get? key
        else (sources.find? (Entries.contains · key)).bind (Entries.get? · key) := by
  rw [unfold_mapping found isMapping]
  by_cases isActive : id ∈ active
  · rw [if_pos (List.contains_iff_mem.mpr isActive)]
    exact ⟨iff_of_false (fun ⟨_, done⟩ => fail_ne_ok done) fun parts => parts.1 isActive,
      fun _ done => absurd done fail_ne_ok⟩
  rw [if_neg (mt List.contains_iff_mem.mp isActive)]
  refine ⟨⟨?_, ?_⟩, ?_⟩
  · rintro ⟨tree, done⟩
    obtain ⟨entries, read, _⟩ := map_eq_ok done
    obtain ⟨sources, _, unfolded⟩ := unfoldEntries_eq_ok read
    exact ⟨isActive, sources, _, unfolded⟩
  · rintro ⟨_, sources, explicit, unfolded⟩
    have outcome : Outcome (fun _ => False) (fun _ => True) (unfoldEntries graph document
        (unfold graph document reader steps (id :: active)) pairs) := by
      refine unfoldEntries_outcome unfolded.scalar (fun source member => ?_) fun pair member => ?_
      · obtain ⟨entries, _, line, done⟩ := exists_right_of_mem unfolded.sources member
        rw [done]
        exact .ok ⟨line, entries, rfl⟩
      · obtain ⟨entry, _, _, done⟩ := exists_right_of_mem unfolded.explicit member
        rw [done]
        exact .ok trivial
    cases read : unfoldEntries graph document
      (unfold graph document reader steps (id :: active)) pairs with
    | ok entries => exact ⟨_, rfl⟩
    | error failure => exact (outcome.failure failure read).elim
  · intro tree done
    obtain ⟨entries, read, rfl⟩ := map_eq_ok done
    obtain ⟨sources, flat, unfolded⟩ := unfoldEntries_eq_ok read
    refine ⟨sources, broughtIn sources entries.2, entries.2, unfolded, ?_, ?_, ?_, ?_, ?_⟩
    · rw [flat, mergeEntries_flatten]
    · rw [keys_broughtIn]
      exact nodup_eraseDups _
    · exact fun key isKey => (mem_keys_broughtIn sources entries.2 |>.mp isKey).2
    · intro key
      rw [Entries.keys, List.map_append, List.mem_append, ← Entries.keys, ← Entries.keys,
        mem_keys_broughtIn]
      by_cases own : key ∈ Entries.keys entries.2 <;> simp [own]
    · exact get?_broughtIn_append sources entries.2

end Unfolding

/-- The graph of a mapping with two merge keys between its own entries. The first has two sources,
of which one has a key twice and the other merges the source of the second. -/
def layered : Yaml.Graph :=
  let node (content : Yaml.Content) : Yaml.Composed := { tag := Yaml.Tag.str, mark := {}, content }
  let merge : Yaml.Composed := { tag := Yaml.Tag.merge, mark := {}, content := .scalar "<<" }
  { nodes := #[
      node (.mapping [(5, 5), (4, 1), (6, 6), (4, 3), (5, 7)]), node (.sequence [2, 8]),
      node (.mapping [(7, 5), (5, 6), (7, 7)]), node (.mapping [(9, 9), (7, 9)]), merge,
        node (.scalar "a"),
      node (.scalar "b"), node (.scalar "x"), node (.mapping [(4, 3), (10, 5)]), node (.scalar "z"),
      node (.scalar "y")] }

/-- Scalars as texts. -/
def plainReader : ScalarReader := fun _ text _ => .ok (.text text)

theorem layered_expanded :
    ∃ brought explicit : Entries,
      unfold layered "" plainReader 4 [] 0 = .ok (.mapping 1 (brought ++ explicit)) ∧
      Entries.keys (brought ++ explicit) = ["x", "z", "y", "a", "b", "a"] ∧
      brought.keys.Nodup ∧ ∀ key ∈ brought.keys, key ∉ explicit.keys := by
  have read : ((unfold layered "" plainReader 4 [] 0).toOption.bind Node.entries?).map
      Entries.keys =
      some ["x", "z", "y", "a", "b", "a"] := by decide +kernel
  obtain ⟨entries, isEntries, keys⟩ := Option.map_eq_some_iff.mp read
  obtain ⟨tree, found, isMapping⟩ := Option.bind_eq_some_iff.mp isEntries
  have done := Schema.eq_ok_of_toOption found
  obtain ⟨sources, brought, explicit, unfolded, rfl, once, apart, _⟩ :=
    (merge_keys_expanded (show layered.node? 0 = some _ from rfl) rfl "" plainReader 3 []).2 tree
      done
  cases isMapping
  exact ⟨brought, explicit, done, keys, once, apart⟩

end SchemaCompiler.Document
