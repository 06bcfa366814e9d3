import Mathlib.Data.List.Chain
import Mathlib.Data.List.Nodup
import Mathlib.Data.List.Perm.Subperm
import SchemaCompiler.Schema.AliasCycle

/-!
# Walks along aliases

From an alias one step leads to the alias that its target ends in, inside all arrays; `visited`
counts the steps and has no bound. A walk revisits an alias or ends (`visited_ends`), since all
aliases it passes are different types. The check follows the same walk with the list of the aliases
it has passed (`Walk`), and the bound on its steps is never what stops it (`findCycle_add_steps`).
-/

namespace SchemaCompiler.Schema

/-! ## Steps between aliases -/

/-- The target of the alias with a number. -/
def aliasTarget? (types : List NamedType) (id : Nat) : Option TypeExpr :=
  (types[id]?).bind NamedType.target?

/-- The alias that the target of an alias ends in, inside all arrays. -/
def nextAlias? (types : List NamedType) (id : Nat) : Option Nat :=
  (aliasTarget? types id).bind fun target =>
    target.leafId?.filter fun next => (aliasTarget? types next).isSome

/-- The alias that a walk from `start` visits after a number of steps. -/
def visited (types : List NamedType) (start : Nat) : Nat → Option Nat
  | 0 => if (aliasTarget? types start).isSome then some start else none
  | steps + 1 => (visited types start steps).bind (nextAlias? types)

/-- The walk from `start` reaches an alias that it has visited already. -/
def Revisits (types : List NamedType) (start : Nat) : Prop :=
  ∃ early late id, early < late ∧
    visited types start early = some id ∧ visited types start late = some id

/-- Types from none of which aliases lead to a cycle. -/
def Acyclic (types : List NamedType) : Prop := ∀ start, ¬Revisits types start

/-- Aliases of which each leads to the next, and the last back to the first. -/
structure IsAliasCycle (types : List NamedType) (cycle : List Nat) : Prop where
  nonempty : cycle ≠ []
  distinct : cycle.Nodup
  closed : (cycle ++ cycle.take 1).IsChain fun id next => nextAlias? types id = some next

variable {types : List NamedType} {start id next : Nat} {target : TypeExpr}

theorem lt_of_aliasTarget? (found : aliasTarget? types id = some target) : id < types.length := by
  obtain ⟨type, here, _⟩ := Option.bind_eq_some_iff.mp found
  exact (List.getElem?_eq_some_iff.mp here).1

theorem nextAlias?_eq_some_iff :
    nextAlias? types id = some next ↔
      ∃ target, aliasTarget? types id = some target ∧ target.leafId? = some next ∧
        (aliasTarget? types next).isSome = true := by
  simp [nextAlias?, Option.bind_eq_some_iff, Option.filter_eq_some_iff]

/-- Every visited type is an alias. -/
theorem isSome_of_visited {steps : Nat} (passed : visited types start steps = some id) :
    (aliasTarget? types id).isSome = true := by
  cases steps with
  | zero =>
      simp only [visited] at passed
      split at passed
      next isAlias => cases passed; exact isAlias
      next => cases passed
  | succ steps =>
      obtain ⟨before, _, stepped⟩ := Option.bind_eq_some_iff.mp passed
      exact (nextAlias?_eq_some_iff.mp stepped).choose_spec.2.2

theorem lt_of_visited {steps : Nat} (passed : visited types start steps = some id) :
    id < types.length := by
  obtain ⟨target, found⟩ := Option.isSome_iff_exists.mp (isSome_of_visited passed)
  exact lt_of_aliasTarget? found

/-- A walk that has ended does not go on. -/
theorem visited_none_of_le {early late : Nat} (le : early ≤ late)
    (ended : visited types start early = none) : visited types start late = none := by
  induction le with
  | refl => exact ended
  | step _ ih => simp [visited, ih]

/-- A walk passes no more different aliases than there are types. -/
theorem count_visits_le {count : Nat} (passes : ∀ steps < count, visited types start steps ≠ none)
    (apart : ∀ late < count, ∀ early < late, visited types start early ≠ visited types start late) :
    count ≤ types.length := by
  -- within `count` steps the walk has not ended, so the default is never used
  let visit (steps : Nat) : Nat := (visited types start steps).getD 0
  have visit_spec : ∀ steps < count, visited types start steps = some (visit steps) := by
    intro steps lt
    obtain ⟨id, passed⟩ := Option.ne_none_iff_exists'.mp (passes steps lt)
    simp [visit, passed]
  have distinct : ((List.range count).map visit).Nodup := by
    refine List.Nodup.map_on ?_ List.nodup_range
    intro early inEarly late inLate same
    rw [List.mem_range] at inEarly inLate
    have visits : visited types start early = visited types start late := by
      rw [visit_spec early inEarly, visit_spec late inLate, same]
    rcases Nat.lt_trichotomy early late with lt | eq | gt
    · exact absurd visits (apart late inLate early lt)
    · exact eq
    · exact absurd visits.symm (apart early inEarly late gt)
  have bounded : (List.range count).map visit ⊆ List.range types.length := by
    intro id member
    obtain ⟨steps, listed, rfl⟩ := List.mem_map.mp member
    exact List.mem_range.mpr (lt_of_visited (visit_spec steps (List.mem_range.mp listed)))
  simpa using (distinct.subperm bounded).length_le

/-- A walk ends or comes back after at most as many steps as there are types. -/
theorem visited_ends (types : List NamedType) (start : Nat) :
    ∃ steps ≤ types.length, visited types start steps = none ∨
      ∃ early < steps, visited types start early = visited types start steps := by
  by_contra goesOn
  push Not at goesOn
  have tooMany : types.length + 1 ≤ types.length :=
    count_visits_le (fun steps lt => (goesOn steps (by omega)).1)
      fun late lt => (goesOn late (by omega)).2
  omega

/-! ## Walks in other types -/

/-- Numbers that keep aliases aliases, and keep what their targets end in. -/
def KeepsAliases (left right : List NamedType) (rename : Nat → Nat) : Prop :=
  ∀ id target, aliasTarget? left id = some target →
    ∃ renamed, aliasTarget? right (rename id) = some renamed ∧
      ∀ next, target.leafId? = some next → renamed.leafId? = some (rename next)

theorem KeepsAliases.visited {left right : List NamedType} {rename : Nat → Nat}
    (keeps : KeepsAliases left right rename) {steps : Nat}
    (passed : visited left start steps = some id) :
    visited right (rename start) steps = some (rename id) := by
  have isAlias {id : Nat} (found : (aliasTarget? left id).isSome = true) :
      (aliasTarget? right (rename id)).isSome = true := by
    obtain ⟨target, found⟩ := Option.isSome_iff_exists.mp found
    obtain ⟨renamed, found, _⟩ := keeps id target found
    simp [found]
  induction steps generalizing id with
  | zero =>
      have here := isSome_of_visited passed
      obtain ⟨_, rfl⟩ : (aliasTarget? left start).isSome = true ∧ start = id := by
        simpa [Schema.visited] using passed
      simp [Schema.visited, isAlias here]
  | succ steps ih =>
      obtain ⟨before, passedBefore, stepped⟩ := Option.bind_eq_some_iff.mp passed
      obtain ⟨target, found, leaf, nextIsAlias⟩ := nextAlias?_eq_some_iff.mp stepped
      obtain ⟨renamed, foundRenamed, leaves⟩ := keeps before target found
      rw [Schema.visited, ih passedBefore, Option.bind_some, nextAlias?_eq_some_iff]
      exact ⟨renamed, foundRenamed, leaves id leaf, isAlias nextIsAlias⟩

theorem KeepsAliases.acyclic {left right : List NamedType} {rename : Nat → Nat}
    (keeps : KeepsAliases left right rename) (acyclic : Acyclic right) : Acyclic left := by
  rintro start ⟨early, late, id, lt, first, second⟩
  exact acyclic (rename start)
    ⟨early, late, rename id, lt, keeps.visited first, keeps.visited second⟩

/-! ## The walk of the check -/

/-- The walk from `start` has passed the aliases of `chain`, all of them different, and the last of
them has the target `target`. -/
structure Walk (types : List NamedType) (start : Nat) (chain : List Nat) (target : TypeExpr) :
    Prop where
  passed : ∀ steps < chain.length, visited types start steps = chain[steps]?
  distinct : chain.Nodup
  here : chain.getLast?.bind (aliasTarget? types) = some target

theorem aliasStep?_eq_some {type : NamedType} {onward : TypeExpr}
    (stepped : aliasStep? types target = some (next, type, onward)) :
    target.leafId? = some next ∧ aliasTarget? types next = some onward := by
  unfold aliasStep? at stepped
  obtain ⟨id, leaf, stepped⟩ := Option.bind_eq_some_iff.mp stepped
  obtain ⟨found, member, stepped⟩ := Option.bind_eq_some_iff.mp stepped
  obtain ⟨last, isAlias, stepped⟩ := Option.bind_eq_some_iff.mp stepped
  cases stepped
  exact ⟨leaf, by rw [aliasTarget?, member, Option.bind_some, isAlias]⟩

theorem aliasStep?_eq_none (stays : aliasStep? types target = none) :
    (target.leafId?.filter fun next => (aliasTarget? types next).isSome) = none := by
  rw [Option.filter_eq_none_iff]
  intro next leaf isAlias
  obtain ⟨onward, found⟩ := Option.isSome_iff_exists.mp isAlias
  obtain ⟨type, member, isTarget⟩ := Option.bind_eq_some_iff.mp found
  simp [aliasStep?, leaf, member, isTarget] at stays

namespace Walk

variable {chain : List Nat} {type : NamedType} {onward : TypeExpr}

/-- A walk begins at an alias. -/
theorem begin (found : aliasTarget? types start = some target) :
    Walk types start [start] target where
  passed := by
    intro steps lt
    obtain rfl : steps = 0 := by simpa using lt
    simp [visited, found]
  distinct := List.nodup_singleton start
  here := found

/-- What the walk visits after the aliases it has passed. -/
theorem visited_length (walk : Walk types start chain target) :
    visited types start chain.length =
      target.leafId?.filter fun next => (aliasTarget? types next).isSome := by
  obtain ⟨last, isLast, found⟩ := Option.bind_eq_some_iff.mp walk.here
  obtain ⟨before, rfl⟩ := List.getLast?_eq_some_iff.mp isLast
  have passed := walk.passed before.length (by simp)
  rw [List.getElem?_concat_length] at passed
  rw [List.length_append, List.length_singleton, visited, passed, Option.bind_some,
    nextAlias?, found, Option.bind_some]

theorem visited_onward (walk : Walk types start chain target)
    (stepped : aliasStep? types target = some (next, type, onward)) :
    visited types start chain.length = some next := by
  obtain ⟨leaf, found⟩ := aliasStep?_eq_some stepped
  rw [walk.visited_length, leaf]
  simp [found]

/-- The aliases passed and the next one, in order. -/
theorem passed_onward (walk : Walk types start chain target)
    (stepped : aliasStep? types target = some (next, type, onward)) :
    ∀ steps < (chain ++ [next]).length, visited types start steps = (chain ++ [next])[steps]? := by
  intro steps lt
  rw [List.length_append, List.length_singleton] at lt
  rcases Nat.lt_or_ge steps chain.length with earlier | later
  · rw [walk.passed steps earlier, List.getElem?_append_left earlier]
  · obtain rfl : steps = chain.length := by omega
    rw [walk.visited_onward stepped, List.getElem?_concat_length]

/-- A step to an alias that was not passed before continues the walk. -/
theorem step (walk : Walk types start chain target)
    (stepped : aliasStep? types target = some (next, type, onward)) (isNew : next ∉ chain) :
    Walk types start (chain ++ [next]) onward where
  passed := walk.passed_onward stepped
  distinct := List.nodup_append.mpr ⟨walk.distinct, List.nodup_singleton next, by
    intro id member other same
    rw [List.mem_singleton.mp same]
    rintro rfl
    exact isNew member⟩
  here := by
    rw [List.getLast?_concat, Option.bind_some]
    exact (aliasStep?_eq_some stepped).2

theorem visited_ne_none (walk : Walk types start chain target) {steps : Nat}
    (lt : steps < chain.length) :
    visited types start steps ≠ none := by
  rw [walk.passed steps lt, List.getElem?_eq_getElem lt]
  exact Option.some_ne_none _

theorem visited_ne (walk : Walk types start chain target) {early late : Nat} (lt : early < late)
    (within : late < chain.length) : visited types start early ≠ visited types start late := by
  rw [walk.passed early (by omega), walk.passed late within]
  intro same
  have eq := (List.getElem?_inj (by omega) walk.distinct).mp same
  omega

theorem length_le (walk : Walk types start chain target) : chain.length ≤ types.length :=
  count_visits_le (fun _ lt => walk.visited_ne_none lt) fun _ within _ lt =>
    walk.visited_ne lt within

/-- A walk that stops has revisited nothing. -/
theorem not_revisits (walk : Walk types start chain target)
    (stays : aliasStep? types target = none) :
    ¬Revisits types start := by
  rintro ⟨early, late, id, lt, first, second⟩
  have ended := walk.visited_length.trans (aliasStep?_eq_none stays)
  have within : late < chain.length := by
    by_contra beyond
    rw [visited_none_of_le (Nat.le_of_not_lt beyond) ended] at second
    cases second
  exact walk.visited_ne lt within (first.trans second.symm)

/-- The part of the walk from an alias on, to which the next step leads back, is a cycle. -/
theorem isAliasCycle (walk : Walk types start chain target)
    (stepped : aliasStep? types target = some (next, type, onward)) {before after : List Nat}
    (parts : chain = before ++ next :: after) : IsAliasCycle types (next :: after) where
  nonempty := List.cons_ne_nil next after
  distinct := (List.nodup_append.mp (parts ▸ walk.distinct)).2.1
  closed := by
    have inOrder : (chain ++ [next]).IsChain fun id next => nextAlias? types id = some next := by
      rw [List.isChain_iff_getElem]
      intro steps lt
      have here := walk.passed_onward stepped steps (by omega)
      have there := walk.passed_onward stepped (steps + 1) lt
      rw [List.getElem?_eq_getElem] at here there
      rw [visited, here, Option.bind_some] at there
      exact there
    rw [parts, List.append_assoc] at inOrder
    exact inOrder.right_of_append

end Walk

/-! ## The search for a cycle -/

theorem dropWhile_eq_of_mem {id : Nat} {ids : List Nat} (member : id ∈ ids) :
    ∃ before after, ids = before ++ id :: after ∧ ids.dropWhile (· != id) = id :: after := by
  obtain ⟨before, after, rfl, isFirst⟩ := List.eq_append_cons_of_mem member
  refine ⟨before, after, rfl, ?_⟩
  rw [List.dropWhile_append_of_pos]
  · simp
  · intro other earlier
    have ne : other ≠ id := fun same => isFirst (same ▸ earlier)
    simpa using ne

/-- A search that has steps enough finds nothing only if the walk revisits nothing. -/
theorem not_revisits_of_findCycle {steps : Nat} {chain : List Nat}
    (walk : Walk types start chain target) (enough : types.length < chain.length + steps)
    (missed : findCycle types steps chain target = none) :
    ¬Revisits types start := by
  induction steps generalizing chain target with
  | zero =>
      -- the walk would have passed more aliases than there are types
      have bound := walk.length_le
      omega
  | succ steps ih =>
      rw [findCycle] at missed
      split at missed
      next stays => exact walk.not_revisits stays
      next next type onward stepped =>
        split at missed
        next => cases missed
        next isNew =>
          refine ih (walk.step stepped (by simpa using isNew)) ?_ missed
          rw [List.length_append, List.length_singleton]
          omega

/-- What a search finds is a cycle that the walk reaches. -/
theorem isAliasCycle_of_findCycle {steps : Nat} {chain cycle : List Nat}
    (walk : Walk types start chain target)
    (found : findCycle types steps chain target = some cycle) :
    IsAliasCycle types cycle ∧ Revisits types start ∧
      ∃ steps, visited types start steps = cycle.head? := by
  induction steps generalizing chain target with
  | zero => cases found
  | succ steps ih =>
      rw [findCycle] at found
      split at found
      next => cases found
      next next type onward stepped =>
        split at found
        next isOld =>
          -- the walk is back at `next`, which it passed after as many steps as there are aliases
          -- before it
          obtain ⟨before, after, parts, dropped⟩ :=
            dropWhile_eq_of_mem (List.contains_iff_mem.mp isOld)
          rw [dropped, Option.some.injEq] at found
          subst found
          have early : visited types start before.length = some next := by
            rw [walk.passed _ (by simp [parts])]
            simp [parts]
          have late := walk.visited_onward stepped
          refine ⟨walk.isAliasCycle stepped parts, ?_, before.length, early⟩
          exact ⟨before.length, chain.length, next, by simp [parts], early, late⟩
        next isNew => exact ih (walk.step stepped (by simpa using isNew)) found

/-- More steps than there are types change nothing: the walk stops before they are used up. -/
theorem findCycle_add_steps {steps : Nat} {chain : List Nat} (walk : Walk types start chain target)
    (enough : types.length < chain.length + steps) (more : Nat) :
    findCycle types (steps + more) chain target = findCycle types steps chain target := by
  induction steps generalizing chain target with
  | zero =>
      have bound := walk.length_le
      omega
  | succ steps ih =>
      rw [Nat.add_right_comm, findCycle, findCycle]
      split
      next => rfl
      next next type onward stepped =>
        split
        next => rfl
        next isNew =>
          refine ih (walk.step stepped (by simpa using isNew)) ?_
          rw [List.length_append, List.length_singleton]
          omega

theorem cycleFrom?_eq (types : List NamedType) (start : Nat) :
    cycleFrom? types start =
      (aliasTarget? types start).bind (findCycle types (types.length + 1) [start]) := by
  unfold cycleFrom? aliasTarget?
  cases types[start]? <;> rfl

theorem cycleFrom?_eq_none_iff : cycleFrom? types start = none ↔ ¬Revisits types start := by
  rw [cycleFrom?_eq]
  cases found : aliasTarget? types start with
  | none =>
      refine iff_of_true rfl ?_
      rintro ⟨early, _, _, _, passed, _⟩
      rw [visited_none_of_le (Nat.zero_le early) (by simp [visited, found])] at passed
      cases passed
  | some target =>
      constructor
      · exact not_revisits_of_findCycle (.begin found) (by simp; omega)
      · intro never
        rw [Option.eq_none_iff_forall_ne_some]
        intro cycle search
        exact never (isAliasCycle_of_findCycle (.begin found) search).2.1

theorem cycleFrom?_eq_some {cycle : List Nat} (search : cycleFrom? types start = some cycle) :
    IsAliasCycle types cycle ∧ Revisits types start ∧
      ∃ steps, visited types start steps = cycle.head? := by
  rw [cycleFrom?_eq] at search
  obtain ⟨target, found, search⟩ := Option.bind_eq_some_iff.mp search
  exact isAliasCycle_of_findCycle (.begin found) search

/-! ## The check -/

/-- The check passes exactly if no walk revisits an alias. -/
theorem checkAliasCycles_eq_ok_iff {starts : List Nat} :
    checkAliasCycles types starts = .ok () ↔ ∀ start ∈ starts, ¬Revisits types start := by
  induction starts with
  | nil => simp [checkAliasCycles]
  | cons start rest ih =>
      rw [checkAliasCycles, List.forall_mem_cons, ← ih, ← cycleFrom?_eq_none_iff]
      cases cycleFrom? types start <;> simp

theorem lt_of_revisits (revisits : Revisits types start) : start < types.length := by
  obtain ⟨early, _, _, _, passed, _⟩ := revisits
  by_contra beyond
  have ended : visited types start 0 = none := by
    simp [visited, aliasTarget?, List.getElem?_eq_none (Nat.le_of_not_lt beyond)]
  rw [visited_none_of_le (Nat.zero_le early) ended] at passed
  cases passed

theorem checkAliasCycles_eq_ok_iff_acyclic {starts : List Nat}
    (all : ∀ start < types.length, start ∈ starts) :
    checkAliasCycles types starts = .ok () ↔ Acyclic types := by
  rw [checkAliasCycles_eq_ok_iff]
  constructor
  · intro never start revisits
    exact never start (all start (lt_of_revisits revisits)) revisits
  · intro acyclic start _
    exact acyclic start

/-- An error that names the first of some types from which aliases lead to a cycle, and lists such a
cycle by the names of its aliases in the document, with the first of them again at the end. -/
def NamesFirstCycle (types : List NamedType) (starts : List Nat) (error : Error) : Prop :=
  ∃ before start after type cycle names,
    starts = before ++ start :: after ∧
    (∀ earlier ∈ before, ¬Revisits types earlier) ∧
    Revisits types start ∧
    types[start]? = some type ∧
    IsAliasCycle types cycle ∧
    (∃ steps, visited types start steps = cycle.head?) ∧
    names.map some = (cycle ++ cycle.take 1).map (fun id => (types[id]?).map (·.sourceName)) ∧
    error = { cause := .aliasCycle names, location := { declaration := some type.sourceName } }

theorem IsAliasCycle.lt {cycle : List Nat} (isCycle : IsAliasCycle types cycle)
    (member : id ∈ cycle) :
    id < types.length := by
  obtain ⟨index, lt, rfl⟩ := List.mem_iff_getElem.mp member
  have followed : index + 1 < (cycle ++ cycle.take 1).length := by
    rw [List.length_append, List.length_take]
    omega
  have stepped := List.isChain_iff_getElem.mp isCycle.closed index followed
  rw [List.getElem_append_left lt] at stepped
  obtain ⟨target, found, _⟩ := nextAlias?_eq_some_iff.mp stepped
  exact lt_of_aliasTarget? found

/-- Types that exist are all listed by name. -/
theorem map_some_sourceNames {ids : List Nat} (present : ∀ id ∈ ids, id < types.length) :
    (sourceNames types ids).map some = ids.map fun id => (types[id]?).map (·.sourceName) := by
  induction ids with
  | nil => rfl
  | cons id rest ih =>
      rw [List.forall_mem_cons] at present
      have found := List.getElem?_eq_getElem present.1
      simpa [sourceNames, found] using ih present.2

/-- What the check says when it fails. -/
theorem namesFirstCycle_of_error {starts : List Nat} {error : Error}
    (failed : checkAliasCycles types starts = .error error) :
    NamesFirstCycle types starts error := by
  induction starts with
  | nil => cases failed
  | cons start rest ih =>
      rw [checkAliasCycles] at failed
      split at failed
      next never =>
        obtain ⟨before, first, after, type, cycle, names, parts, others, remaining⟩ := ih failed
        refine ⟨start :: before, first, after, type, cycle, names, ?_, ?_, remaining⟩
        · rw [parts, List.cons_append]
        · exact List.forall_mem_cons.mpr ⟨cycleFrom?_eq_none_iff.mp never, others⟩
      next cycle search =>
        obtain ⟨isCycle, revisits, reached⟩ := cycleFrom?_eq_some search
        obtain ⟨type, found, _⟩ := Option.bind_eq_some_iff.mp search
        cases failed
        refine ⟨[], start, rest, type, cycle, _, rfl, by simp, revisits, found, isCycle, reached,
          map_some_sourceNames ?_, by rw [found, Option.map_some]⟩
        intro id member
        rcases List.mem_append.mp member with inCycle | isFirst
        · exact isCycle.lt inCycle
        · exact isCycle.lt (List.mem_of_mem_take isFirst)

end SchemaCompiler.Schema
