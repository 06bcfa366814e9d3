import SchemaCompiler.Proofs.Analysis

/-!
# Aliases come to an end

In a closed graph whose aliases lead to no cycle, whatever a type uses ends: through arrays and
aliases it leads in finitely many steps to a scalar, to anything, to an object or to an enumeration.
Objects end a walk, so what their fields use has no part in the check: it depends on the aliases and
on the names of the types only (`checkAliasCycles_congr`).
-/

namespace SchemaCompiler.Schema

open Document (Entries)

/-- Types that lead through arrays and aliases, in finitely many steps, to a scalar, to anything, to
an object or to an enumeration. -/
inductive Grounded (types : List NamedType) : TypeExpr → Prop where
  | scalar (kind : ScalarKind) : Grounded types (.scalar kind)
  | any : Grounded types .any
  | array {items : TypeExpr} : Grounded types items → Grounded types (.array items)
  | object {id : Nat} {type : NamedType} {synthesized : Bool} {fields : List Field} :
      types[id]? = some type → type.body = .object synthesized fields → Grounded types (.named id)
  | enumeration {id : Nat} {type : NamedType} {values : List String} :
      types[id]? = some type → type.body = .enumeration values → Grounded types (.named id)
  | aliasOf {id : Nat} {type : NamedType} {target : TypeExpr} :
      types[id]? = some type → type.body = .aliasOf target → Grounded types target →
        Grounded types (.named id)

variable {types : List NamedType}

/-! ## Walks that end -/

/-- A walk goes on from the first alias it leads to. -/
theorem visited_succ (start steps : Nat) :
    visited types start (steps + 1) =
      (nextAlias? types start).bind fun next => visited types next steps := by
  induction steps with
  | zero =>
      cases stepped : nextAlias? types start with
      | none => simp [visited, stepped]
      | some next =>
          obtain ⟨target, found, _, nextIsAlias⟩ := nextAlias?_eq_some_iff.mp stepped
          simp [visited, found, stepped, nextIsAlias]
  | succ steps ih => rw [visited, ih, Option.bind_assoc]; rfl

/-- Without a cycle, the walk from every type ends. -/
theorem Acyclic.visited_eq_none (acyclic : Acyclic types) (start : Nat) :
    ∃ steps, visited types start steps = none := by
  obtain ⟨steps, _, ended | ⟨early, lt, same⟩⟩ := visited_ends types start
  · exact ⟨steps, ended⟩
  · cases passed : visited types start steps with
    | none => exact ⟨steps, passed⟩
    | some id => exact absurd ⟨early, steps, id, lt, same.trans passed, passed⟩ (acyclic start)

/-- A closed type is grounded if the named type it ends in is. -/
theorem grounded_of_leaf {type : TypeExpr} {count : Nat} (closed : type.Closed count)
    (leaf : ∀ id, type.leafId? = some id → Grounded types (.named id)) : Grounded types type := by
  induction type with
  | scalar kind => exact .scalar kind
  | any => exact .any
  | array items ih => exact .array (ih closed leaf)
  | named id => exact leaf id rfl
  | unresolved name pointer => cases closed
  | missing => cases closed

theorem TypeExpr.Closed.leafId?_lt {type : TypeExpr} {count id : Nat} (closed : type.Closed count)
    (leaf : type.leafId? = some id) : id < count := by
  induction type with
  | scalar kind => cases leaf
  | any => cases leaf
  | array items ih => exact ih closed leaf
  | named other =>
      obtain rfl : other = id := Option.some.inj leaf
      exact closed
  | unresolved name pointer => cases leaf
  | missing => cases leaf

theorem grounded_of_not_alias {id : Nat} (present : id < types.length)
    (notAlias : aliasTarget? types id = none) : Grounded types (.named id) := by
  have here : types[id]? = some types[id] := List.getElem?_eq_getElem present
  cases isBody : types[id].body with
  | object synthesized fields => exact .object here isBody
  | enumeration values => exact .enumeration here isBody
  | aliasOf target => simp [aliasTarget?, here, NamedType.target?, isBody] at notAlias

/-- The type with a number is grounded if the walk from it ends. -/
theorem grounded_of_visited_eq_none (closed : ClosedTypes types.length types) {steps id : Nat}
    (present : id < types.length) (ended : visited types id steps = none) :
    Grounded types (.named id) := by
  induction steps generalizing id with
  | zero =>
      refine grounded_of_not_alias present ?_
      simpa [visited] using ended
  | succ steps ih =>
      have here : types[id]? = some types[id] := List.getElem?_eq_getElem present
      cases isBody : types[id].body with
      | object synthesized fields => exact .object here isBody
      | enumeration values => exact .enumeration here isBody
      | aliasOf target =>
          have found : aliasTarget? types id = some target := by
            simp [aliasTarget?, here, NamedType.target?, isBody]
          have targetClosed : target.Closed types.length :=
            closed.closed types[id] (List.getElem_mem present) (none, target)
              (by simp [NamedType.uses, isBody])
          refine .aliasOf here isBody (grounded_of_leaf targetClosed ?_)
          intro next leaf
          -- the walk goes on from `next` only if that is an alias
          cases nextFound : aliasTarget? types next with
          | none => exact grounded_of_not_alias (targetClosed.leafId?_lt leaf) nextFound
          | some onward =>
              have stepped : nextAlias? types id = some next :=
                nextAlias?_eq_some_iff.mpr ⟨target, found, leaf, by rw [nextFound]; rfl⟩
              rw [visited_succ, stepped] at ended
              exact ih (targetClosed.leafId?_lt leaf) ended

/-- Whatever a type of a closed graph without cycles uses is grounded. -/
theorem grounded_of_closed (closed : ClosedTypes types.length types) (acyclic : Acyclic types)
    {type : TypeExpr} (isClosed : type.Closed types.length) : Grounded types type := by
  refine grounded_of_leaf isClosed fun id leaf => ?_
  obtain ⟨steps, ended⟩ := acyclic.visited_eq_none id
  exact grounded_of_visited_eq_none closed (isClosed.leafId?_lt leaf) ended

/-! ## What the check looks at -/

/-- A step of the search in terms of the targets of aliases. -/
theorem findCycle_succ (steps : Nat) (chain : List Nat) (target : TypeExpr) :
    findCycle types (steps + 1) chain target =
      (target.leafId?.bind fun id => (aliasTarget? types id).map (id, ·)).bind fun (id, next) =>
        if chain.contains id then some (chain.dropWhile (· != id))
        else findCycle types steps (chain ++ [id]) next := by
  rw [findCycle]
  unfold aliasStep? aliasTarget?
  cases target.leafId? with
  | none => rfl
  | some id =>
      simp only [Option.bind_eq_bind, Option.bind_some]
      cases types[id]? with
      | none => rfl
      | some type =>
          simp only [Option.bind_some]
          cases type.target? <;> rfl

theorem findCycle_congr {left right : List NamedType}
    (targets : ∀ id, aliasTarget? left id = aliasTarget? right id) (steps : Nat) (chain : List Nat)
    (target : TypeExpr) :
    findCycle left steps chain target = findCycle right steps chain target := by
  induction steps generalizing chain target with
  | zero => rfl
  | succ steps ih => simp only [findCycle_succ, targets, ih]

/-- The check depends on the names of the types in the document and on the targets of aliases
only. -/
theorem checkAliasCycles_congr {left right : List NamedType}
    (same : left.map (fun type => (type.sourceName, type.target?)) =
      right.map fun type => (type.sourceName, type.target?)) (starts : List Nat) :
    checkAliasCycles left starts = checkAliasCycles right starts := by
  have pairs (id : Nat) : (left[id]?).map (fun type => (type.sourceName, type.target?)) =
      (right[id]?).map fun type => (type.sourceName, type.target?) := by
    rw [← List.getElem?_map, ← List.getElem?_map, same]
  have names (id : Nat) : (left[id]?).map (·.sourceName) = (right[id]?).map (·.sourceName) := by
    simpa [Function.comp_def] using congrArg (Option.map Prod.fst) (pairs id)
  have targets (id : Nat) : aliasTarget? left id = aliasTarget? right id := by
    have seconds := congrArg (fun pair => pair.bind Prod.snd) (pairs id)
    simpa [aliasTarget?, Option.bind_map, Function.comp_def] using seconds
  have length : left.length = right.length := by
    simpa using congrArg List.length same
  have listed (ids : List Nat) : sourceNames left ids = sourceNames right ids := by
    simp only [sourceNames, names]
  -- the bound on the steps of a search is the number of types, which is the same as well
  induction starts with
  | nil => rfl
  | cons start rest ih =>
      have searched : cycleFrom? left start = cycleFrom? right start := by
        rw [cycleFrom?_eq, cycleFrom?_eq, targets, length]
        congr 1
        funext target
        exact findCycle_congr targets _ _ target
      simp only [checkAliasCycles, searched, ih, listed, names]

/-! ## The check is exact -/

/-- The check for cycles of aliases ends, fails exactly if the walk from one of the types it looks
at revisits an alias, and then names the first such type and a cycle that the walk reaches. So in
every graph that analysing a section gives, aliases come to an end. A section that can be read is
rejected for nothing else: cycles through the fields of objects are no cycles of aliases, and what
objects hold does not matter to the check. -/
theorem aliasCycle_check_exact :
    (∀ types start, ∃ steps ≤ types.length, visited types start steps = none ∨
      ∃ early < steps, visited types start early = visited types start steps) ∧
    (∀ types start target, aliasTarget? types start = some target → ∀ more,
      findCycle types (types.length + 1 + more) [start] target =
        findCycle types (types.length + 1) [start] target) ∧
    (∀ types starts, (∃ error, checkAliasCycles types starts = .error error) ↔
      ∃ start ∈ starts, Revisits types start) ∧
    (∀ types starts error, checkAliasCycles types starts = .error error →
      NamesFirstCycle types starts error) ∧
    (∀ document entries graph pending, (analyze document entries).outcome.1 = .ok (graph, pending) →
      ∀ type ∈ graph.types, ∀ use ∈ type.uses, Grounded graph.types use.2) ∧
    (∀ document entries shapes, ReadsAs entries shapes →
      ((∃ graph pending, (analyze document entries).outcome.1 = .ok (graph, pending)) ↔
        ∀ start, ¬Revisits (assemble shapes).types start)) ∧
    ∀ left right starts, left.map (fun type => (type.sourceName, type.target?)) =
        right.map (fun type => (type.sourceName, type.target?)) →
      checkAliasCycles left starts = checkAliasCycles right starts := by
  refine ⟨visited_ends, ?_, ?_, ?_, ?_, ?_, ?_⟩
  · intro types start target found more
    exact findCycle_add_steps (.begin found) (by simp; omega) more
  · intro types starts
    constructor
    · rintro ⟨error, failed⟩
      obtain ⟨before, start, after, _, _, _, parts, _, revisits, _⟩ :=
        namesFirstCycle_of_error failed
      exact ⟨start, by simp [parts], revisits⟩
    · rintro ⟨start, member, revisits⟩
      cases checked : checkAliasCycles types starts with
      | error error => exact ⟨error, rfl⟩
      | ok => exact absurd revisits (checkAliasCycles_eq_ok_iff.mp checked start member)
  · intro types starts error
    exact namesFirstCycle_of_error
  · intro document entries graph pending returns type member use isUse
    obtain ⟨shapes, reads, acyclic, rfl, _⟩ := analyze_eq_ok_iff.mp returns
    have closed := reads.closed document
    exact grounded_of_closed closed acyclic (ClosedTypes.closed closed type member use isUse)
  · intro document entries shapes reads
    constructor
    · rintro ⟨graph, pending, returns⟩
      obtain ⟨others, othersRead, acyclic, _⟩ := analyze_eq_ok_iff.mp returns
      obtain rfl : others = shapes := by
        have same := othersRead.reads.symm.trans reads.reads
        exact Except.ok.inj same
      exact acyclic
    · intro acyclic
      exact ⟨_, _, analyze_eq_ok_iff.mpr ⟨shapes, reads, acyclic, rfl, rfl⟩⟩
  · intro left right starts same
    exact checkAliasCycles_congr same starts

/-- An alias that leads into a cycle it is not part of, through arrays, and an object that holds
itself. -/
def tailedCycle : List NamedType :=
  [{ name := "O", sourceName := "o",
     body := .object false [{ name := "o", sourceName := "o", type := .named 0 }] },
   { name := "A", sourceName := "a", body := .aliasOf (.array (.named 2)) },
   { name := "B", sourceName := "b", body := .aliasOf (.named 3) },
   { name := "C", sourceName := "c", body := .aliasOf (.array (.array (.named 2))) }]

/-- Two declarations that lead to each other, through an array of the one and a field of the
other. -/
def mutualSection : Entries :=
  [("people", .mapping 1 [("type", .scalar 1 (.text "array")),
      ("items", .mapping 1 [("$ref", .scalar 1 (.text "#/person"))])]),
   ("person", .mapping 2 [("type", .scalar 2 (.text "object")), ("properties", .mapping 3 [
      ("friends", .mapping 3 [("type", .scalar 3 (.text "people"))])])])]

theorem tailedCycle_rejected_mutualSection_accepted :
    checkAliasCycles tailedCycle [0, 1, 2, 3] =
      .error { cause := .aliasCycle ["b", "c", "b"], location := { declaration := some "a" } } ∧
    NamesFirstCycle tailedCycle [0, 1, 2, 3]
      { cause := .aliasCycle ["b", "c", "b"], location := { declaration := some "a" } } ∧
    ∃ graph pending, (analyze "" mutualSection).outcome.1 = .ok (graph, pending) ∧
      graph.types.map (·.uses) = [[(none, .array (.named 1))], [(some "friends", .named 0)]] ∧
      ∀ type ∈ graph.types, ∀ use ∈ type.uses, Grounded graph.types use.2 := by
  have rejected : checkAliasCycles tailedCycle [0, 1, 2, 3] =
      .error { cause := .aliasCycle ["b", "c", "b"], location := { declaration := some "a" } } := by
    rfl
  have accepted : ((analyze "" mutualSection).outcome.1.toOption.map fun result =>
      result.1.types.map (·.uses)) =
        some [[(none, .array (.named 1))], [(some "friends", .named 0)]] := by
    decide +kernel
  obtain ⟨⟨graph, pending⟩, analyzed, uses⟩ := Option.map_eq_some_iff.mp accepted
  have isAnalyzed := eq_ok_of_toOption analyzed
  exact ⟨rejected, aliasCycle_check_exact.2.2.2.1 _ _ _ rejected, graph, pending, isAnalyzed, uses,
    aliasCycle_check_exact.2.2.2.2.1 _ _ _ _ isAnalyzed⟩

end SchemaCompiler.Schema
