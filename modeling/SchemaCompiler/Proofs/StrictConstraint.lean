import SchemaCompiler.Proofs.Operation
import SchemaCompiler.Proofs.Retargeting

/-!
# Strict constraints

An entry of a `validate` list with an unknown pattern is dropped with a warning, or is an error if
constraints are strict. So strictness only filters: a document compiles strictly exactly if it
compiles without such a warning otherwise, and to the same graph. The two ways part at the first
unknown pattern and are not related behind it; that the warning cannot get lost later is what lets
the parts of a run be put together (`Filters.bind`).
-/

namespace SchemaCompiler

/-- Warnings about dropped patterns. -/
def LogEntry.isDropped : LogEntry → Bool
  | .droppedPattern _ _ _ => true
  | _ => false

/-- The number of warnings about dropped patterns in a log. -/
def Log.dropped (log : Log) : Nat := log.countP LogEntry.isDropped

namespace Schema

open Document (Node Entries)

namespace Logged

variable {α β : Type}

theorem run_bind_ok {computation : Logged α} {next : α → Logged β} {log between : Log} {value : α}
    (ran : computation.run log = (.ok value, between)) :
    (computation >>= next).run log = (next value).run between := by
  show ExceptT.bindCont next (computation.run log).1 (computation.run log).2 = _
  rw [ran]
  rfl

theorem run_bind_error {computation : Logged α} {next : α → Logged β} {log between : Log}
    {failure : Failure} (ran : computation.run log = (.error failure, between)) :
    (computation >>= next).run log = (.error failure, between) := by
  show ExceptT.bindCont next (computation.run log).1 (computation.run log).2 = _
  rw [ran]
  rfl

/-- A computation with two parts returns if both parts do, the second on the log of the first. -/
theorem run_bind_iff {computation : Logged α} {next : α → Logged β} {log after : Log} {output : β} :
    (computation >>= next).run log = (.ok output, after) ↔
      ∃ value between, computation.run log = (.ok value, between) ∧
        (next value).run between = (.ok output, after) := by
  constructor
  · intro done
    cases ran : computation.run log with
    | mk result between =>
        cases result with
        | error failure =>
            rw [run_bind_error ran] at done
            cases done
        | ok value =>
            rw [run_bind_ok ran] at done
            exact ⟨value, between, rfl, done⟩
  · rintro ⟨value, between, ran, done⟩
    rw [run_bind_ok ran, done]

theorem run_ofExcept_iff {result : Except Failure α} {log after : Log} {value : α} :
    (ofExcept result).run log = (.ok value, after) ↔ result = .ok value ∧ after = log := by
  show (result, log) = _ ↔ _
  rw [Prod.mk.injEq, eq_comm (a := log)]

/-- What each of two parts does to the log, both do together. -/
theorem log_bind (relation : Log → Log → Prop) {computation : Logged α} {next : α → Logged β}
    (trans : ∀ first second third, relation first second → relation second third →
      relation first third) (first : ∀ log, relation log (computation.run log).2)
    (second : ∀ value log, relation log ((next value).run log).2) (log : Log) :
    relation log ((computation >>= next).run log).2 := by
  have early := first log
  cases ran : computation.run log with
  | mk result between =>
      rw [ran] at early
      cases result with
      | error failure =>
          rw [run_bind_error ran]
          exact early
      | ok value =>
          rw [run_bind_ok ran]
          exact trans log between _ early (second value between)

/-- Computations without a warning about a dropped pattern. -/
def Silent (computation : Logged α) : Prop :=
  ∀ log, (computation.run log).2.dropped = Log.dropped log

theorem Silent.bind {computation : Logged α} {next : α → Logged β} (first : computation.Silent)
    (second : ∀ value, (next value).Silent) : (computation >>= next).Silent :=
  log_bind (fun before after => after.dropped = Log.dropped before)
    (fun _ _ _ early late => late.trans early) first second

theorem silent_pure (value : α) : (pure value : Logged α).Silent := fun _ => rfl

theorem silent_ofExcept (result : Except Failure α) : (ofExcept result).Silent := fun _ => rfl

theorem dropped_append (left right : Log) :
    (left ++ right).dropped = Log.dropped left + Log.dropped right :=
  List.countP_append

theorem dropped_eq_zero_iff {log : Log} :
    log.dropped = 0 ↔ ∀ entry ∈ log, entry.isDropped = false := by
  rw [Log.dropped, List.countP_eq_zero]
  simp

theorem silent_note {entry : LogEntry} (other : entry.isDropped = false) : (note entry).Silent := by
  intro log
  show (log ++ [entry]).dropped = _
  rw [dropped_append, Log.dropped, Log.dropped, List.countP_singleton, other]
  rfl

/-- One computation is the other without the runs that have a warning about a dropped pattern. -/
structure Filters (strict lenient : Logged α) : Prop where
  returns : ∀ log value after, strict.run log = (.ok value, after) ↔
    lenient.run log = (.ok value, after) ∧ after.dropped = Log.dropped log
  /-- No warning is taken back. -/
  grows : ∀ log, Log.dropped log ≤ (lenient.run log).2.dropped

theorem Silent.filters {computation : Logged α} (silent : computation.Silent) :
    Filters computation computation where
  returns log value after := by
    refine ⟨fun done => ⟨done, ?_⟩, fun done => done.1⟩
    have same := silent log
    rw [done] at same
    exact same
  grows log := Nat.le_of_eq (silent log).symm

theorem Filters.bind {strict lenient : Logged α} {strictNext lenientNext : α → Logged β}
    (first : Filters strict lenient)
    (second : ∀ value, Filters (strictNext value) (lenientNext value)) :
    Filters (strict >>= strictNext) (lenient >>= lenientNext) where
  returns log output after := by
    rw [run_bind_iff, run_bind_iff]
    constructor
    · rintro ⟨value, between, ran, rest⟩
      obtain ⟨ran, none⟩ := (first.returns log value between).mp ran
      obtain ⟨rest, noneLater⟩ := ((second value).returns between output after).mp rest
      exact ⟨⟨value, between, ran, rest⟩, noneLater.trans none⟩
    · rintro ⟨⟨value, between, ran, rest⟩, none⟩
      -- no warning in both parts together, so none in either
      have early := first.grows log
      have late := (second value).grows between
      rw [ran] at early
      rw [rest] at late
      dsimp only at early late
      refine ⟨value, between, (first.returns log value between).mpr ⟨ran, ?_⟩,
        ((second value).returns between output after).mpr ⟨rest, ?_⟩⟩
      · omega
      · omega
  grows := log_bind (fun before after => Log.dropped before ≤ after.dropped)
    (fun _ _ _ => Nat.le_trans) first.grows fun value => (second value).grows

end Logged

/-! ## Resolving is silent -/

namespace Resolve

variable {α β : Type}

/-- Steps of resolving without a warning about a dropped pattern. -/
def Silent (step : Resolve α) : Prop := ∀ before, (step.run before).Silent

theorem Silent.bind {step : Resolve α} {next : α → Resolve β} (first : step.Silent)
    (second : ∀ value, (next value).Silent) : (step >>= next).Silent :=
  fun before => (first before).bind fun placed => second placed.1 placed.2

theorem silent_pure (value : α) : (pure value : Resolve α).Silent := fun _ => Logged.silent_pure _

theorem silent_get : (get : Resolve Resolution).Silent := fun _ => Logged.silent_pure _

theorem silent_modify (change : Resolution → Resolution) : (modify change : Resolve Unit).Silent :=
  fun _ => Logged.silent_pure _

theorem silent_lift {computation : Logged α} (silent : computation.Silent) :
    (liftM computation : Resolve α).Silent :=
  fun _ => silent.bind fun _ => Logged.silent_pure _

theorem silent_ofExcept (result : Except Failure α) : (ofExcept result).Silent :=
  silent_lift (Logged.silent_ofExcept result)

theorem silent_ofTable (look : SymbolTable → Except Error α) : (ofTable look).Silent :=
  silent_get.bind fun _ => silent_lift (Logged.silent_ofExcept _)

theorem silent_synthesize (baseName declaration path : String) :
    (synthesize baseName declaration path).Silent := by
  refine silent_get.bind fun _ => (silent_lift (Logged.silent_ofExcept _)).bind fun _ => ?_
  exact (silent_modify _).bind fun _ => (silent_lift (Logged.silent_note rfl)).bind fun _ =>
    silent_pure _

end Resolve

section Resolving

open Resolve

mutual

theorem resolveObject_silent (declaration path : String) (owner : Nat) (synthesized : Bool)
    (entries : Entries) :
    (resolveObject declaration path owner synthesized entries).Silent := by
  rw [resolveObject_eq]
  split
  · exact silent_pure ()
  · exact silent_pure ()
  next line properties found =>
    have smaller := Entries.sizeOf_lt_of_get? found
    exact (resolveFields_silent declaration path owner [] properties).bind fun _ => silent_modify _
  · exact silent_ofExcept _
termination_by 2 * sizeOf entries
decreasing_by
  simp only [Node.mapping.sizeOf_spec] at smaller
  omega

theorem resolveFields_silent (declaration path : String) (owner : Nat)
    (seen : List (String × String)) (properties : Entries) :
    (resolveFields declaration path owner seen properties).Silent := by
  match properties with
  | [] =>
      rw [resolveFields]
      exact silent_pure []
  | (name, node) :: rest =>
      rw [resolveFields.eq_def]
      dsimp only
      split
      · exact silent_ofExcept _
      split
      · exact silent_ofExcept _
      split
      next line entries =>
        refine (silent_ofExcept _).bind fun required => ?_
        refine (resolveType_silent declaration (fieldPath path name) name line entries).bind
          fun type => ?_
        have others :=
          resolveFields_silent declaration path owner (seen ++ [(Naming.fieldName name, name)]) rest
        split
        · exact (silent_modify _).bind fun _ => others.bind fun _ => silent_pure _
        · exact others.bind fun _ => silent_pure _
      · exact silent_ofExcept _
termination_by 2 * sizeOf properties

theorem resolveType_silent (declaration path baseName : String) (line : Int) (entries : Entries) :
    (resolveType declaration path baseName line entries).Silent := by
  rw [resolveType]
  split
  · exact (silent_ofExcept _).bind fun _ => silent_ofTable _
  · dsimp only
    split
    · refine (silent_synthesize _ _ _).bind fun id => ?_
      exact (resolveObject_silent declaration path id true entries).bind fun _ => silent_pure _
    split
    · exact resolveArray_silent declaration path _ entries
    split
    · exact silent_pure _
    split
    · exact silent_ofTable _
    split
    · exact silent_ofExcept _
    · exact (silent_ofExcept _).bind fun _ => silent_ofExcept _
termination_by 2 * sizeOf entries + 1

theorem resolveArray_silent (declaration path ownerName : String) (entries : Entries) :
    (resolveArray declaration path ownerName entries).Silent := by
  rw [resolveArray_eq]
  split
  · exact silent_pure _
  · exact silent_pure _
  next line items found =>
    have smaller := Entries.sizeOf_lt_of_get? found
    exact (resolveType_silent declaration _ _ line items).bind fun _ => silent_pure _
  · exact silent_ofExcept _
termination_by 2 * sizeOf entries
decreasing_by
  simp only [Node.mapping.sizeOf_spec] at smaller
  omega

end

theorem resolveDeclaration_silent (name : String) (node : Node) :
    (resolveDeclaration name node).Silent := by
  refine silent_get.bind fun before => ?_
  dsimp only
  split
  · split
    · exact resolveObject_silent _ _ _ _ _
    · exact (silent_ofExcept _).bind fun _ => silent_modify _
    · exact (resolveArray_silent _ _ _ _).bind fun _ => silent_modify _
    · exact silent_pure ()
  · exact silent_pure ()

theorem resolveDeclarations_silent (entries : Entries) : (resolveDeclarations entries).Silent := by
  induction entries with
  | nil => exact silent_pure ()
  | cons entry rest ih => exact (resolveDeclaration_silent entry.1 entry.2).bind fun _ => ih

end Resolving

open Logged

theorem analyze_silent (document : String) (entries : Entries) :
    (analyze document entries).Silent := by
  have collecting : (collect entries).Silent := by
    refine (silent_ofExcept _).bind fun table => (silent_note rfl).bind fun _ => ?_
    exact (silent_ofExcept _).bind fun _ => (silent_ofExcept _).bind fun _ => silent_pure _
  refine collecting.bind fun table => (resolveDeclarations_silent entries { table }).bind
    fun resolved => ?_
  refine (silent_ofExcept _).bind fun _ => (silent_ofExcept _).bind fun _ => ?_
  exact (silent_note rfl).bind fun _ => silent_pure _

/-! ## Strict and lenient rules -/

section Rules

variable (rules : ConstraintRules) (path : PropertyPath)

/-- The rules under which unknown patterns are errors, or are not. -/
def ConstraintRules.withStrict (strict : Bool) : ConstraintRules := { rules with strict }

theorem compileEntry_filters (entry : Node) :
    Filters (compileEntry (rules.withStrict true) path entry)
      (compileEntry (rules.withStrict false) path entry) := by
  cases entry with
  | absent | scalar | sequence => exact (silent_ofExcept _).filters
  | mapping line entries =>
      rw [compileEntry, compileEntry]
      split
      · -- what a known pattern asks for has nothing to do with strictness
        next predicate =>
        have same : compilePredicate (rules.withStrict true) =
          compilePredicate (rules.withStrict false) := rfl
        rw [same]
        exact ((silent_ofExcept _).bind fun _ => silent_pure _).filters
      · refine (silent_ofExcept _).filters.bind fun shown =>
          ⟨fun log value after => iff_of_false ?_ ?_, fun log => ?_⟩
        · intro done
          cases done
        · rintro ⟨done, none⟩
          cases done
          rw [dropped_append] at none
          exact absurd none (by simp [Log.dropped, LogEntry.isDropped])
        · show Log.dropped log ≤ (log ++ _).dropped
          rw [dropped_append]
          exact Nat.le_add_right _ _

theorem compileEntries_filters (entries : List Node) :
    Filters (compileEntries (rules.withStrict true) path entries)
      (compileEntries (rules.withStrict false) path entries) := by
  induction entries with
  | nil => exact (silent_pure _).filters
  | cons entry rest ih =>
      exact (compileEntry_filters rules path entry).bind fun _ => ih.bind fun _ =>
        (silent_pure _).filters

theorem compileConstraints_filters (node : Option Node) :
    Filters (compileConstraints (rules.withStrict true) path node)
      (compileConstraints (rules.withStrict false) path node) := by
  unfold compileConstraints
  split
  · exact (silent_pure _).filters
  · exact (silent_pure _).filters
  · exact compileEntries_filters rules path _
  · exact (silent_ofExcept _).filters

theorem attachAll_filters (graph : TypeGraph) (pending : List Pending) :
    Filters (attachAll (rules.withStrict true) graph pending)
      (attachAll (rules.withStrict false) graph pending) := by
  have attached : Filters (attach (rules.withStrict true) graph pending)
      (attach (rules.withStrict false) graph pending) := by
    induction pending generalizing graph with
    | nil => exact (silent_pure _).filters
    | cons one rest ih => exact (compileConstraints_filters rules one.path _).bind fun _ => ih _
  exact attached.bind fun _ => ((silent_note rfl).bind fun _ => silent_pure _).filters

end Rules

/-! ## Lenient lists -/

/-- Entries with a pattern that no predicate has. -/
def hasUnknownPattern : Node → Bool
  | .mapping _ entries => (entryPredicate? entries).isNone
  | _ => false

section Lenient

variable {rules : ConstraintRules} {path : PropertyPath}

/-- An entry is compiled to a directive, and nothing is recorded. -/
def CompilesTo (rules : ConstraintRules) (path : PropertyPath) (entry : Node)
    (directive : Directive) : Prop :=
  ∀ log, (compileEntry rules path entry).run log = (.ok (some directive), log)

/-- A warning tells that an entry was dropped. -/
def WarnsOf (path : PropertyPath) (entry : Node) (warning : LogEntry) : Prop :=
  ∃ line entries shown, entry = .mapping line entries ∧
    showScalar (Entries.scalar entries "pattern") = .ok shown ∧
    warning = .droppedPattern shown path.declaration path.field

/-- A list of entries gives a directive for each entry with a known pattern and a warning for each
other entry, both in the order of the entries. -/
structure Sifted (rules : ConstraintRules) (path : PropertyPath) (entries : List Node)
    (directives : List Directive) (warnings : Log) : Prop where
  compiled : List.Forall₂ (CompilesTo rules path) (entries.filter (!hasUnknownPattern ·)) directives
  warned : List.Forall₂ (WarnsOf path) (entries.filter hasUnknownPattern) warnings

/-- Every entry makes a directive or a warning. -/
theorem Sifted.length {entries : List Node} {directives : List Directive} {warnings : Log}
    (sifted : Sifted rules path entries directives warnings) :
    directives.length + warnings.length = entries.length := by
  rw [← sifted.compiled.length_eq, ← sifted.warned.length_eq, Nat.add_comm]
  exact (List.length_eq_length_filter_add hasUnknownPattern).symm

theorem compileEntry_sifted (lenient : rules.strict = false) {entry : Node} {log after : Log}
    {result : Option Directive}
    (done : (compileEntry rules path entry).run log = (.ok result, after)) :
    ∃ warnings, after = log ++ warnings ∧ Sifted rules path [entry] result.toList warnings := by
  cases entry with
  | absent | scalar | sequence =>
      rw [compileEntry] at done
      · exact absurd (run_ofExcept_iff.mp done).1 failAt_ne_ok
      · simp
  | mapping line entries =>
      rw [compileEntry] at done
      cases pattern : entryPredicate? entries with
      | some predicate =>
          have known : hasUnknownPattern (.mapping line entries) = false := by
            rw [hasUnknownPattern, pattern]
            rfl
          rw [pattern] at done
          obtain ⟨directive, between, first, done⟩ := run_bind_iff.mp done
          cases done
          obtain ⟨compiled, rfl⟩ := run_ofExcept_iff.mp first
          refine ⟨[], (List.append_nil _).symm, ?_, ?_⟩
          · rw [List.filter_cons_of_pos (by rw [known]; rfl)]
            refine .cons (fun log => ?_) .nil
            rw [compileEntry, pattern]
            exact run_bind_iff.mpr ⟨directive, log, run_ofExcept_iff.mpr ⟨compiled, rfl⟩, rfl⟩
          · rw [List.filter_cons_of_neg (by rw [known]; decide)]
            exact .nil
      | none =>
          have unknown : hasUnknownPattern (.mapping line entries) = true := by
            rw [hasUnknownPattern, pattern]
            rfl
          rw [pattern] at done
          obtain ⟨shown, between, first, rest⟩ := run_bind_iff.mp done
          obtain ⟨isShown, rfl⟩ := run_ofExcept_iff.mp first
          rw [if_neg (by rw [lenient]; decide)] at rest
          obtain ⟨_, _, noted, returned⟩ := run_bind_iff.mp rest
          cases noted
          cases returned
          refine ⟨_, rfl, ?_, ?_⟩
          · rw [List.filter_cons_of_neg (by rw [unknown]; decide)]
            exact .nil
          · rw [List.filter_cons_of_pos unknown]
            exact .cons ⟨line, entries, shown, rfl, isShown, rfl⟩ .nil

theorem compileEntries_sifted (lenient : rules.strict = false) {entries : List Node}
    {log after : Log} {directives : List Directive}
    (done : (compileEntries rules path entries).run log = (.ok directives, after)) :
    ∃ warnings, after = log ++ warnings ∧ Sifted rules path entries directives warnings := by
  induction entries generalizing log directives with
  | nil =>
      cases done
      exact ⟨[], (List.append_nil _).symm, .nil, .nil⟩
  | cons entry rest ih =>
      obtain ⟨directive, between, first, done⟩ := run_bind_iff.mp done
      obtain ⟨others, after, second, done⟩ := run_bind_iff.mp done
      cases done
      obtain ⟨warnings, rfl, here⟩ := compileEntry_sifted lenient first
      obtain ⟨moreWarnings, rfl, there⟩ := ih second
      refine ⟨warnings ++ moreWarnings, List.append_assoc .., ?_, ?_⟩
      · rw [← List.singleton_append, List.filter_append]
        exact List.rel_append here.compiled there.compiled
      · rw [← List.singleton_append, List.filter_append]
        exact List.rel_append here.warned there.warned

/-- Entries that are compiled to directives one by one are compiled to them together. -/
theorem run_compileEntries {entries : List Node} {directives : List Directive}
    (each : List.Forall₂ (CompilesTo rules path) entries directives) (log : Log) :
    (compileEntries rules path entries).run log = (.ok directives, log) := by
  induction each with
  | nil => rfl
  | cons first _ ih =>
      exact run_bind_iff.mpr ⟨_, log, first log, run_bind_iff.mpr ⟨_, log, ih, rfl⟩⟩

end Lenient

end Schema

/-! ## Documents -/

/-- The same settings, with constraints strict or not. -/
def Settings.withStrict (settings : Settings) (value : Data.Value) : Settings :=
  { settings with strictConstraints := value }

namespace Compiler

open Schema Schema.Logged

/-- The same compiler, with constraints strict or not. -/
def withStrict (compiler : Compiler) (value : Data.Value) : Compiler :=
  { compiler with settings := compiler.settings.withStrict value }

/-- Naming the document in a failure changes neither a value nor the log. -/
theorem run_within {α : Type} (document : String) (computation : Logged α) (log : Log) :
    (within document computation).run log =
      ((computation.run log).1.mapError (·.within document), (computation.run log).2) := by
  cases ran : computation.run log with
  | mk result after =>
      cases result with
      | ok value => exact Ends.run_tryCatch_ok ran
      | error failure => exact Ends.run_tryCatch_error ran

theorem filters_within {α : Type} {strict lenient : Logged α} (filters : Filters strict lenient)
    (document : String) :
    Filters (within document strict) (within document lenient) := by
  have returns (computation : Logged α) (log : Log) (value : α) (after : Log) :
      (within document computation).run log = (.ok value, after) ↔
      computation.run log = (.ok value, after) := by
    rw [run_within, Prod.mk.injEq, mapError_eq_ok_iff, Prod.ext_iff]
  refine ⟨fun log value after => ?_, fun log => ?_⟩
  · rw [returns, returns]
    exact filters.returns log value after
  · rw [run_within]
    exact filters.grows log

/-- Compiling strictly is compiling leniently without the runs that drop a pattern. -/
theorem compile_filters (compiler : Compiler) {on off : Data.Value} (isOn : on.isTrue = true)
    (isOff : off.isTrue = false) (name : String) (root : Option Document.Node) :
    Filters ((compiler.withStrict on).compile name root)
      ((compiler.withStrict off).compile name root) := by
  refine filters_within ?_ name
  refine (silent_ofExcept _).filters.bind fun found =>
    (analyze_silent name found.2).filters.bind fun analysed => ?_
  show Filters
    (attachAll ((compiler.settings.constraintRules compiler.language).withStrict on.isTrue) _ _)
    (attachAll ((compiler.settings.constraintRules compiler.language).withStrict off.isTrue) _ _)
  rw [isOn, isOff]
  exact attachAll_filters _ analysed.1 analysed.2

/-- Strictness only filters. A document compiles strictly to a graph exactly if it does so leniently
and no pattern is dropped with a warning. And lenient rules make a directive or a warning from every
entry of a list that compiles, both in the order of the entries: as many as there are entries, and
the same directives as for the entries with known patterns alone. -/
theorem strict_only_filters (compiler : Compiler) {on off : Data.Value} (isOn : on.isTrue = true)
    (isOff : off.isTrue = false) (name : String) (root : Option Document.Node) :
    (∀ graph, ((compiler.withStrict on).compile name root).outcome.1 = .ok graph ↔
      ((compiler.withStrict off).compile name root).outcome.1 = .ok graph ∧
        ∀ entry ∈ ((compiler.withStrict off).compile name root).outcome.2,
          entry.isDropped = false) ∧
    ∀ (rules : ConstraintRules) path line entries directives warnings,
      (compileConstraints (rules.withStrict false) path (some (.sequence line entries))).outcome =
        (.ok directives, warnings) →
      Sifted (rules.withStrict false) path entries directives warnings ∧
        directives.length + warnings.length = entries.length ∧
        (compileConstraints (rules.withStrict false) path
          (some (.sequence line (entries.filter (!hasUnknownPattern ·))))).outcome =
            (.ok directives, []) := by
  constructor
  · intro graph
    have filters := (compile_filters compiler isOn isOff name root).returns [] graph
    constructor
    · intro done
      obtain ⟨ran, none⟩ := (filters _).mp (Prod.ext done rfl)
      have ran : ((compiler.withStrict off).compile name root).outcome = _ := ran
      rw [ran]
      exact ⟨rfl, dropped_eq_zero_iff.mp none⟩
    · rintro ⟨done, none⟩
      exact congrArg Prod.fst ((filters _).mpr ⟨Prod.ext done rfl, dropped_eq_zero_iff.mpr none⟩)
  · intro rules path line entries directives warnings done
    obtain ⟨found, rfl, sifted⟩ := compileEntries_sifted rfl done
    exact ⟨sifted, sifted.length, run_compileEntries sifted.compiled []⟩

/-- A constraint with the argument of a length. -/
def lengthOne (pattern : String) : Document.Node :=
  .mapping 4 [("pattern", .scalar 4 (.text pattern)), ("value", .scalar 4 (.int 1))]

/-- A document with a property that has constraints with some patterns. -/
def withPatterns (patterns : List String) : Document.Node :=
  .mapping 1 [("D", .mapping 1 [
    ("part", .mapping 2 [("type", .scalar 2 (.text "object")), ("properties", .mapping 3 [
      ("code", .mapping 3 [("type", .scalar 3 (.text "string")),
        ("validate", .sequence 4 (patterns.map lengthOne))])])])])]

/-- Of three constraints the one with a misspelt pattern is dropped. Without it the document
compiles strictly. -/
theorem misspelt_pattern_filtered :
    (∃ graph, (((forLanguage oneKey "" .python).withStrict (.bool true)).compile "a.yaml"
      (some (withPatterns ["minLength", "maxLength"]))).outcome.1 = .ok graph) ∧
    (∀ graph, (((forLanguage oneKey "" .python).withStrict (.bool true)).compile "a.yaml"
      (some (withPatterns ["minLength", "minLegnth", "maxLength"]))).outcome.1 ≠ .ok graph) ∧
    ∃ directives warnings,
        (compileConstraints { strict := false } { declaration := "part", field := "code" }
        (some (.sequence 4 (["minLength", "minLegnth", "maxLength"].map lengthOne)))).outcome =
        (.ok directives, warnings) ∧ directives.length = 2 ∧
        directives.length + warnings.length = 3 := by
  have filters := strict_only_filters (forLanguage oneKey "" .python)
    (show (Data.Value.bool true).isTrue = true from rfl)
    (show (Data.Value.bool false).isTrue = false from rfl) "a.yaml"
  refine ⟨?_, ?_, ?_⟩
  · have lenient : (((forLanguage oneKey "" .python).withStrict (.bool false)).compile "a.yaml"
        (some (withPatterns ["minLength", "maxLength"]))).outcome.1.toOption.isSome := by
          decide +kernel
    have quiet : (((forLanguage oneKey "" .python).withStrict (.bool false)).compile "a.yaml"
        (some (withPatterns ["minLength", "maxLength"]))).outcome.2.all
          (!·.isDropped) := by decide +kernel
    obtain ⟨graph, found⟩ := Option.isSome_iff_exists.mp lenient
    refine ⟨graph, ((filters _).1 graph).mpr ⟨eq_ok_of_toOption found, fun entry member => ?_⟩⟩
    simpa using List.all_eq_true.mp quiet entry member
  · have warns : (((forLanguage oneKey "" .python).withStrict (.bool false)).compile "a.yaml"
        (some (withPatterns ["minLength", "minLegnth", "maxLength"]))).outcome.2.any
          (·.isDropped) := by decide +kernel
    intro graph strict
    obtain ⟨entry, member, isDropped⟩ := List.any_eq_true.mp warns
    rw [(((filters _).1 graph).mp strict).2 entry member] at isDropped
    cases isDropped
  · have counted :
        ((compileConstraints { strict := false } { declaration := "part", field := "code" }
          (some (.sequence 4
            (["minLength", "minLegnth", "maxLength"].map lengthOne)))).outcome.1.toOption.map
          List.length) = some 2 := by decide +kernel
    obtain ⟨directives, found, two⟩ := Option.map_eq_some_iff.mp counted
    obtain ⟨warnings, done⟩ := Ends.exists_run_eq found
    obtain ⟨_, all, _⟩ := (filters none).2 {} _ _ _ directives warnings done
    exact ⟨directives, warnings, done, two, all⟩

end Compiler

end SchemaCompiler
