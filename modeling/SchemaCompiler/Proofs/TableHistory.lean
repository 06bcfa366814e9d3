import SchemaCompiler.Proofs.SymbolTable

/-!
# The history of a symbol table

A table is filled by calls that declare or register a type, and some of them fail. What a call does
is said once (`Call.run_change`): if its names are free it adds its type at the end, and otherwise
it fails before it has entered anything. So the table is at any time what the accepted calls say, in
their order (`Recorded`): one accepted call keeps this, and a failed one leaves the table that it
found.
-/

namespace SchemaCompiler.Schema.SymbolTable

/-- A table, with the calls that were accepted. -/
structure History where
  table : SymbolTable := {}
  accepted : List Call := []

/-- A call later: the table is what the call has left behind, whether it returned or failed. -/
def History.after (history : History) (call : Call) : History :=
  let run := call.change.run.run history.table
  { table := run.2
    accepted := if run.1.toOption.isSome then history.accepted ++ [call] else history.accepted }

/-- The history of a fresh table. -/
def run (calls : List Call) : History := calls.foldl History.after {}

/-! ## One call -/

@[simp] theorem names_extend (call : Call) (table : SymbolTable) :
    (call.extend table).names = table.names ++ [call.type.name] := by
  simp [names, Call.extend]

@[simp] theorem declaredNames_extend (call : Call) (table : SymbolTable) :
    (call.extend table).declaredNames = table.declaredNames ++ call.sourceName?.toList := by
  cases call <;> simp [declaredNames, Call.extend, Call.sourceName?]

/-- A declared type is found by both of its names. -/
def Stores (table : SymbolTable) (sourceName : String) (type : NamedType) : Prop :=
  table.named? type.name = some type ∧
  ∃ id, table.lookup sourceName = some id ∧ table.types[id]? = some type

/-- What is found in a table is found in the table with one more type. -/
theorem Stores.extend {table : SymbolTable} {sourceName : String} {type : NamedType}
    (stores : table.Stores sourceName type) (call : Call) :
    (call.extend table).Stores sourceName type := by
  obtain ⟨byName, id, bySource, isType⟩ := stores
  unfold named? at byName
  unfold lookup at bySource
  refine ⟨?_, id, ?_, ?_⟩
  · rw [named?, Call.extend, List.find?_append, byName, Option.some_or]
  · rw [lookup, Call.extend, List.lookup_append, bySource, Option.some_or]
  · exact (List.getElem?_append_left (List.getElem?_eq_some_iff.mp isType).1).trans isType

theorem stores_extend {table : SymbolTable} {sourceName : String} {type : NamedType}
    {line : Option Int} (fits : (Call.declare sourceName type line).Fits table) :
    ((Call.declare sourceName type line).extend table).Stores sourceName type := by
  have unnamed : table.named? type.name = none :=
    Option.isNone_iff_eq_none.mp (isFree_iff.mpr fits.1)
  have undeclared : table.lookup sourceName = none := by
    simpa [knows] using mt knows_iff.mp (fits.2 sourceName rfl)
  unfold named? at unnamed
  unfold lookup at undeclared
  refine ⟨?_, table.types.length, ?_, ?_⟩
  · simp [named?, Call.extend, Call.type, List.find?_append, unnamed]
  · simp [lookup, Call.extend, Call.sourceName?, List.lookup_append, undeclared]
  · simp [Call.extend, Call.type]

/-- The table is what the accepted calls say: it lists the types and the names in the order of the
calls, no name twice, and stores each declared type. -/
structure Recorded (history : History) : Prop where
  types : history.table.types = history.accepted.map Call.type
  declaredNames : history.table.declaredNames = history.accepted.filterMap Call.sourceName?
  names_distinct : history.table.names.Nodup
  declared_distinct : history.table.declaredNames.Nodup
  stored : ∀ sourceName type line, .declare sourceName type line ∈ history.accepted →
    history.table.Stores sourceName type

theorem Recorded.extend {history : History} (recorded : Recorded history) {call : Call}
    (fits : call.Fits history.table) :
    Recorded { table := call.extend history.table, accepted := history.accepted ++ [call] } where
  types := by simp [Call.extend, recorded.types]
  declaredNames := by cases call <;> simp [Call.sourceName?, recorded.declaredNames]
  names_distinct := by
    rw [names_extend]
    exact recorded.names_distinct.append (List.nodup_singleton _) (by simpa using fits.1)
  declared_distinct := by
    rw [declaredNames_extend]
    refine recorded.declared_distinct.append ?_ fun name old new =>
      fits.2 name (by simpa using new) old
    cases call <;> simp [Call.sourceName?]
  stored := by
    intro sourceName type line member
    rcases List.mem_append.mp member with before | now
    · exact (recorded.stored sourceName type line before).extend call
    · cases List.mem_singleton.mp now
      exact stores_extend fits

/-- A call is accepted if its names are free, and otherwise has changed nothing when it fails. -/
theorem History.after_cases (history : History) (call : Call) :
    (call.Fits history.table ∧
      call.change.run.run history.table = (.ok (), (history.after call).table) ∧
      history.after call =
        { table := call.extend history.table, accepted := history.accepted ++ [call] }) ∨
    (¬call.Fits history.table ∧
      (∃ error, call.change.run.run history.table = (.error error, (history.after call).table)) ∧
      history.after call = history) := by
  unfold History.after
  rcases call.run_change history.table with ⟨fits, ran⟩ | ⟨taken, error, _, ran⟩
  · rw [ran]
    exact .inl ⟨fits, rfl, rfl⟩
  · rw [ran]
    exact .inr ⟨taken, ⟨error, rfl⟩, rfl⟩

/-! ## All calls -/

theorem Recorded.after {history : History} (recorded : Recorded history) (call : Call) :
    Recorded (history.after call) := by
  rcases history.after_cases call with ⟨fits, _, after⟩ | ⟨_, _, unchanged⟩
  · rw [after]
    exact recorded.extend fits
  · rwa [unchanged]

theorem Recorded.foldl {history : History} (recorded : Recorded history) (calls : List Call) :
    Recorded (calls.foldl History.after history) := by
  induction calls generalizing history with
  | nil => exact recorded
  | cons call rest ih => exact ih (recorded.after call)

theorem recorded_fresh : Recorded {} :=
  ⟨rfl, rfl, List.nodup_nil, List.nodup_nil, by simp⟩

/-- **Symbol tables.** After any calls on a fresh table, failed ones among them, the table is what
the accepted calls say. The next call returns exactly if its names are free; where it fails, the
table that it leaves behind is the one that it found. A free name can be found for every base, the
first one is taken, and a type can be registered under it. -/
theorem table_follows_accepted_calls (calls : List Call) :
    Recorded (run calls) ∧
    (∀ call,
      (call.Fits (run calls).table ∧
        call.change.run.run (run calls).table = (.ok (), (run (calls ++ [call])).table) ∧
        (run (calls ++ [call])).accepted = (run calls).accepted ++ [call]) ∨
      (¬call.Fits (run calls).table ∧
        (∃ error,
          call.change.run.run (run calls).table = (.error error, (run (calls ++ [call])).table)) ∧
        run (calls ++ [call]) = run calls)) ∧
    ∀ base, (run calls).table.IsFirstFree base ((run calls).table.uniqueName base) ∧
      ∀ sourceName body, ∃ after,
        (Change.register { name := (run calls).table.uniqueName base, sourceName, body }).run.run
          (run calls).table = (.ok (), after) := by
  refine ⟨recorded_fresh.foldl calls, fun call => ?_, fun base => ?_⟩
  · have next : run (calls ++ [call]) = (run calls).after call := List.foldl_concat ..
    rw [next]
    rcases (run calls).after_cases call with ⟨fits, ran, after⟩ | failed
    · exact .inl ⟨fits, ran, by rw [after]⟩
    · exact .inr failed
  · exact ⟨uniqueName_isFirstFree _ base, fun sourceName body =>
      ⟨_, run_register_uniqueName _ base sourceName body⟩⟩

end SchemaCompiler.Schema.SymbolTable
