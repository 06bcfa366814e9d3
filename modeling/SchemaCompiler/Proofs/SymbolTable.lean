import Mathlib.Data.List.Nodup
import Mathlib.Data.List.Perm.Subperm
import SchemaCompiler.Naming
import SchemaCompiler.Proofs.Operation
import SchemaCompiler.Schema.SymbolTable

/-!
# Names in a symbol table

A free name can always be found: as many types as there are take away at most as many numbers, and
one more number is tried. The first that is free is chosen (`uniqueName_isFirstFree`). The choice
depends on the names in the table only, so the body of a type can be filled in before or after
further types are added (`addObjects_setBody`).
-/

namespace SchemaCompiler.Schema.SymbolTable

/-- The names in generated code, in order. -/
def names (table : SymbolTable) : List String := table.types.map (·.name)

theorem isFree_iff {table : SymbolTable} {name : String} :
    table.isFree name = true ↔ name ∉ table.names := by
  simp [isFree, named?, names]

/-! ## Declared names -/

/-- Is a type declared under a name? -/
def knows (table : SymbolTable) (name : String) : Bool := (table.lookup name).isSome

/-- The number of the type that is declared under a name, if there is one. -/
def number (table : SymbolTable) (name : String) : Nat := (table.lookup name).getD 0

theorem knows_congr {left right : SymbolTable} (same : left.declared = right.declared) :
    left.knows = right.knows := by
  funext name
  simp only [knows, lookup, same]

theorem number_congr {left right : SymbolTable} (same : left.declared = right.declared) :
    left.number = right.number := by
  funext name
  simp only [number, lookup, same]

theorem knows_iff {table : SymbolTable} {name : String} :
    table.knows name = true ↔ name ∈ table.declaredNames := by
  simp [knows, lookup, declaredNames, List.lookup_isSome_iff]

theorem named?_eq_none_iff {table : SymbolTable} {name : String} :
    table.named? name = none ↔ name ∉ table.names := by
  simpa [isFree] using @isFree_iff table name

/-! ## Changes -/

/-- A call for a type to be added to a table. -/
inductive Call where
  | declare (sourceName : String) (type : NamedType) (line : Option Int)
  | register (type : NamedType)
  deriving DecidableEq

namespace Call

/-- The type to be added. -/
def type : Call → NamedType
  | declare _ type _ => type
  | register type => type

/-- The name in the document under which the type is declared. -/
def sourceName? : Call → Option String
  | declare sourceName _ _ => some sourceName
  | register _ => none

/-- What the call does. -/
def change : Call → Change Unit
  | declare sourceName type line => Change.declare sourceName type line
  | register type => Change.register type

/-- Where the call fails, if it does. -/
def location : Call → Location
  | declare sourceName _ line => { declaration := some sourceName, line }
  | register type => { declaration := some type.sourceName }

/-- The names of the call are not taken. -/
def Fits (call : Call) (table : SymbolTable) : Prop :=
  call.type.name ∉ table.names ∧ ∀ name ∈ call.sourceName?, name ∉ table.declaredNames

/-- The table with the type of the call at its end. -/
def extend (call : Call) (table : SymbolTable) : SymbolTable where
  declared := table.declared ++ (call.sourceName?.map (·, table.types.length)).toList
  types := table.types ++ [call.type]

/-- If its names are free, a call enters its type. Otherwise it fails before it has entered
anything. -/
theorem run_change (call : Call) (table : SymbolTable) :
    (call.Fits table ∧ call.change.run.run table = (.ok (), call.extend table)) ∨
    (¬call.Fits table ∧ ∃ error, error.location = call.location ∧
      call.change.run.run table = (.error error, table)) := by
  cases call with
  | declare sourceName type line =>
      have named := @named?_eq_none_iff table type.name
      have known := @knows_iff table sourceName
      simp only [change, Change.declare, Fits, Call.type, sourceName?, Option.mem_some_iff,
        forall_eq', ← named, ← known, run_get_bind]
      by_cases taken : (table.lookup sourceName).isSome = true
      · rw [if_pos taken]
        exact .inr ⟨fun fits => fits.2 taken, _, rfl, rfl⟩
      · rw [if_neg taken, run_get_bind]
        cases free : table.named? type.name with
        | some existing => exact .inr ⟨by simp, _, rfl, rfl⟩
        | none => exact .inl ⟨⟨rfl, taken⟩, rfl⟩
  | register type =>
      have named := @isFree_iff table type.name
      simp only [change, Change.register, Fits, Call.type, sourceName?, Option.not_mem_none,
        false_imp_iff, implies_true, and_true, ← named, run_get_bind]
      cases free : table.isFree type.name with
      | true =>
          have entered : table.push type = (register type).extend table := by
            simp [extend, push, sourceName?, Call.type]
          exact .inl ⟨rfl, entered ▸ rfl⟩
      | false => exact .inr ⟨by simp, _, rfl, rfl⟩

theorem outcome_change (call : Call) (table : SymbolTable) :
    (call.Fits table ∧ call.change.outcome table = .ok (call.extend table)) ∨
    (¬call.Fits table ∧ ∃ error, error.location = call.location ∧
      call.change.outcome table = .error error) := by
  unfold Change.outcome
  rcases call.run_change table with ⟨fits, ran⟩ | ⟨taken, error, located, ran⟩
  · rw [ran]
    exact .inl ⟨fits, rfl⟩
  · rw [ran]
    exact .inr ⟨taken, error, located, rfl⟩

end Call

/-- A declaration is accepted if neither of its names is taken. -/
theorem declare_eq_ok_iff {table after : SymbolTable} {name : String} {type : NamedType}
    {line : Option Int} :
    table.declare name type line = .ok after ↔
      name ∉ table.declaredNames ∧ type.name ∉ table.names ∧
        after = { declared := table.declared ++ [(name, table.types.length)]
                  types := table.types ++ [type] } := by
  have fits : (Call.declare name type line).Fits table ↔
      type.name ∉ table.names ∧ name ∉ table.declaredNames := by
    simp [Call.Fits, Call.type, Call.sourceName?]
  rcases (Call.declare name type line).outcome_change table with ⟨free, done⟩ |
    ⟨taken, error, _, failed⟩
  · rw [show table.declare name type line = _ from done, Except.ok.injEq, eq_comm]
    rw [fits] at free
    exact ⟨fun same => ⟨free.2, free.1, same⟩, fun ⟨_, _, same⟩ => same⟩
  · rw [show table.declare name type line = _ from failed]
    rw [fits] at taken
    exact ⟨fun impossible => (by cases impossible), fun ⟨unknown, free, _⟩ =>
      absurd ⟨free, unknown⟩ taken⟩

/-- The table that knows names by their place in a list. -/
def directory (names : List String) : SymbolTable := { declared := names.zipIdx }

theorem lookup_zipIdx {names : List String} (distinct : names.Nodup) {index : Nat} {name : String}
    (here : names[index]? = some name) (start : Nat) :
    (names.zipIdx start).lookup name = some (start + index) := by
  induction names generalizing index start with
  | nil => simp at here
  | cons first rest ih =>
      rw [List.zipIdx_cons]
      cases index with
      | zero =>
          obtain rfl : first = name := by simpa using here
          simp
      | succ index =>
          have member : name ∈ rest := List.mem_of_getElem? (by simpa using here)
          have ne : name ≠ first := fun same => (List.nodup_cons.mp distinct).1 (same ▸ member)
          rw [List.lookup_cons, beq_false_of_ne ne]
          dsimp only
          rw [ih (List.nodup_cons.mp distinct).2 (by simpa using here), Nat.add_assoc,
            Nat.add_comm 1]

theorem number_directory {names : List String} (distinct : names.Nodup) {index : Nat}
    {name : String} (here : names[index]? = some name) : (directory names).number name = index := by
  simp [number, lookup, directory, lookup_zipIdx distinct here]

theorem knows_directory {names : List String} {name : String} :
    (directory names).knows name = true ↔ name ∈ names := by
  simp [knows_iff, declaredNames, directory]

theorem number_lt_of_knows {names : List String} (distinct : names.Nodup) {name : String}
    (isKnown : (directory names).knows name = true) :
    (directory names).number name < names.length := by
  obtain ⟨index, lt, here⟩ := List.mem_iff_getElem.mp (knows_directory.mp isKnown)
  rwa [number_directory distinct (List.getElem?_eq_some_iff.mpr ⟨lt, here⟩)]

/-! ## Free names -/

theorem numbered_injective (base : String) : Function.Injective (numbered base) := by
  intro m n same
  have digits := congrArg String.toList same
  simp only [numbered, String.toList_append, String.toList_ofList,
    List.append_cancel_left_eq] at digits
  have values := congrArg (fun chars => Nat.ofDigitChars 10 chars 0) digits
  simpa using values

/-- Among more numbers than there are names, one is free. -/
theorem exists_free_number (table : SymbolTable) (base : String) :
    ∃ number ∈ (List.range (table.types.length + 1)).map (· + 2),
      table.isFree (numbered base number) = true := by
  by_contra taken
  push Not at taken
  let numbers := (List.range (table.types.length + 1)).map (· + 2)
  have distinct : (numbers.map (numbered base)).Nodup :=
    (List.nodup_range.map fun _ _ same => Nat.add_right_cancel same).map (numbered_injective base)
  -- numbers make different names, so all of them would be taken by different types
  have covered : numbers.map (numbered base) ⊆ table.names := by
    intro name member
    obtain ⟨number, listed, rfl⟩ := List.mem_map.mp member
    by_contra free
    exact taken number listed (isFree_iff.mpr free)
  have bound := (distinct.subperm covered).length_le
  simp only [numbers, names, List.length_map, List.length_range] at bound
  omega

/-- The name that is asked for if it is free, and otherwise with the least number from two on that
makes it free. -/
def IsFirstFree (table : SymbolTable) (base name : String) : Prop :=
  (base ∉ table.names ∧ name = base) ∨
  (base ∈ table.names ∧ ∃ number, 2 ≤ number ∧ name = numbered base number ∧ name ∉ table.names ∧
    ∀ smaller, 2 ≤ smaller → smaller < number → numbered base smaller ∈ table.names)

theorem uniqueName_isFirstFree (table : SymbolTable) (base : String) :
    table.IsFirstFree base (table.uniqueName base) := by
  have free (name : String) := @isFree_iff table name
  unfold uniqueName
  split
  next isFree => exact .inl ⟨(free base).mp isFree, rfl⟩
  next isTaken =>
    refine .inr ⟨by simpa [free] using isTaken, ?_⟩
    obtain ⟨witness, listed, isFree⟩ := table.exists_free_number base
    dsimp only
    split
    next number found =>
      rw [List.find?_map, Option.map_eq_some_iff] at found
      obtain ⟨offset, found, rfl⟩ := found
      obtain ⟨isFree, _, before⟩ := List.find?_range_eq_some.mp found
      refine ⟨offset + 2, by omega, rfl, (free _).mp isFree, fun smaller two less => ?_⟩
      have taken := before (smaller - 2) (by omega)
      by_contra isFree
      simp [Nat.sub_add_cancel two, (free _).mpr isFree] at taken
    next missed => exact absurd isFree (List.find?_eq_none.mp missed witness listed)

/-- The name that is chosen is free. -/
theorem uniqueName_isFree (table : SymbolTable) (base : String) :
    table.isFree (table.uniqueName base) = true := by
  rw [isFree_iff]
  rcases table.uniqueName_isFirstFree base with ⟨free, same⟩ | ⟨_, _, _, _, free, _⟩
  · rwa [same]
  · exact free

theorem uniqueName_eq (table : SymbolTable) (base : String) :
    table.uniqueName base = base ∨ ∃ number, table.uniqueName base = numbered base number := by
  rcases table.uniqueName_isFirstFree base with ⟨_, same⟩ | ⟨_, number, _, same, _⟩
  · exact .inl same
  · exact .inr ⟨number, same⟩

/-- The choice of a name depends on the names in the table only. -/
theorem uniqueName_congr {left right : SymbolTable} (same : left.names = right.names)
    (base : String) :
    left.uniqueName base = right.uniqueName base := by
  have free : left.isFree = right.isFree := by
    funext name
    rw [Bool.eq_iff_iff, isFree_iff, isFree_iff, same]
  have lengths : left.types.length = right.types.length := by
    simpa [names] using congrArg List.length same
  unfold uniqueName
  rw [free, lengths]

theorem uniqueName_ne_empty (table : SymbolTable) {base : String} (usable : base ≠ "") :
    table.uniqueName base ≠ "" := by
  rcases table.uniqueName_eq base with same | ⟨number, same⟩
  · rwa [same]
  · rw [same, numbered, Ne, String.append_eq_empty_iff]
    exact fun empty => usable empty.1

/-! ## Types made from objects without a name -/

/-- Add a type for an object without a name. -/
def addObject (table : SymbolTable) (baseName : String) (fields : List Field) : SymbolTable :=
  table.push {
    name := table.uniqueName (Naming.typeName baseName)
    sourceName := baseName
    body := .object true fields }

@[simp] theorem length_addObject (table : SymbolTable) (baseName : String) (fields : List Field) :
    (table.addObject baseName fields).types.length = table.types.length + 1 := by
  simp [addObject, push]

/-- Add types for objects without a name, one after the other. -/
def addObjects (table : SymbolTable) (objects : List (String × List Field)) : SymbolTable :=
  objects.foldl (fun table object => table.addObject object.1 object.2) table

@[simp] theorem addObjects_nil (table : SymbolTable) : table.addObjects [] = table := rfl

theorem addObjects_cons (table : SymbolTable) (object : String × List Field)
    (rest : List (String × List Field)) :
    table.addObjects (object :: rest) = (table.addObject object.1 object.2).addObjects rest := rfl

theorem addObjects_append (table : SymbolTable) (left right : List (String × List Field)) :
    table.addObjects (left ++ right) = (table.addObjects left).addObjects right :=
  List.foldl_append ..

/-- A name that was chosen for a type can be registered. -/
theorem run_register_uniqueName (table : SymbolTable) (base sourceName : String) (body : Body) :
    (Change.register { name := table.uniqueName base, sourceName, body }).run.run table =
      (.ok (), table.push { name := table.uniqueName base, sourceName, body }) := by
  rw [Change.register, run_get_bind, table.uniqueName_isFree base]
  rfl

theorem register_uniqueName (table : SymbolTable) (base sourceName : String) (body : Body) :
    table.register { name := table.uniqueName base, sourceName, body } =
      .ok (table.push { name := table.uniqueName base, sourceName, body }) := by
  rw [register, Change.outcome, run_register_uniqueName]
  rfl

@[simp] theorem declared_addObjects (table : SymbolTable) (objects : List (String × List Field)) :
    (table.addObjects objects).declared = table.declared := by
  induction objects generalizing table with
  | nil => rfl
  | cons object rest ih =>
      rw [addObjects_cons, ih]
      rfl

@[simp] theorem length_addObjects (table : SymbolTable) (objects : List (String × List Field)) :
    (table.addObjects objects).types.length = table.types.length + objects.length := by
  induction objects generalizing table with
  | nil => rfl
  | cons object rest ih =>
      rw [addObjects_cons, ih, length_addObject, List.length_cons]
      omega

/-- Types are added behind those that are there. -/
theorem getElem?_addObjects {table : SymbolTable} {id : Nat} (present : id < table.types.length)
    (objects : List (String × List Field)) :
    (table.addObjects objects).types[id]? = table.types[id]? := by
  induction objects generalizing table with
  | nil => rfl
  | cons object rest ih =>
      have later : id < (table.addObject object.1 object.2).types.length := by
        rw [length_addObject]
        omega
      rw [addObjects_cons, ih later]
      exact List.getElem?_append_left present

/-- Every object without a name gets a type, in order. -/
theorem getElem?_addObjects_length_add (table : SymbolTable) {objects : List (String × List Field)}
    {index : Nat} {object : String × List Field} (here : objects[index]? = some object) :
    ∃ name, (table.addObjects objects).types[table.types.length + index]? =
      some { name, sourceName := object.1, body := .object true object.2 } := by
  induction objects generalizing table index with
  | nil => simp at here
  | cons first rest ih =>
      rw [addObjects_cons]
      cases index with
      | zero =>
          obtain rfl : first = object := by simpa using here
          rw [getElem?_addObjects (by simp)]
          exact ⟨_, List.getElem?_concat_length⟩
      | succ index =>
          obtain ⟨name, found⟩ := ih (table.addObject first.1 first.2) (by simpa using here)
          rw [length_addObject, Nat.add_right_comm, Nat.add_assoc] at found
          exact ⟨name, found⟩

/-! ## Bodies -/

@[simp] theorem names_setBody (table : SymbolTable) (id : Nat) (body : Body) :
    (table.setBody id body).names = table.names := by
  apply List.ext_getElem?
  intro i
  simp only [names, setBody, List.getElem?_map, List.getElem?_modify]
  cases table.types[i]? with
  | none => rfl
  | some type => by_cases same : id = i <;> simp [same]

private theorem modify_append_left {α : Type} {id : Nat} {left : List α}
    (present : id < left.length) (right : List α) (change : α → α) :
    (left ++ right).modify id change = left.modify id change ++ right := by
  induction left generalizing id with
  | nil => simp at present
  | cons a rest ih =>
      cases id with
      | zero => rfl
      | succ id => simp [ih (Nat.lt_of_succ_lt_succ present)]

theorem setBody_self {table : SymbolTable} {id : Nat} {body : Body}
    (same : (table.types[id]?).map (·.body) = some body) : table.setBody id body = table := by
  have types : table.types.modify id (fun type => { type with body }) = table.types := by
    apply List.ext_getElem?
    intro i
    rw [List.getElem?_modify]
    by_cases here : id = i
    · subst here
      obtain ⟨type, found, rfl⟩ := Option.map_eq_some_iff.mp same
      simp [found]
    · simp [here]
  rw [setBody, types]

/-- A body can be filled in before or after further types are added. -/
theorem addObject_setBody {table : SymbolTable} {id : Nat} (present : id < table.types.length)
    (body : Body) (baseName : String) (fields : List Field) :
    (table.setBody id body).addObject baseName fields =
      (table.addObject baseName fields).setBody id body := by
  unfold addObject
  rw [uniqueName_congr (table.names_setBody id body)]
  simp [push, setBody, modify_append_left present]

theorem addObjects_setBody {table : SymbolTable} {id : Nat} (present : id < table.types.length)
    (body : Body) (objects : List (String × List Field)) :
    (table.setBody id body).addObjects objects = (table.addObjects objects).setBody id body := by
  induction objects generalizing table with
  | nil => rfl
  | cons object rest ih =>
      have later : id < (table.addObject object.1 object.2).types.length := by
        rw [length_addObject]
        omega
      rw [addObjects_cons, addObject_setBody present, ih later, ← addObjects_cons]

/-- Filling in the body of the type added last. -/
theorem setBody_addObject (table : SymbolTable) (baseName : String) (fields : List Field) :
    (table.addObject baseName []).setBody table.types.length (.object true fields) =
      table.addObject baseName fields := by
  simp [addObject, push, setBody, List.modify_eq_take_cons_drop]

end SchemaCompiler.Schema.SymbolTable
