import SchemaCompiler.Proofs.EnumConstant
import SchemaCompiler.Proofs.Resolution

/-!
# What declarations say

A declaration is read in two passes. The first gives every declared type a provisional body, and
links aliases of other declarations once all names are known; the second reads what is left. As for
types, reading and placing are taken apart: `declarationShape` is what a declaration says in
the end, and each pass does its part of placing it.
-/

namespace SchemaCompiler.Schema

open Document (Node Entries Scalar)

/-- What a document says about a declared type. -/
inductive DeclarationShape where
  | object (fields : FieldShapes)
  | enumeration (values : List String)
  | aliasOf (target : Shape)

namespace DeclarationShape

/-- The number of objects without a name in a declaration. -/
def size : DeclarationShape → Nat
  | object fields => fields.size
  | enumeration _ => 0
  | aliasOf target => target.size

/-- The body of the declared type, given the numbers of declared types and the number `start` of the
first type that is free. -/
def body (number : String → Nat) (start : Nat) : DeclarationShape → Body
  | object fields => .object false (fields.fields number start)
  | enumeration values => .enumeration values
  | aliasOf target => .aliasOf (target.expr number start)

/-- The objects without a name in a declaration. -/
def objects (number : String → Nat) (start : Nat) : DeclarationShape → List (String × List Field)
  | object fields => fields.objects number start
  | enumeration _ => []
  | aliasOf target => target.objects number start

/-- What is still to be compiled for the fields in a declaration. -/
def pending (owner start : Nat) : DeclarationShape → List Pending
  | object fields => fields.pending owner start
  | enumeration _ => []
  | aliasOf target => target.pending start

/-- Declarations that refer to declared types only, whose objects without a name can be named, and
whose constants are those of their values. -/
def Sound (known : String → Bool) : DeclarationShape → Prop
  | object fields => fields.Sound known
  | enumeration values => ∀ value ∈ values, value ≠ "" ∧ ∃ text, value = Naming.enumConstant text
  | aliasOf target => target.Sound known

theorem length_objects (number : String → Nat) (start : Nat) (shape : DeclarationShape) :
    (shape.objects number start).length = shape.size := by
  cases shape with
  | object fields => exact fields.length_objects number start
  | enumeration values => rfl
  | aliasOf target => exact target.length_objects number start

end DeclarationShape

/-! ## Provisional bodies -/

/-- The bodies that declarations start out with. -/
inductive Provisional : Body → Prop where
  | object : Provisional (.object false [])
  | enumeration : Provisional (.enumeration [])
  | scalar (kind : ScalarKind) : Provisional (.aliasOf (.scalar kind))
  | array : Provisional (.aliasOf .missing)
  | name (target : String) (pointer : Bool) : Provisional (.aliasOf (.unresolved target pointer))

theorem provisionalBody_provisional {location : Location} {entries : Entries} {body : Body}
    (read : provisionalBody location entries = .ok body) : Provisional body := by
  unfold provisionalBody at read
  dsimp only at read
  split at read
  · cases read
    exact .enumeration
  split at read
  · cases read
    exact .object
  split at read
  next kind _ =>
    cases read
    exact .scalar kind
  split at read
  · cases read
    exact .array
  split at read
  next =>
    obtain ⟨reference, _, read⟩ := bind_eq_ok read
    cases read
    exact .name reference true
  split at read
  · exact absurd read fail_ne_ok
  next word _ =>
    split at read
    · obtain ⟨shown, _, read⟩ := bind_eq_ok read
      exact absurd read fail_ne_ok
    · cases read
      exact .name word false
  · obtain ⟨shown, _, read⟩ := bind_eq_ok read
    exact absurd read fail_ne_ok

/-- A declaration that is registered is a mapping, and has a name that can be used. -/
theorem provisional_eq_ok {name : String} {node : Node} {type : NamedType}
    (read : provisional name node = .ok type) :
    ∃ line entries body, node = .mapping line entries ∧ Naming.typeName name ≠ "" ∧
      Provisional body ∧
      type = { name := Naming.typeName name, sourceName := name, body } := by
  unfold provisional at read
  dsimp only at read
  split at read
  · exact absurd read failAt_ne_ok
  next usable =>
  split at read
  next line entries =>
    obtain ⟨body, bodyRead, read⟩ := bind_eq_ok read
    cases read
    exact ⟨line, entries, body,
      rfl, by simpa using usable, provisionalBody_provisional bodyRead, rfl⟩
  · exact absurd read failAt_ne_ok

theorem provisional_body {name : String} {node : Node} {type : NamedType}
    (read : provisional name node = .ok type) : Provisional type.body := by
  obtain ⟨_, _, body, _, _, start, rfl⟩ := provisional_eq_ok read
  exact start

/-! ## Reading declarations -/

/-- What a declaration that starts out with a body says in the end. No declaration starts out with
an alias of another form. -/
def bodyShape (known : String → Bool) (name : String) (line : Int) (entries : Entries) :
    Body → Except Failure DeclarationShape
  | .object _ _ => (objectShape known name "" entries).map .object
  | .enumeration _ => (resolveEnum name line entries).map .enumeration
  | .aliasOf .missing => (arrayShape known name "" (Naming.typeName name) entries).map .aliasOf
  | .aliasOf (.unresolved target pointer) =>
    (nameShape known target pointer { declaration := some name, line := some line }).map .aliasOf
  | .aliasOf (.scalar kind) => .ok (.aliasOf (.scalar kind))
  | .aliasOf _ => fail .declarationWithoutType { declaration := some name, line := some line }

/-- What a declaration says. -/
def declarationShape (known : String → Bool) (name : String) (node : Node) :
    Except Failure DeclarationShape := do
  let type ← provisional name node
  match node with
  | .mapping line entries => bodyShape known name line entries type.body
  | node => failAt node .declarationNotMapping { declaration := some name }

/-- The body of a declared type once its alias target has been looked up, if it is a name. -/
def linkBody (known : String → Bool) (number : String → Nat) (location : Location) :
    Body → Except Failure Body
  | .aliasOf (.unresolved target pointer) =>
    (nameShape known target pointer location).map fun shape => .aliasOf (shape.expr number 0)
  | body => .ok body

/-- The declared type after the first pass. -/
def collectedType (known : String → Bool) (number : String → Nat) (name : String) (node : Node) :
    Except Failure NamedType := do
  let type ← provisional name node
  let body ← linkBody known number { declaration := some name, line := node.line? } type.body
  return { type with body }

theorem collectedType_eq_ok_iff {known : String → Bool} {number : String → Nat} {name : String}
    {node : Node} {type collected : NamedType} (read : provisional name node = .ok type) :
    collectedType known number name node = .ok collected ↔
      ∃ body, linkBody known number { declaration := some name, line := node.line? } type.body =
        .ok body ∧
        collected = { type with body } := by
  rw [collectedType, read]
  show (linkBody known number { declaration := some name, line := node.line? }
      type.body >>= fun body =>
    Except.ok { type with body }) = .ok collected ↔ _
  cases linkBody known number { declaration := some name, line := node.line? } type.body with
  | error failure => simp [Bind.bind, Except.bind]
  | ok body => simp [Bind.bind, Except.bind, eq_comm]

theorem collectedType_names {known : String → Bool} {number : String → Nat} {name : String}
    {node : Node} {type : NamedType} (read : collectedType known number name node = .ok type) :
    type.name = Naming.typeName name ∧ type.sourceName = name := by
  obtain ⟨start, startRead, _⟩ := bind_eq_ok read
  obtain ⟨body, _, rfl⟩ := (collectedType_eq_ok_iff startRead).mp read
  obtain ⟨_, _, _, _, _, _, rfl⟩ := provisional_eq_ok startRead
  exact ⟨rfl, rfl⟩

/-- The constants of an enumeration are those of its values. -/
theorem resolveEnum_constants {declaration : String} {line : Int} {entries : Entries}
    {values : List String} (read : resolveEnum declaration line entries = .ok values) :
    ∀ value ∈ values, value ≠ "" ∧ ∃ text, value = Naming.enumConstant text := by
  obtain ⟨_, _, _, _, read⟩ := resolveEnum_eq_ok_iff.mp read
  obtain ⟨⟨texts, _, rfl⟩, usable, _⟩ := enumConstants_eq_ok_iff.mp read
  intro value member
  obtain ⟨text, _, rfl⟩ := List.mem_map.mp member
  exact ⟨(usable _ member).1, text, rfl⟩

theorem declarationShape_sound {known : String → Bool} {name : String} {node : Node}
    {shape : DeclarationShape} (read : declarationShape known name node = .ok shape) :
    shape.Sound known := by
  obtain ⟨type, typeRead, read⟩ := bind_eq_ok read
  obtain ⟨line, entries, body, rfl, _, start, rfl⟩ := provisional_eq_ok typeRead
  dsimp only at read
  cases start with
  | object =>
      obtain ⟨fields, fieldsRead, rfl⟩ := map_eq_ok read
      exact objectShape_sound fieldsRead
  | enumeration =>
      obtain ⟨values, valuesRead, rfl⟩ := map_eq_ok read
      exact resolveEnum_constants valuesRead
  | scalar kind =>
      cases read
      trivial
  | array =>
      obtain ⟨target, targetRead, rfl⟩ := map_eq_ok read
      exact arrayShape_sound targetRead
  | name target pointer =>
      obtain ⟨target, targetRead, rfl⟩ := map_eq_ok read
      exact nameShape_sound targetRead

/-! ## The first pass -/

theorem mapError_eq_ok_iff {ε ε' α : Type} {change : ε → ε'} {result : Except ε α} {value : α} :
    result.mapError change = .ok value ↔ result = .ok value := by
  cases result <;> simp [Except.mapError]

/-- Declaring succeeds exactly if all declarations can be registered and their names, in the
document and in generated code, are all different. -/
theorem declareAll_eq_ok_iff {table after : SymbolTable} {entries : Entries}
    (known : table.declaredNames.Nodup) (named : table.names.Nodup) :
    declareAll table entries = .ok after ↔
      ∃ types, List.Forall₂ (fun entry type => provisional entry.1 entry.2 = .ok type)
        entries types ∧
        (table.declaredNames ++ entries.map (·.1)).Nodup ∧
        (table.names ++ types.map (·.name)).Nodup ∧
        after = { declared := table.declared ++ (entries.map (·.1)).zipIdx table.types.length
                  types := table.types ++ types } := by
  -- the table grows with every declaration, and its names stay different
  induction entries generalizing table with
  | nil => simp [declareAll, known, named, eq_comm]
  | cons entry rest ih =>
      obtain ⟨name, node⟩ := entry
      simp only [declareAll, List.forall₂_cons_left_iff, List.map_cons, List.zipIdx_cons]
      have declaredNext (type : NamedType) : SymbolTable.declaredNames
          { declared := table.declared ++ [(name,
            table.types.length)], types := table.types ++ [type] } =
          table.declaredNames ++ [name] := by
        simp [SymbolTable.declaredNames]
      have namesNext (type : NamedType) : SymbolTable.names
          { declared := table.declared ++ [(name,
            table.types.length)], types := table.types ++ [type] } =
          table.names ++ [type.name] := by
        simp [SymbolTable.names]
      constructor
      · intro declared
        obtain ⟨type, typeRead, declared⟩ := bind_eq_ok declared
        obtain ⟨next, accepted, declared⟩ := bind_eq_ok declared
        rw [mapError_eq_ok_iff, SymbolTable.declare_eq_ok_iff] at accepted
        obtain ⟨nameFree, typeFree, rfl⟩ := accepted
        have knownNext : (table.declaredNames ++ [name]).Nodup := by
          simpa using known.concat nameFree
        have namedNext : (table.names ++ [type.name]).Nodup := by
          simpa using named.concat typeFree
        rw [ih (declaredNext type ▸ knownNext) (namesNext type ▸ namedNext)] at declared
        obtain ⟨types, typesRead, namesDistinct, typesDistinct, rfl⟩ := declared
        rw [declaredNext] at namesDistinct
        rw [namesNext] at typesDistinct
        refine ⟨type :: types, ⟨type, types, typeRead, typesRead, rfl⟩, ?_, ?_, ?_⟩
        · simpa using namesDistinct
        · simpa using typesDistinct
        · simp
      · rintro ⟨_, ⟨type, types, typeRead, typesRead, rfl⟩, namesDistinct, typesDistinct, rfl⟩
        have accepted : table.declare name type node.line? =
            .ok { declared := table.declared ++ [(name, table.types.length)]
                  types := table.types ++ [type] } := by
          rw [SymbolTable.declare_eq_ok_iff]
          refine ⟨?_, ?_, rfl⟩
          · intro member
            exact (List.nodup_append.mp namesDistinct).2.2 name member name (by simp) rfl
          · intro member
            exact (List.nodup_append.mp typesDistinct).2.2 type.name member type.name (by simp) rfl
        rw [List.append_cons] at namesDistinct
        rw [List.map_cons, List.append_cons] at typesDistinct
        have knownNext := (List.nodup_append.mp namesDistinct).1
        have namedNext := (List.nodup_append.mp typesDistinct).1
        rw [typeRead]
        show ((table.declare name type node.line?).mapError Failure.error >>= _) = _
        rw [accepted]
        show declareAll _ rest = _
        rw [ih (declaredNext type ▸ knownNext) (namesNext type ▸ namedNext)]
        refine ⟨types, typesRead, ?_, ?_, ?_⟩
        · rwa [declaredNext]
        · rwa [namesNext]
        · simp

/-- Entries that are declared under their places in a section, counted from a start. -/
def Numbered (table : SymbolTable) (start : Nat) (entries : Entries) : Prop :=
  ∀ index entry, entries[index]? = some entry → table.lookup entry.1 = some (start + index)

theorem Numbered.head {table : SymbolTable} {start : Nat} {entry : String × Node} {rest : Entries}
    (numbered : Numbered table start (entry :: rest)) : table.lookup entry.1 = some start :=
  numbered 0 entry rfl

theorem Numbered.tail {table : SymbolTable} {start : Nat} {entry : String × Node} {rest : Entries}
    (numbered : Numbered table start (entry :: rest)) : Numbered table (start + 1) rest := by
  intro index other here
  rw [numbered (index + 1) other here, Nat.add_right_comm, Nat.add_assoc]

theorem resolveAlias_eq {table : SymbolTable} {name : String} {id : Nat} {type : NamedType}
    (found : table.lookup name = some id) (here : table.types[id]? = some type)
    (start : Provisional type.body) (line : Option Int) :
    (resolveAlias table name line).mapError Failure.error =
      (linkBody table.knows table.number { declaration := some name, line } type.body).map
        (table.setBody id) := by
  have same : table.setBody id type.body = table :=
    SymbolTable.setBody_self (by rw [here, Option.map_some])
  obtain ⟨typeName, sourceName, body⟩ := type
  unfold resolveAlias
  simp only [found, here, Option.bind_some, pendingTarget?]
  cases start with
  | object => exact congrArg Except.ok same.symm
  | enumeration => exact congrArg Except.ok same.symm
  | scalar kind => exact congrArg Except.ok same.symm
  | array => exact congrArg Except.ok same.symm
  | name target pointer =>
      have looked := resolveName_eq table target pointer { declaration := some name, line } 0
      calc (table.resolveName target pointer { declaration := some name, line } >>= fun resolved =>
              pure (table.setBody id (.aliasOf resolved))).mapError Failure.error
          = ((table.resolveName target pointer { declaration := some name, line }).mapError
              Failure.error).map fun resolved => table.setBody id (.aliasOf resolved) := by
            cases table.resolveName target pointer { declaration := some name, line } <;> rfl
        _ = ((nameShape table.knows target pointer { declaration := some name, line }).map
              (Shape.expr table.number 0)).map fun resolved =>
                table.setBody id (.aliasOf resolved) := by
            rw [looked]
        _ = _ := by
            rw [linkBody]
            cases nameShape table.knows target pointer { declaration := some name, line } <;> rfl

theorem resolveAlias_eq_ok_iff {table next : SymbolTable} {name : String} {id : Nat}
    {type : NamedType} (found : table.lookup name = some id) (here : table.types[id]? = some type)
    (start : Provisional type.body) (line : Option Int) :
    resolveAlias table name line = .ok next ↔
      ∃ body,
        linkBody table.knows table.number { declaration := some name, line } type.body = .ok body ∧
        next = table.setBody id body := by
  rw [← mapError_eq_ok_iff, resolveAlias_eq found here start]
  cases linkBody table.knows table.number { declaration := some name, line } type.body with
  | error failure => simp [Except.map]
  | ok body => simp [Except.map, eq_comm]

theorem setBody_append_cons (table : SymbolTable) (left right : List NamedType) (type : NamedType)
    (body : Body) :
    { table with types := left ++ type :: right }.setBody left.length body =
      { table with types := left ++ { type with body } :: right } := by
  simp [SymbolTable.setBody, List.modify_eq_take_cons_drop]

/-- Linking the aliases of a section gives the declared types after the first pass. -/
theorem resolveAliases_eq_ok_iff {table after : SymbolTable} {entries : Entries}
    {right : List NamedType}
    (read : List.Forall₂ (fun entry type => provisional entry.1 entry.2 = .ok type) entries right)
    (left : List NamedType) (numbered : Numbered table left.length entries) :
    resolveAliases { table with types := left ++ right } entries = .ok after ↔
      ∃ types, List.Forall₂
        (fun entry type => collectedType table.knows table.number entry.1 entry.2 = .ok type)
          entries types ∧
        after = { table with types := left ++ types } := by
  -- the types in `left` are linked already, those in `right` are not
  induction read generalizing left with
  | nil => simp [resolveAliases, eq_comm]
  | @cons entry type rest right typeRead _ ih =>
      obtain ⟨name, node⟩ := entry
      have found : SymbolTable.lookup { table with types := left ++ type :: right } name =
          some left.length := numbered.head
      have here : (left ++ type :: right)[left.length]? = some type := by simp
      have step (next : SymbolTable) :
          resolveAlias { table with types := left ++ type :: right } name node.line? = .ok next ↔
            ∃ body, linkBody table.knows table.number
                { declaration := some name, line := node.line? }
                type.body = .ok body ∧
              next = { table with types := left ++ { type with body } :: right } := by
        rw [resolveAlias_eq_ok_iff found here (provisional_body typeRead)]
        simp only [setBody_append_cons]
        rfl
      have numberedRest (body : Body) :
          Numbered table (left ++ [{ type with body }]).length rest := by
        simpa using numbered.tail
      simp only [resolveAliases, List.forall₂_cons_left_iff]
      constructor
      · intro done
        obtain ⟨next, linked, done⟩ := bind_eq_ok done
        obtain ⟨body, bodyRead, rfl⟩ := (step next).mp linked
        rw [List.append_cons, ih _ (numberedRest body)] at done
        obtain ⟨types, typesRead, rfl⟩ := done
        refine ⟨{ type with body } :: types,
          ⟨_, types, ?_, typesRead, rfl⟩, by rw [← List.append_cons]⟩
        exact (collectedType_eq_ok_iff typeRead).mpr ⟨body, bodyRead, rfl⟩
      · rintro ⟨_, ⟨collected, types, typeCollected, typesRead, rfl⟩, rfl⟩
        obtain ⟨body, bodyRead, rfl⟩ := (collectedType_eq_ok_iff typeRead).mp typeCollected
        rw [(step _).mpr ⟨body, bodyRead, rfl⟩]
        show resolveAliases _ rest = _
        rw [List.append_cons, ih _ (numberedRest body)]
        exact ⟨types, typesRead, by rw [← List.append_cons]⟩

/-! ## The second pass -/

/-- The resolution after the declared type with a number has been completed. -/
def Resolution.complete (before : Resolution) (id : Nat) (shape : DeclarationShape) : Resolution :=
  { table := (before.table.addObjects
      (shape.objects before.table.number before.table.types.length)).setBody id
        (shape.body before.table.number before.table.types.length)
    pending := before.pending ++ shape.pending id before.table.types.length }

/-- Completing a type that has its body already changes nothing. -/
theorem Resolution.complete_eq_self {before : Resolution} {id : Nat} {shape : DeclarationShape}
    (noObjects : shape.size = 0) (nothing : shape.pending id before.table.types.length = [])
    (same : (before.table.types[id]?).map (·.body) =
      some (shape.body before.table.number before.table.types.length)) :
    before.complete id shape = before := by
  have none : shape.objects before.table.number before.table.types.length = [] := by
    rw [← List.length_eq_zero_iff, shape.length_objects, noObjects]
  unfold Resolution.complete
  rw [none, nothing, SymbolTable.addObjects_nil, SymbolTable.setBody_self same, List.append_nil]

/-- The second pass reads what a declaration says and completes its type. -/
theorem resolveDeclaration_gives {before : Resolution} {name : String} {node : Node} {id : Nat}
    {type : NamedType} (found : before.table.lookup name = some id)
    (here : before.table.types[id]? = some type)
    (collected : collectedType before.table.knows before.table.number name node = .ok type) :
    (resolveDeclaration name node).Gives before
      ((declarationShape before.table.knows name node).map fun shape =>
        ((), before.complete id shape)) := by
  obtain ⟨provisionalType, typeRead, _⟩ := bind_eq_ok collected
  obtain ⟨body, linked, rfl⟩ := (collectedType_eq_ok_iff typeRead).mp collected
  obtain ⟨line, entries, start, rfl, _, isProvisional, rfl⟩ := provisional_eq_ok typeRead
  have read : declarationShape before.table.knows name (.mapping line entries) =
      bodyShape before.table.knows name line entries start := by
    rw [declarationShape, typeRead]
    rfl
  rw [read]
  refine (Resolve.gives_get before).bind_ok ?_
  simp only [found, here, Option.map_some]
  cases isProvisional with
  | object =>
      cases linked
      rw [bodyShape, map_map]
      exact resolveObject_gives name "" id false entries before (by rw [here, Option.map_some])
  | enumeration =>
      cases linked
      rw [bodyShape, map_map]
      refine Resolve.Gives.bind_map (Resolve.gives_ofExcept _ before) fun values => ?_
      have set := Resolve.gives_setBody id (.enumeration values) before
      simpa [Resolution.complete, DeclarationShape.objects, DeclarationShape.body,
        DeclarationShape.pending] using set
  | scalar kind =>
      cases linked
      have same : before.complete id (.aliasOf (.scalar kind)) = before :=
        Resolution.complete_eq_self rfl rfl (by rw [here]; rfl)
      rw [bodyShape, Except.map, same]
      exact Resolve.gives_pure () before
  | array =>
      cases linked
      have target := resolveArray_gives name "" (Naming.typeName name) entries before
      rw [bodyShape, map_map]
      exact target.bind_map fun shape => Resolve.gives_setBody _ _ _
  | name target pointer =>
      -- the first pass has found the declaration, and the second finds it again
      obtain ⟨shape, shapeRead, rfl⟩ := map_eq_ok linked
      obtain ⟨declared, _, rfl⟩ := nameShape_eq_ok shapeRead
      have same : before.complete id (.aliasOf (.declared declared)) = before :=
        Resolution.complete_eq_self rfl rfl (by rw [here]; rfl)
      have shapeRead : nameShape before.table.knows target pointer
          { declaration := some name, line := some line } = .ok (.declared declared) := shapeRead
      rw [bodyShape, shapeRead, Except.map, Except.map, same]
      exact Resolve.gives_pure () before

/-- What the declarations of a section say, each with its name. -/
def sectionShapes (known : String → Bool) :
    Entries → Except Failure (List (String × DeclarationShape))
  | [] => .ok []
  | (name, node) :: rest => do
    let shape ← declarationShape known name node
    let shapes ← sectionShapes known rest
    return (name, shape) :: shapes

/-- The declared types of a section. -/
def declaredTypes (number : String → Nat) (start : Nat) :
    List (String × DeclarationShape) → List NamedType
  | [] => []
  | (name, shape) :: rest =>
    { name := Naming.typeName name, sourceName := name, body := shape.body number start } ::
      declaredTypes number (start + shape.size) rest

/-- The objects without a name in a section. -/
def sectionObjects (number : String → Nat) (start : Nat) :
    List (String × DeclarationShape) → List (String × List Field)
  | [] => []
  | (_, shape) :: rest =>
      shape.objects number start ++ sectionObjects number (start + shape.size) rest

/-- What is still to be compiled for the fields in a section. -/
def sectionPending (owner start : Nat) : List (String × DeclarationShape) → List Pending
  | [] => []
  | (_, shape) :: rest =>
    shape.pending owner start ++ sectionPending (owner + 1) (start + shape.size) rest

/-- Completing a type in front of the objects without a name that were met before. -/
theorem complete_addObjects (table : SymbolTable) (left right : List NamedType) (type : NamedType)
    (objects : List (String × List Field)) (pending : List Pending) (shape : DeclarationShape)
    {start : Nat} (isStart : start = left.length + (right.length + 1) + objects.length) :
    Resolution.complete
        { table := { table with types := left ++ type :: right }.addObjects objects, pending }
        left.length shape =
      { table := { table with types :=
            left ++ { type with body := shape.body table.number start } :: right }.addObjects
          (objects ++ shape.objects table.number start)
        pending := pending ++ shape.pending left.length start } := by
  have number : ({ table with types := left ++ type :: right }.addObjects objects).number =
      table.number :=
    SymbolTable.number_congr (SymbolTable.declared_addObjects ..)
  have length : ({ table with types := left ++ type :: right }.addObjects objects).types.length =
      start := by
    simp [isStart]
  unfold Resolution.complete
  rw [number, length, ← SymbolTable.addObjects_append, ← SymbolTable.addObjects_setBody (by simp),
    setBody_append_cons]

/-- The second pass reads what all declarations of a section say and completes their types. -/
theorem resolveDeclarations_gives {table : SymbolTable} {entries : Entries} {right : List NamedType}
    (collected :
      List.Forall₂
        (fun entry type => collectedType table.knows table.number entry.1 entry.2 = .ok type)
          entries right)
    (left : List NamedType) (objects : List (String × List Field)) (pending : List Pending)
    {start : Nat} (isStart : start = left.length + right.length + objects.length)
    (numbered : Numbered table left.length entries) :
    (resolveDeclarations entries).Gives
      { table := { table with types := left ++ right }.addObjects objects, pending }
      ((sectionShapes table.knows entries).map fun shapes =>
        ((), { table :=
                 { table with types := left ++ declaredTypes table.number start shapes }.addObjects
                   (objects ++ sectionObjects table.number start shapes)
               pending := pending ++ sectionPending left.length start shapes })) := by
  -- the types in `left` are complete, those in `right` are not, and types for `objects` stand
  -- behind both
  induction collected generalizing left objects pending start with
  | nil =>
      rw [sectionShapes, Except.map, sectionObjects, sectionPending, declaredTypes]
      simp only [List.append_nil]
      exact Resolve.gives_pure () _
  | @cons entry type rest right typeCollected _ ih =>
      obtain ⟨name, node⟩ := entry
      let before : Resolution :=
        { table := { table with types := left ++ type :: right }.addObjects objects, pending }
      have declared : before.table.declared = table.declared := SymbolTable.declared_addObjects ..
      have known : before.table.knows = table.knows := SymbolTable.knows_congr declared
      have number : before.table.number = table.number := SymbolTable.number_congr declared
      have found : before.table.lookup name = some left.length := by
        rw [SymbolTable.lookup, declared]
        exact numbered.head
      have here : before.table.types[left.length]? = some type := by
        rw [SymbolTable.getElem?_addObjects (by simp)]
        simp
      have first := resolveDeclaration_gives found here (by rwa [known, number])
      rw [known] at first
      refine Resolve.Gives.bind first fun shape _ => ?_
      rw [complete_addObjects table left right type objects pending shape isStart]
      let completed : NamedType := { type with body := shape.body table.number start }
      have second := ih (left ++ [completed]) (objects ++ shape.objects table.number start)
        (pending ++ shape.pending left.length start)
        (show start + shape.size = _ by simp [shape.length_objects, isStart]; omega)
        (by simpa using numbered.tail)
      rw [← List.append_cons] at second
      cases shapes : sectionShapes table.knows rest with
      | error failure =>
          rw [shapes, Except.map] at second
          exact second
      | ok others =>
          rw [shapes] at second
          obtain ⟨isName, isSource⟩ := collectedType_names typeCollected
          simpa [declaredTypes, sectionObjects, sectionPending, completed, isName,
            isSource, Except.map, Bind.bind, Except.bind, Pure.pure, Except.pure] using second

end SchemaCompiler.Schema
