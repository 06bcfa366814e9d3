import SchemaCompiler.Proofs.Computation
import SchemaCompiler.Proofs.Shape

/-!
# Resolving is reading and placing

Resolving a type gives what reading its shape and placing the shape gives, or the failure of reading
it. Since names for objects without a name are always found, registering them never fails, and what
is resolved before does not matter beyond the names that are declared.
-/

namespace SchemaCompiler.Schema

open Document (Node Entries Scalar)

namespace Resolution

/-- The type that a shape becomes when it is placed in a resolution. -/
def exprOf (before : Resolution) (shape : Shape) : TypeExpr :=
  shape.expr before.table.number before.table.types.length

/-- The resolution after a shape has been placed. -/
def place (before : Resolution) (shape : Shape) : Resolution :=
  { table := before.table.addObjects (shape.objects before.table.number before.table.types.length)
    pending := before.pending ++ shape.pending before.table.types.length }

/-- The fields that shapes of fields become. -/
def fieldsOf (before : Resolution) (fields : FieldShapes) : List Field :=
  fields.fields before.table.number before.table.types.length

/-- The resolution after the fields of an object have been placed. -/
def placeFields (before : Resolution) (owner : Nat) (fields : FieldShapes) : Resolution :=
  { table := before.table.addObjects (fields.objects before.table.number before.table.types.length)
    pending := before.pending ++ fields.pending owner before.table.types.length }

/-- The resolution after an object has been filled in. -/
def fill (before : Resolution) (owner : Nat) (synthesized : Bool) (fields : FieldShapes) :
    Resolution :=
  { before.placeFields owner fields with
    table := (before.placeFields owner fields).table.setBody owner
      (.object synthesized (before.fieldsOf fields)) }

@[simp] theorem knows_place (before : Resolution) (shape : Shape) :
    (before.place shape).table.knows = before.table.knows :=
  SymbolTable.knows_congr (SymbolTable.declared_addObjects ..)

@[simp] theorem number_place (before : Resolution) (shape : Shape) :
    (before.place shape).table.number = before.table.number :=
  SymbolTable.number_congr (SymbolTable.declared_addObjects ..)

@[simp] theorem length_place (before : Resolution) (shape : Shape) :
    (before.place shape).table.types.length = before.table.types.length + shape.size := by
  simp [place, Shape.length_objects]

/-- The resolution after the `validate` node of a field has been remembered, if there is one. -/
def remember (before : Resolution) (owner : Nat) (head : FieldHead) : Resolution :=
  { before with pending := before.pending ++ head.pending owner }

theorem fieldsOf_cons (before : Resolution) (owner : Nat) (head : FieldHead) (type : Shape)
    (rest : FieldShapes) :
    before.fieldsOf (.cons head type rest) =
      head.field (before.exprOf type) ::
        ((before.place type).remember owner head).fieldsOf rest := by
  have number := before.number_place type
  have length := before.length_place type
  simp only [fieldsOf, FieldShapes.fields, exprOf, remember, number, length]

theorem placeFields_nil (before : Resolution) (owner : Nat) :
    before.placeFields owner .nil = before := by
  simp [placeFields, FieldShapes.objects, FieldShapes.pending]

theorem placeFields_cons (before : Resolution) (owner : Nat) (head : FieldHead) (type : Shape)
    (rest : FieldShapes) :
    before.placeFields owner (.cons head type rest) =
      ((before.place type).remember owner head).placeFields owner rest := by
  have number := before.number_place type
  have length := before.length_place type
  simp only [placeFields, remember, FieldShapes.objects, FieldShapes.pending, number, length,
    SymbolTable.addObjects_append, List.append_assoc]
  simp only [place, List.append_assoc]

end Resolution

/-- Remembering a `validate` node, if there is one, and going on. -/
theorem Resolve.gives_remember {β : Type} {next : Unit → Resolve β} {before : Resolution}
    {result : Except Failure (β × Resolution)} (owner : Nat) (head : FieldHead)
    (rest : (next ()).Gives (before.remember owner head) result) :
    (match head.validate with
      | some node => do
        let done ← Resolve.defer { owner, fieldName := head.name, node, path := head.path }
        next done
      | _ => next ()).Gives before result := by
  unfold Resolution.remember FieldHead.pending at rest
  cases validate : head.validate with
  | none =>
      rw [validate] at rest
      simpa using rest
  | some node =>
      rw [validate] at rest
      exact (Resolve.gives_defer _ before).bind_ok rest

theorem resolveFields_gives_other {node : Node}
    (other : ∀ line entries, node ≠ .mapping line entries) (declaration path : String) (owner : Nat)
    (seen : List (String × String)) (name : String) (rest : Entries) (before : Resolution) :
    (resolveFields declaration path owner seen ((name, node) :: rest)).Gives before
      ((fieldShapes before.table.knows declaration path seen ((name, node) :: rest)).map
        fun fields => (before.fieldsOf fields, before.placeFields owner fields)) := by
  rw [resolveFields.eq_def, fieldShapes.eq_def]
  dsimp only
  split
  · exact Resolve.gives_rejectAt _ _ _ _ _
  · cases seen.lookup (Naming.fieldName name) with
    | some earlier => exact Resolve.gives_rejectAt _ _ _ _ _
    | none =>
        cases node with
        | mapping line entries => exact absurd rfl (other line entries)
        | scalar line value => exact Resolve.gives_rejectAt _ _ _ _ _
        | sequence line items => exact Resolve.gives_rejectAt _ _ _ _ _
        | absent => exact Resolve.gives_rejectAt _ _ _ _ _

/-- Placing a shape without objects changes nothing. -/
theorem Resolution.place_eq_self (before : Resolution) {shape : Shape}
    (noObjects : shape.size = 0) :
    before.place shape = before := by
  have none : shape.objects before.table.number before.table.types.length = [] := by
    rw [← List.length_eq_zero_iff, shape.length_objects, noObjects]
  rw [Resolution.place, none, Shape.pending_eq_nil _ noObjects, SymbolTable.addObjects_nil,
    List.append_nil]

theorem resolveName_eq (table : SymbolTable) (name : String) (pointer : Bool) (location : Location)
    (start : Nat) :
    (table.resolveName name pointer location).mapError Failure.error =
      (nameShape table.knows name pointer location).map (Shape.expr table.number start) := by
  unfold SymbolTable.resolveName SymbolTable.resolvePointer SymbolTable.resolveToken nameShape
    SymbolTable.knows SymbolTable.number fail
  cases pointer with
  | true =>
      by_cases isLocal : isLocalPointer name = true
      · cases found : table.lookup (pointerTarget name) <;>
          simp [isLocal, found, Except.mapError, Except.map, Shape.expr]
      · simp [isLocal, Except.mapError, Except.map]
  | false =>
      cases found : table.lookup name <;> simp [found, Except.mapError, Except.map, Shape.expr]

theorem resolveName_gives (name : String) (pointer : Bool) (location : Location)
    (before : Resolution) :
    (Resolve.ofTable fun table => table.resolveName name pointer location).Gives before
      ((nameShape before.table.knows name pointer location).map fun shape =>
        (before.exprOf shape, before.place shape)) := by
  have looked := Resolve.gives_ofTable (fun table => table.resolveName name pointer location) before
  rw [resolveName_eq before.table name pointer location before.table.types.length] at looked
  cases read : nameShape before.table.knows name pointer location with
  | error failure =>
      rw [read] at looked
      exact looked
  | ok shape =>
      obtain ⟨target, _, rfl⟩ := nameShape_eq_ok read
      rw [read] at looked
      rw [Except.map, before.place_eq_self rfl]
      exact looked

/-- What `resolveArray` does with `items`. -/
theorem resolveArray_eq (declaration path ownerName : String) (entries : Entries) :
    resolveArray declaration path ownerName entries =
      match entries.get? "items" with
      | none => pure (.array .any)
      | some (.scalar _ .null) => pure (.array .any)
      | some (.mapping line items) => do
        return .array (← resolveType declaration (if path.isEmpty then "[]" else s!"{path}[]")
          (ownerName ++ "Item") line items)
      | some node =>
        Resolve.rejectAt node .itemsNotMapping
          { declaration := some declaration, field := pathOrNone path } := by
  rw [resolveArray.eq_def]
  split <;> simp_all

theorem resolveObject_eq (declaration path : String) (owner : Nat) (synthesized : Bool)
    (entries : Entries) :
    resolveObject declaration path owner synthesized entries =
      match entries.get? "properties" with
      | none => pure ()
      | some (.scalar _ .null) => pure ()
      | some (.mapping _ properties) => do
        let fields ← resolveFields declaration path owner [] properties
        Resolve.setBody owner (.object synthesized fields)
      | some node =>
        Resolve.rejectAt node .propertiesNotMapping
          { declaration := some declaration, field := pathOrNone path } := by
  rw [resolveObject.eq_def]
  split <;> simp_all

/-- Both `properties` and `items` can be left out or be null, and must be a mapping otherwise. -/
theorem Resolve.gives_section {α β : Type} {before : Resolution} {place : β → α × Resolution}
    {absent : Resolve α} {readAbsent : Except Failure β} {visit : Int → Entries → Resolve α}
    {readMapping : Int → Entries → Except Failure β} {cause : Cause} {location : Location}
    (found : Option Node) (left : absent.Gives before (readAbsent.map place))
    (visited : ∀ line entries, found = some (.mapping line entries) →
      (visit line entries).Gives before ((readMapping line entries).map place)) :
    (match found with
      | none => absent
      | some (.scalar _ .null) => absent
      | some (.mapping line entries) => visit line entries
      | some node => Resolve.rejectAt node cause location).Gives before
    ((match found with
      | none => readAbsent
      | some (.scalar _ .null) => readAbsent
      | some (.mapping line entries) => readMapping line entries
      | some node => failAt node cause location).map place) := by
  match found with
  | none => exact left
  | some (.scalar _ .null) => exact left
  | some (.mapping line entries) => exact visited line entries rfl
  | some (.sequence _ _) => exact Resolve.gives_rejectAt _ _ _ _ _
  | some .absent => exact Resolve.gives_rejectAt _ _ _ _ _
  | some (.scalar _ (.bool _)) => exact Resolve.gives_rejectAt _ _ _ _ _
  | some (.scalar _ (.int _)) => exact Resolve.gives_rejectAt _ _ _ _ _
  | some (.scalar _ (.float _)) => exact Resolve.gives_rejectAt _ _ _ _ _
  | some (.scalar _ (.text _)) => exact Resolve.gives_rejectAt _ _ _ _ _

/-- Filling in no fields changes nothing. -/
theorem Resolution.fill_nil {before : Resolution} {owner : Nat} {synthesized : Bool}
    (empty : (before.table.types[owner]?).map (·.body) = some (.object synthesized [])) :
    before.fill owner synthesized .nil = before := by
  have none : before.fieldsOf .nil = [] := by
    rw [Resolution.fieldsOf, FieldShapes.fields]
  rw [Resolution.fill, before.placeFields_nil, none, SymbolTable.setBody_self empty]

/-- Registering an object without a name and filling it in is placing it. -/
theorem Resolution.fill_addObject (before : Resolution) (baseName : String) (fields : FieldShapes) :
    { before with table := before.table.addObject baseName [] }.fill before.table.types.length
      true fields =
      before.place (.inline baseName fields) := by
  have number : (before.table.addObject baseName []).number = before.table.number :=
    SymbolTable.number_congr rfl
  simp only [Resolution.fill, Resolution.placeFields, Resolution.fieldsOf, Resolution.place,
    Shape.objects, Shape.pending, number, SymbolTable.length_addObject, SymbolTable.addObjects_cons]
  -- names are chosen without regard to bodies, so the object can be filled in before its own
  -- objects come
  rw [← SymbolTable.addObjects_setBody (by simp), SymbolTable.setBody_addObject]

mutual

theorem resolveObject_gives (declaration path : String) (owner : Nat) (synthesized : Bool)
    (entries : Entries) (before : Resolution)
    (empty : (before.table.types[owner]?).map (·.body) = some (.object synthesized [])) :
    (resolveObject declaration path owner synthesized entries).Gives before
      ((objectShape before.table.knows declaration path entries).map fun fields =>
        ((), before.fill owner synthesized fields)) := by
  rw [resolveObject_eq, objectShape_eq]
  refine Resolve.gives_section _ ?_ fun line properties found => ?_
  · intro log
    show Except.ok _ = Except.ok ((), before.fill owner synthesized .nil)
    rw [Resolution.fill_nil empty]
  · have read := resolveFields_gives declaration path owner [] properties before
    exact Resolve.Gives.bind_map read fun fields => Resolve.gives_setBody _ _ _
termination_by 2 * sizeOf entries
decreasing_by
  have smaller := Entries.sizeOf_lt_of_get? found
  simp only [Node.mapping.sizeOf_spec] at smaller ⊢
  omega

theorem resolveFields_gives (declaration path : String) (owner : Nat)
    (seen : List (String × String)) (properties : Entries) (before : Resolution) :
    (resolveFields declaration path owner seen properties).Gives before
      ((fieldShapes before.table.knows declaration path seen properties).map fun fields =>
        (before.fieldsOf fields, before.placeFields owner fields)) := by
  match properties with
  | [] =>
      rw [resolveFields, fieldShapes, Except.map, before.placeFields_nil]
      exact Resolve.gives_pure _ _
  | (name, .mapping line entries) :: rest =>
      rw [resolveFields, fieldShapes]
      by_cases usable : (Naming.fieldName name).isEmpty = true
      · rw [if_pos usable, if_pos usable]
        exact Resolve.gives_rejectAt _ _ _ _ _
      rw [if_neg usable, if_neg usable]
      cases earlier : seen.lookup (Naming.fieldName name) with
      | some other => exact Resolve.gives_rejectAt _ _ _ _ _
      | none =>
          refine Resolve.Gives.bind (Resolve.gives_ofExcept _ _) fun required _ => ?_
          refine Resolve.Gives.bind (resolveType_gives _ _ _ _ _ _) fun shape _ => ?_
          let head : FieldHead :=
            { name := Naming.fieldName name, sourceName := name, required
              validate := Entries.get? entries "validate"
              path := { declaration, field := fieldPath path name } }
          refine Resolve.gives_remember owner head ?_
          have tail :=
            resolveFields_gives declaration path owner (seen ++ [(Naming.fieldName name, name)])
            rest ((before.place shape).remember owner head)
          -- placing a type declares nothing, so the fields behind it see the same names
          have known : ((before.place shape).remember owner head).table.knows =
              before.table.knows :=
            before.knows_place shape
          rw [known] at tail
          refine Resolve.Gives.bind tail fun fields _ => ?_
          intro log
          show Except.ok _ = Except.ok (before.fieldsOf (.cons head shape fields),
            before.placeFields owner (.cons head shape fields))
          rw [before.fieldsOf_cons owner, before.placeFields_cons]
          rfl
  | (name, .scalar line value) :: rest =>
      exact resolveFields_gives_other (by simp) declaration path owner seen name rest before
  | (name, .sequence line items) :: rest =>
      exact resolveFields_gives_other (by simp) declaration path owner seen name rest before
  | (name, .absent) :: rest =>
      exact resolveFields_gives_other (by simp) declaration path owner seen name rest before
termination_by 2 * sizeOf properties

theorem resolveType_gives (declaration path baseName : String) (line : Int) (entries : Entries)
    (before : Resolution) :
    (resolveType declaration path baseName line entries).Gives before
      ((typeShape before.table.knows declaration path baseName line entries).map fun shape =>
        (before.exprOf shape, before.place shape)) := by
  rw [resolveType, typeShape]
  cases reference : entries.get? "$ref" with
  | some node =>
      exact Resolve.Gives.bind (Resolve.gives_ofExcept _ _) fun reference _ =>
        resolveName_gives reference true _ before
  | none =>
      dsimp only
      split
      · -- the type of the object is registered before its fields are resolved
        refine (Resolve.gives_synthesize baseName declaration path before).bind_ok ?_
        have empty : ((before.table.addObject baseName []).types[before.table.types.length]?).map
            (·.body) =
            some (.object true []) := by
          simp [SymbolTable.addObject, SymbolTable.push]
        have filled := resolveObject_gives declaration path before.table.types.length true entries
          { before with table := before.table.addObject baseName [] } empty
        have known : (before.table.addObject baseName []).knows = before.table.knows :=
          SymbolTable.knows_congr rfl
        rw [known] at filled
        rw [map_map]
        refine Resolve.Gives.bind_map filled fun fields => ?_
        rw [before.fill_addObject baseName fields]
        exact Resolve.gives_pure _ _
      split
      · exact resolveArray_gives _ _ _ _ _
      cases scalar : (entries.scalar "type").text?.bind ScalarKind.ofToken? with
      | some kind =>
          rw [Except.map, before.place_eq_self rfl]
          exact Resolve.gives_pure _ _
      | none =>
          dsimp only
          split
          · exact resolveName_gives _ false _ before
          split
          · exact fun _ => rfl
          · refine Resolve.Gives.bind (Resolve.gives_ofExcept _ _) fun shown _ => ?_
            exact fun _ => rfl
termination_by 2 * sizeOf entries + 1

theorem resolveArray_gives (declaration path ownerName : String) (entries : Entries)
    (before : Resolution) :
    (resolveArray declaration path ownerName entries).Gives before
      ((arrayShape before.table.knows declaration path ownerName entries).map fun shape =>
        (before.exprOf shape, before.place shape)) := by
  rw [resolveArray_eq, arrayShape_eq]
  refine Resolve.gives_section _ ?_ fun line items found => ?_
  · rw [Except.map, before.place_eq_self rfl]
    exact Resolve.gives_pure _ _
  · have read := resolveType_gives declaration (if path.isEmpty then "[]" else s!"{path}[]")
      (ownerName ++ "Item") line items before
    rw [map_map]
    exact Resolve.Gives.bind_map read fun items => Resolve.gives_pure _ _
termination_by 2 * sizeOf entries
decreasing_by
  have smaller := Entries.sizeOf_lt_of_get? found
  simp only [Node.mapping.sizeOf_spec] at smaller ⊢
  omega

end

end SchemaCompiler.Schema
