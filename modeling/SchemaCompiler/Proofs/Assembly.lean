import SchemaCompiler.Proofs.Declaration

/-!
# The types of a section

The types of a section are the declared ones, in order, and behind them those for the objects
without a name (`assemble`). If all declarations are sound, the types are closed: whatever a field
or an alias uses is resolved and is one of them, and no two have the same name.
-/

namespace SchemaCompiler.Schema

/-! ## Closed types -/

/-- Types in which, inside all arrays, nothing is missing or unresolved and every named type is one
of the first `count`. -/
def TypeExpr.Closed (count : Nat) : TypeExpr → Prop
  | .scalar _ => True
  | .any => True
  | .array items => items.Closed count
  | .named id => id < count
  | .unresolved _ _ => False
  | .missing => False

/-- Named types that have a name each, all of them different, and use closed types only. -/
structure ClosedTypes (count : Nat) (types : List NamedType) : Prop where
  named : ∀ type ∈ types, type.name ≠ ""
  distinct : (types.map (·.name)).Nodup
  closed : ∀ type ∈ types, ∀ use ∈ type.uses, use.2.Closed count

/-- Graphs whose types use each other and nothing else. -/
def TypeGraph.Closed (graph : TypeGraph) : Prop := ClosedTypes graph.types.length graph.types

theorem TypeExpr.Closed.unresolvedLeaf? {count : Nat} {type : TypeExpr}
    (closed : type.Closed count) :
    TypeGraph.unresolvedLeaf? type = none := by
  induction type with
  | scalar kind => rfl
  | any => rfl
  | array items ih => exact ih closed
  | named id => rfl
  | unresolved name pointer => cases closed
  | missing => cases closed

/-- There is nothing left to find fault with in a closed graph. -/
theorem TypeGraph.Closed.verify {graph : TypeGraph} (closed : graph.Closed) :
    graph.verify = .ok () := by
  have none : graph.unresolved = [] := by
    rw [TypeGraph.unresolved, List.flatMap_eq_nil_iff]
    intro type member
    rw [List.filterMap_eq_nil_iff]
    rintro ⟨field, used⟩ isUse
    have isClosed : used.Closed graph.types.length := ClosedTypes.closed closed type member _ isUse
    show (TypeGraph.unresolvedLeaf? used).map _ = none
    rw [isClosed.unresolvedLeaf?, Option.map_none]
  rw [TypeGraph.verify, none]

variable {known : String → Bool} {number : String → Nat} {count start : Nat}

theorem Shape.expr_closed (numbered : ∀ name, known name = true → number name < count)
    (shape : Shape) (sound : shape.Sound known) (fits : start + shape.size ≤ count) :
    (shape.expr number start).Closed count := by
  match shape with
  | .scalar _ => trivial
  | .any => trivial
  | .array items => exact Shape.expr_closed numbered items sound fits
  | .declared name => exact numbered name sound
  | .inline baseName fields =>
      rw [Shape.size] at fits
      show start < count
      omega

theorem FieldShapes.fields_closed {start : Nat}
    (numbered : ∀ name, known name = true → number name < count) (fields : FieldShapes)
    (sound : fields.Sound known) (fits : start + fields.size ≤ count) :
    ∀ field ∈ fields.fields number start, field.type.Closed count := by
  match fields with
  | .nil => simp [FieldShapes.fields]
  | .cons head type rest =>
      rw [FieldShapes.size] at fits
      rw [FieldShapes.fields, List.forall_mem_cons]
      exact ⟨type.expr_closed numbered sound.1 (by omega),
        FieldShapes.fields_closed numbered rest sound.2.1 (by omega)⟩

/-- Objects without a name that can be named, and whose fields have closed types. -/
def ClosedObject (count : Nat) (object : String × List Field) : Prop :=
  Naming.typeName object.1 ≠ "" ∧ ∀ field ∈ object.2, field.type.Closed count

mutual

theorem Shape.objects_closed {start : Nat}
    (numbered : ∀ name, known name = true → number name < count) (shape : Shape)
    (sound : shape.Sound known) (fits : start + shape.size ≤ count) :
    ∀ object ∈ shape.objects number start, ClosedObject count object := by
  match shape with
  | .scalar _ => simp [Shape.objects]
  | .any => simp [Shape.objects]
  | .declared _ => simp [Shape.objects]
  | .array items => exact Shape.objects_closed numbered items sound fits
  | .inline baseName fields =>
      rw [Shape.size] at fits
      rw [Shape.objects, List.forall_mem_cons]
      exact ⟨⟨sound.1, fields.fields_closed numbered sound.2 (by omega)⟩,
        FieldShapes.objects_closed numbered fields sound.2 (by omega)⟩

theorem FieldShapes.objects_closed {start : Nat}
    (numbered : ∀ name, known name = true → number name < count)
    (fields : FieldShapes) (sound : fields.Sound known) (fits : start + fields.size ≤ count) :
    ∀ object ∈ fields.objects number start, ClosedObject count object := by
  match fields with
  | .nil => simp [FieldShapes.objects]
  | .cons head type rest =>
      rw [FieldShapes.size] at fits
      rw [FieldShapes.objects, List.forall_mem_append]
      exact ⟨Shape.objects_closed numbered type sound.1 (by omega),
        FieldShapes.objects_closed numbered rest sound.2.1 (by omega)⟩

end

namespace DeclarationShape

theorem uses_closed (numbered : ∀ name, known name = true → number name < count)
    {shape : DeclarationShape} (sound : shape.Sound known) (fits : start + shape.size ≤ count)
    (name sourceName : String) :
    ∀ use ∈ NamedType.uses { name, sourceName, body := shape.body number start },
      use.2.Closed count := by
  cases shape with
  | object fields =>
      simp only [NamedType.uses, body, List.forall_mem_map]
      exact fields.fields_closed numbered sound fits
  | enumeration values => simp [NamedType.uses, body]
  | aliasOf target =>
      simp only [NamedType.uses, body, List.forall_mem_singleton]
      exact target.expr_closed numbered sound fits

theorem objects_closed (numbered : ∀ name, known name = true → number name < count)
    {shape : DeclarationShape} (sound : shape.Sound known) (fits : start + shape.size ≤ count) :
    ∀ object ∈ shape.objects number start, ClosedObject count object := by
  cases shape with
  | object fields => exact fields.objects_closed numbered sound fits
  | enumeration values => simp [objects]
  | aliasOf target => exact target.objects_closed numbered sound fits

end DeclarationShape

/-! ## Sections -/

/-- The number of objects without a name in a section. -/
def sectionSize : List (String × DeclarationShape) → Nat
  | [] => 0
  | (_, shape) :: rest => shape.size + sectionSize rest

theorem length_sectionObjects (number : String → Nat) (start : Nat)
    (shapes : List (String × DeclarationShape)) :
    (sectionObjects number start shapes).length = sectionSize shapes := by
  induction shapes generalizing start with
  | nil => rfl
  | cons shape rest ih =>
      simp [sectionObjects, sectionSize, ih, DeclarationShape.length_objects]

theorem map_name_declaredTypes (number : String → Nat) (start : Nat)
    (shapes : List (String × DeclarationShape)) :
    (declaredTypes number start shapes).map (·.name) = (shapes.map (·.1)).map Naming.typeName := by
  induction shapes generalizing start with
  | nil => rfl
  | cons shape rest ih => simp [declaredTypes, ih]

theorem length_declaredTypes (number : String → Nat) (start : Nat)
    (shapes : List (String × DeclarationShape)) :
    (declaredTypes number start shapes).length = shapes.length := by
  simpa using congrArg List.length (map_name_declaredTypes number start shapes)

theorem declaredTypes_append (number : String → Nat) (start : Nat)
    (left right : List (String × DeclarationShape)) :
    declaredTypes number start (left ++ right) =
      declaredTypes number start left ++ declaredTypes number (start + sectionSize left) right := by
  induction left generalizing start with
  | nil => rfl
  | cons shape rest ih =>
      simp only [List.cons_append, declaredTypes, ih, sectionSize, Nat.add_assoc]

theorem sectionObjects_append (number : String → Nat) (start : Nat)
    (left right : List (String × DeclarationShape)) :
    sectionObjects number start (left ++ right) =
      sectionObjects number start left ++
        sectionObjects number (start + sectionSize left) right := by
  induction left generalizing start with
  | nil => rfl
  | cons shape rest ih =>
      simp only [List.cons_append, sectionObjects, ih, sectionSize, Nat.add_assoc,
        List.append_assoc]

theorem getElem?_sectionObjects (number : String → Nat) (start : Nat)
    (before after : List (String × DeclarationShape)) (name : String) {shape : DeclarationShape}
    {index : Nat} (lt : index < shape.size) :
    (sectionObjects number start (before ++ (name, shape) :: after))[sectionSize before + index]? =
      (shape.objects number (start + sectionSize before))[index]? := by
  rw [sectionObjects_append, List.getElem?_append_right (by simp [length_sectionObjects]),
    length_sectionObjects, Nat.add_sub_cancel_left, sectionObjects,
    List.getElem?_append_left (by rwa [shape.length_objects])]

theorem getElem?_declaredTypes (number : String → Nat) (start : Nat)
    (before after : List (String × DeclarationShape)) (name : String) (shape : DeclarationShape) :
    (declaredTypes number start (before ++ (name, shape) :: after))[before.length]? = some
      { name := Naming.typeName name
        sourceName := name
        body := shape.body number (start + sectionSize before) } := by
  rw [declaredTypes_append, List.getElem?_append_right (by simp [length_declaredTypes]),
    length_declaredTypes, Nat.sub_self]
  rfl

theorem declaredTypes_uses_closed (numbered : ∀ name, known name = true → number name < count)
    {shapes : List (String × DeclarationShape)} (sound : ∀ shape ∈ shapes, shape.2.Sound known)
    (fits : start + sectionSize shapes ≤ count) :
    ∀ type ∈ declaredTypes number start shapes, ∀ use ∈ type.uses, use.2.Closed count := by
  induction shapes generalizing start with
  | nil => simp [declaredTypes]
  | cons shape rest ih =>
      rw [sectionSize] at fits
      rw [List.forall_mem_cons] at sound
      rw [declaredTypes, List.forall_mem_cons]
      refine ⟨DeclarationShape.uses_closed numbered sound.1 (by omega) _ _, ih sound.2 (by omega)⟩

theorem sectionObjects_closed (numbered : ∀ name, known name = true → number name < count)
    {shapes : List (String × DeclarationShape)} (sound : ∀ shape ∈ shapes, shape.2.Sound known)
    (fits : start + sectionSize shapes ≤ count) :
    ∀ object ∈ sectionObjects number start shapes, ClosedObject count object := by
  induction shapes generalizing start with
  | nil => simp [sectionObjects]
  | cons shape rest ih =>
      rw [sectionSize] at fits
      rw [List.forall_mem_cons] at sound
      rw [sectionObjects, List.forall_mem_append]
      refine ⟨DeclarationShape.objects_closed numbered sound.1 (by omega), ih sound.2 (by omega)⟩

/-! ## Adding types for objects -/

/-- A type for an object without a name gets a name of its own. -/
theorem ClosedTypes.addObject {table : SymbolTable} {object : String × List Field}
    (types : ClosedTypes count table.types) (isClosed : ClosedObject count object) :
    ClosedTypes count (table.addObject object.1 object.2).types where
  named := by
    intro type member
    rcases List.mem_append.mp member with old | new
    · exact types.named type old
    · rw [List.mem_singleton.mp new]
      exact table.uniqueName_ne_empty isClosed.1
  distinct := by
    have free := SymbolTable.isFree_iff.mp (table.uniqueName_isFree (Naming.typeName object.1))
    have added : (table.names.concat _).Nodup := types.distinct.concat free
    simpa [SymbolTable.addObject, SymbolTable.push, SymbolTable.names] using added
  closed := by
    intro type member
    rcases List.mem_append.mp member with old | new
    · exact types.closed type old
    · rw [List.mem_singleton.mp new]
      simpa [NamedType.uses] using isClosed.2

theorem ClosedTypes.addObjects {table : SymbolTable} {objects : List (String × List Field)}
    (types : ClosedTypes count table.types)
    (areClosed : ∀ object ∈ objects, ClosedObject count object) :
    ClosedTypes count (table.addObjects objects).types := by
  induction objects generalizing table with
  | nil => exact types
  | cons object rest ih =>
      rw [List.forall_mem_cons] at areClosed
      exact ih (types.addObject areClosed.1) areClosed.2

/-! ## Assembling a section -/

/-- The table of all types of a section. -/
def assemble (shapes : List (String × DeclarationShape)) : SymbolTable :=
  let directory := SymbolTable.directory (shapes.map (·.1))
  { directory with types := declaredTypes directory.number shapes.length shapes }.addObjects
    (sectionObjects directory.number shapes.length shapes)

theorem length_assemble (shapes : List (String × DeclarationShape)) :
    (assemble shapes).types.length = shapes.length + sectionSize shapes := by
  simp [assemble, length_declaredTypes, length_sectionObjects]

theorem eq_append_of_getElem? {α : Type} {items : List α} {index : Nat} {item : α}
    (here : items[index]? = some item) :
    ∃ before after, items = before ++ item :: after ∧ before.length = index := by
  obtain ⟨lt, rfl⟩ := List.getElem?_eq_some_iff.mp here
  refine ⟨items.take index, items.drop (index + 1), ?_, by rw [List.length_take]; omega⟩
  rw [List.getElem_cons_drop, List.take_append_drop]

/-- Declared types stand in the order of their declarations. -/
theorem getElem?_assemble_declared {shapes before after : List (String × DeclarationShape)}
    {name : String} {shape : DeclarationShape} (parts : shapes = before ++ (name, shape) :: after) :
    (assemble shapes).types[before.length]? = some
      { name := Naming.typeName name
        sourceName := name
        body := shape.body (SymbolTable.directory (shapes.map (·.1))).number
          (shapes.length + sectionSize before) } := by
  unfold assemble
  rw [SymbolTable.getElem?_addObjects]
  · subst parts
    exact getElem?_declaredTypes ..
  · show before.length < (declaredTypes _ shapes.length shapes).length
    rw [length_declaredTypes, parts]
    simp

/-- Types for objects without a name stand behind the declared types, in the order of the
declarations that the objects stand in. -/
theorem getElem?_assemble_object {shapes before after : List (String × DeclarationShape)}
    {name : String} {shape : DeclarationShape} (parts : shapes = before ++ (name, shape) :: after)
    {index : Nat} {object : String × List Field}
    (here : (shape.objects (SymbolTable.directory (shapes.map (·.1))).number
      (shapes.length + sectionSize before))[index]? = some object) :
    ∃ typeName, (assemble shapes).types[shapes.length + sectionSize before + index]? =
      some { name := typeName, sourceName := object.1, body := .object true object.2 } := by
  subst parts
  have lt := (List.getElem?_eq_some_iff.mp here).1
  rw [shape.length_objects] at lt
  rw [← getElem?_sectionObjects _ _ before after name lt] at here
  have found := SymbolTable.getElem?_addObjects_length_add
    { SymbolTable.directory ((before ++ (name, shape) :: after).map (·.1)) with
      types :=
        declaredTypes (SymbolTable.directory ((before ++ (name, shape) :: after).map (·.1))).number
        (before ++ (name, shape) :: after).length (before ++ (name, shape) :: after) } here
  rw [length_declaredTypes, ← Nat.add_assoc] at found
  exact found

/-- The types of a section of sound declarations are closed. -/
theorem assemble_closed {shapes : List (String × DeclarationShape)}
    (distinct : (shapes.map (·.1)).Nodup) (named : ∀ shape ∈ shapes, Naming.typeName shape.1 ≠ "")
    (apart : ((shapes.map (·.1)).map Naming.typeName).Nodup)
    (sound : ∀ shape ∈ shapes, shape.2.Sound (SymbolTable.directory (shapes.map (·.1))).knows) :
    ClosedTypes (assemble shapes).types.length (assemble shapes).types := by
  rw [length_assemble]
  have numbered : ∀ name, (SymbolTable.directory (shapes.map (·.1))).knows name = true →
      (SymbolTable.directory (shapes.map (·.1))).number name < shapes.length +
        sectionSize shapes := by
    intro name isKnown
    have lt := SymbolTable.number_lt_of_knows distinct isKnown
    rw [List.length_map] at lt
    omega
  refine ClosedTypes.addObjects ⟨?_, ?_, ?_⟩ (sectionObjects_closed numbered sound (Nat.le_refl _))
  · intro type member
    have listed : type.name ∈ (shapes.map (·.1)).map Naming.typeName := by
      rw [← map_name_declaredTypes]
      exact List.mem_map_of_mem member
    rw [List.map_map] at listed
    obtain ⟨shape, isShape, same⟩ := List.mem_map.mp listed
    rw [← same]
    exact named shape isShape
  · rw [map_name_declaredTypes]
    exact apart
  · exact declaredTypes_uses_closed numbered sound (Nat.le_refl _)

end SchemaCompiler.Schema
