import Mathlib.Data.List.Perm.Basic
import Mathlib.Data.Set.Function
import SchemaCompiler.Proofs.Analysis

/-!
# The order of declarations

Two sections with the same declarations in another order are accepted or rejected together, and
their graphs differ in the numbers of the types and in the names of the types for objects without a
name only. Every type has a *place* that does not depend on the order: the declaration it stands in,
and its number among the objects without a name there. Placing a shape in two sections gives types
that differ by the renumbering from the places of the one to those of the other (`body_renumber`).
-/

namespace SchemaCompiler.Schema

open Document (Entries)

/-! ## Renumbering -/

/-- The type with other numbers for named types. -/
def TypeExpr.renumber (rename : Nat → Nat) : TypeExpr → TypeExpr
  | .array items => .array (items.renumber rename)
  | .named id => .named (rename id)
  | type => type

/-- The field with other numbers for named types. -/
def Field.renumber (rename : Nat → Nat) (field : Field) : Field :=
  { field with type := field.type.renumber rename }

/-- The body with other numbers for named types. -/
def Body.renumber (rename : Nat → Nat) : Body → Body
  | .object synthesized fields => .object synthesized (fields.map (Field.renumber rename))
  | .enumeration values => .enumeration values
  | .aliasOf target => .aliasOf (target.renumber rename)

/-- Was the type made from an object without a name? -/
def NamedType.isSynthesized (type : NamedType) : Bool :=
  match type.body with
  | .object synthesized _ => synthesized
  | _ => false

theorem TypeExpr.leafId?_renumber (rename : Nat → Nat) (type : TypeExpr) :
    (type.renumber rename).leafId? = type.leafId?.map rename := by
  induction type with
  | array items ih => exact ih
  | scalar kind | any | named id | unresolved name pointer | missing => rfl

/-- A block of numbers that is moved as a whole. -/
def Moves (rename : Nat → Nat) (start start' count : Nat) : Prop :=
  ∀ k < count, rename (start + k) = start' + k

theorem Moves.left {rename : Nat → Nat} {start start' first second : Nat}
    (moves : Moves rename start start' (first + second)) : Moves rename start start' first := by
  intro k lt
  exact moves k (by omega)

theorem Moves.right {rename : Nat → Nat} {start start' first second : Nat}
    (moves : Moves rename start start' (first + second)) :
    Moves rename (start + first) (start' + first) second := by
  intro k lt
  rw [Nat.add_assoc, Nat.add_assoc]
  exact moves (first + k) (by omega)

section Renumber

variable {known : String → Bool} {number number' : String → Nat} {rename : Nat → Nat}

theorem Shape.expr_renumber {start start' : Nat}
    (declared : ∀ name, known name = true → rename (number name) = number' name) (shape : Shape)
    (sound : shape.Sound known) (moves : Moves rename start start' shape.size) :
    (shape.expr number start).renumber rename = shape.expr number' start' := by
  match shape with
  | .scalar _ => rfl
  | .any => rfl
  | .array items =>
      exact congrArg TypeExpr.array (Shape.expr_renumber declared items sound moves)
  | .declared name => exact congrArg TypeExpr.named (declared name sound)
  | .inline baseName fields => exact congrArg TypeExpr.named (moves 0 (Nat.succ_pos _))

theorem FieldShapes.fields_renumber {start start' : Nat}
    (declared : ∀ name, known name = true → rename (number name) = number' name)
    (fields : FieldShapes) (sound : fields.Sound known)
    (moves : Moves rename start start' fields.size) :
    (fields.fields number start).map (Field.renumber rename) = fields.fields number' start' := by
  match fields with
  | .nil => rfl
  | .cons head type rest =>
      rw [FieldShapes.fields, FieldShapes.fields, List.map_cons,
        FieldShapes.fields_renumber declared rest sound.2.1 moves.right,
        ← type.expr_renumber declared sound.1 moves.left]
      rfl

/-- An object without a name with other numbers in its fields. -/
def renumberObject (rename : Nat → Nat) (object : String × List Field) : String × List Field :=
  (object.1, object.2.map (Field.renumber rename))

mutual

theorem Shape.objects_renumber {start start' : Nat}
    (declared : ∀ name, known name = true → rename (number name) = number' name) (shape : Shape)
    (sound : shape.Sound known) (moves : Moves rename start start' shape.size) :
    (shape.objects number start).map (renumberObject rename) = shape.objects number' start' := by
  match shape with
  | .scalar _ => rfl
  | .any => rfl
  | .declared _ => rfl
  | .array items => exact Shape.objects_renumber declared items sound moves
  | .inline baseName fields =>
      rw [Shape.size, Nat.add_comm] at moves
      rw [Shape.objects, Shape.objects, List.map_cons, renumberObject,
        fields.fields_renumber declared sound.2 moves.right,
        FieldShapes.objects_renumber declared fields sound.2 moves.right]

theorem FieldShapes.objects_renumber {start start' : Nat}
    (declared : ∀ name, known name = true → rename (number name) = number' name)
    (fields : FieldShapes) (sound : fields.Sound known)
    (moves : Moves rename start start' fields.size) :
    (fields.objects number start).map (renumberObject rename) = fields.objects number' start' := by
  match fields with
  | .nil => rfl
  | .cons head type rest =>
      rw [FieldShapes.objects, FieldShapes.objects, List.map_append,
        Shape.objects_renumber declared type sound.1 moves.left,
        FieldShapes.objects_renumber declared rest sound.2.1 moves.right]

end

namespace DeclarationShape

theorem body_renumber {start start' : Nat}
    (declared : ∀ name, known name = true → rename (number name) = number' name)
    {shape : DeclarationShape} (sound : shape.Sound known)
    (moves : Moves rename start start' shape.size) :
    (shape.body number start).renumber rename = shape.body number' start' := by
  cases shape with
  | object fields =>
      exact congrArg (Body.object false) (fields.fields_renumber declared sound moves)
  | enumeration values => rfl
  | aliasOf target => exact congrArg Body.aliasOf (target.expr_renumber declared sound moves)

theorem objects_renumber {start start' : Nat}
    (declared : ∀ name, known name = true → rename (number name) = number' name)
    {shape : DeclarationShape} (sound : shape.Sound known)
    (moves : Moves rename start start' shape.size) :
    (shape.objects number start).map (renumberObject rename) = shape.objects number' start' := by
  cases shape with
  | object fields => exact fields.objects_renumber declared sound moves
  | enumeration values => rfl
  | aliasOf target => exact target.objects_renumber declared sound moves

end DeclarationShape

end Renumber

/-! ## Places -/

/-- Where the types of a section come from, in order: from a declaration, or from an object without
a name in it, given by its number among those of the declaration. -/
def places (shapes : List (String × DeclarationShape)) : List (String × Option Nat) :=
  shapes.map (fun shape => (shape.1, none)) ++
    shapes.flatMap fun shape => (List.range shape.2.size).map fun index => (shape.1, some index)

variable {shapes shapes' before after : List (String × DeclarationShape)} {name : String}
  {shape : DeclarationShape}

theorem length_objectPlaces (shapes : List (String × DeclarationShape)) :
    (shapes.flatMap fun shape =>
      (List.range shape.2.size).map fun index => (shape.1, some index)).length =
        sectionSize shapes := by
  induction shapes with
  | nil => rfl
  | cons shape rest ih => simp [List.flatMap_cons, sectionSize, ih]

theorem length_places (shapes : List (String × DeclarationShape)) :
    (places shapes).length = (assemble shapes).types.length := by
  rw [places, List.length_append, List.length_map, length_objectPlaces, length_assemble]

theorem places_perm (permuted : shapes.Perm shapes') : (places shapes).Perm (places shapes') :=
  (permuted.map _).append (permuted.flatMap_right _)

/-- Different types come from different places. -/
theorem nodup_places (distinct : (shapes.map (·.1)).Nodup) : (places shapes).Nodup := by
  have apart : shapes.Pairwise fun left right => left.1 ≠ right.1 := List.pairwise_map.mp distinct
  rw [places, List.nodup_append]
  refine ⟨?_, ?_, ?_⟩
  · rw [List.Nodup, List.pairwise_map]
    exact apart.imp fun ne same => ne (Prod.mk.inj same).1
  · rw [List.nodup_flatMap]
    constructor
    · intro shape _
      refine List.nodup_range.map ?_
      intro left right same
      exact Option.some.inj (Prod.mk.inj same).2
    · refine apart.imp ?_
      intro left right ne place inLeft inRight
      obtain ⟨_, _, rfl⟩ := List.mem_map.mp inLeft
      obtain ⟨_, _, same⟩ := List.mem_map.mp inRight
      exact ne (Prod.mk.inj same).1.symm
  · intro place declared other object same
    obtain ⟨_, _, rfl⟩ := List.mem_map.mp declared
    obtain ⟨_, _, object⟩ := List.mem_flatMap.mp object
    obtain ⟨_, _, rfl⟩ := List.mem_map.mp object
    cases (Prod.mk.inj same).2

theorem getElem?_places_declared (parts : shapes = before ++ (name, shape) :: after) :
    (places shapes)[before.length]? = some (name, none) := by
  subst parts
  simp [places]

theorem getElem?_places_object (parts : shapes = before ++ (name, shape) :: after) {index : Nat}
    (lt : index < shape.size) :
    (places shapes)[shapes.length + sectionSize before + index]? = some (name, some index) := by
  subst parts
  rw [places, Nat.add_assoc, List.getElem?_append_right (by simp), List.length_map,
    Nat.add_sub_cancel_left, List.flatMap_append,
    List.getElem?_append_right (by rw [length_objectPlaces]; omega), length_objectPlaces,
    Nat.add_sub_cancel_left, List.flatMap_cons, List.getElem?_append_left (by simpa using lt)]
  simp [lt]

/-- Every object without a name stands in a declaration. -/
theorem exists_block {offset : Nat} (lt : offset < sectionSize shapes) :
    ∃ before name shape after, shapes = before ++ (name, shape) :: after ∧
      ∃ index < shape.size, offset = sectionSize before + index := by
  induction shapes generalizing offset with
  | nil => cases lt
  | cons first rest ih =>
      obtain ⟨name, shape⟩ := first
      rcases Nat.lt_or_ge offset shape.size with inFirst | later
      · exact ⟨[], name, shape, rest, rfl, offset, inFirst, (Nat.zero_add offset).symm⟩
      · have lt : offset - shape.size < sectionSize rest := by
          rw [sectionSize] at lt
          omega
        obtain ⟨before, name', shape', after, parts, index, inside, same⟩ := ih lt
        refine ⟨(name, shape) :: before, name', shape',
          after, by rw [parts]; rfl, index, inside, ?_⟩
        rw [sectionSize]
        omega

/-- Every number is that of a declaration or of an object without a name in one. -/
theorem exists_place {id : Nat} (lt : id < (assemble shapes).types.length) :
    ∃ before name shape after, shapes = before ++ (name, shape) :: after ∧
      (id = before.length ∨
        ∃ index < shape.size, id = shapes.length + sectionSize before + index) := by
  rw [length_assemble] at lt
  rcases Nat.lt_or_ge id shapes.length with declared | object
  · obtain ⟨before, after, parts, rfl⟩ := eq_append_of_getElem? (List.getElem?_eq_getElem declared)
    exact ⟨before, _, _, after, parts, .inl rfl⟩
  · have inObjects : id - shapes.length < sectionSize shapes := by omega
    obtain ⟨before, name, shape, after, parts, index, inside, same⟩ := exists_block inObjects
    exact ⟨before, name, shape, after, parts, .inr ⟨index, inside, by omega⟩⟩

/-- The number in one section of the type that has a number in another. -/
def relocate (shapes shapes' : List (String × DeclarationShape)) (id : Nat) : Nat :=
  (places shapes').idxOf ((places shapes).getD id ("", none))

theorem relocate_eq (distinct : (shapes'.map (·.1)).Nodup) {place : String × Option Nat}
    {id id' : Nat} (here : (places shapes)[id]? = some place)
    (there : (places shapes')[id']? = some place) :
    relocate shapes shapes' id = id' := by
  obtain ⟨lt, rfl⟩ := List.getElem?_eq_some_iff.mp there
  rw [relocate, List.getD_eq_getElem?_getD, here, Option.getD_some]
  exact (nodup_places distinct).idxOf_getElem id' lt

/-! ## Two orders -/

/-- Two graphs with the same types up to their order and the names of types for objects without a
name: the numbers of the one correspond to those of the other, and the types with corresponding
numbers have the same name in the document and the same body, and declared ones the same name in
generated code. -/
def TypeGraph.SameUpToOrder (left right : TypeGraph) : Prop :=
  ∃ rename, Set.BijOn rename { id | id < left.types.length } { id | id < right.types.length } ∧
    ∀ id type, left.types[id]? = some type → ∃ other, right.types[rename id]? = some other ∧
      other.sourceName = type.sourceName ∧ other.body = type.body.renumber rename ∧
      (type.isSynthesized = false → other.name = type.name)

/-- The sections agree: they say the same, in another order. -/
structure SameDeclarations (shapes shapes' : List (String × DeclarationShape)) : Prop where
  permuted : shapes.Perm shapes'
  distinct : (shapes.map (·.1)).Nodup
  sound : ∀ shape ∈ shapes, shape.2.Sound (SymbolTable.directory (shapes.map (·.1))).knows

theorem SameDeclarations.distinct' (same : SameDeclarations shapes shapes') :
    (shapes'.map (·.1)).Nodup := (same.permuted.map _).nodup_iff.mp same.distinct

theorem number_of_parts (distinct : (shapes.map (·.1)).Nodup)
    (parts : shapes = before ++ (name, shape) :: after) :
    (SymbolTable.directory (shapes.map (·.1))).number name = before.length :=
  SymbolTable.number_directory distinct (by simp [parts])

/-- A declared type keeps its declaration. -/
theorem SameDeclarations.relocate_declared (same : SameDeclarations shapes shapes') (name : String)
    (isKnown : (SymbolTable.directory (shapes.map (·.1))).knows name = true) :
    relocate shapes shapes' ((SymbolTable.directory (shapes.map (·.1))).number name) =
      (SymbolTable.directory (shapes'.map (·.1))).number name := by
  obtain ⟨⟨_, shape⟩, member, rfl⟩ := List.mem_map.mp (SymbolTable.knows_directory.mp isKnown)
  obtain ⟨before, after, parts⟩ := List.append_of_mem member
  obtain ⟨before', after', parts'⟩ := List.append_of_mem (same.permuted.mem_iff.mp member)
  rw [number_of_parts same.distinct parts, number_of_parts same.distinct' parts']
  exact relocate_eq same.distinct' (getElem?_places_declared parts)
    (getElem?_places_declared parts')

/-- The types for the objects without a name in a declaration keep their order. -/
theorem SameDeclarations.relocate_moves (same : SameDeclarations shapes shapes')
    (parts : shapes = before ++ (name, shape) :: after)
    {before' after' : List (String × DeclarationShape)}
    (parts' : shapes' = before' ++ (name, shape) :: after') :
    Moves (relocate shapes shapes') (shapes.length + sectionSize before)
      (shapes'.length + sectionSize before') shape.size := by
  intro index lt
  exact relocate_eq same.distinct' (getElem?_places_object parts lt)
    (getElem?_places_object parts' lt)

/-- Corresponding types of sections that agree. -/
theorem SameDeclarations.corresponds (same : SameDeclarations shapes shapes') {id : Nat}
    {type : NamedType} (here : (assemble shapes).types[id]? = some type) :
    ∃ other, (assemble shapes').types[relocate shapes shapes' id]? = some other ∧
      other.sourceName = type.sourceName ∧
      other.body = type.body.renumber (relocate shapes shapes') ∧
      (type.isSynthesized = false → other.name = type.name) := by
  obtain ⟨before, name, shape, after, parts, place⟩ :=
    exists_place (List.getElem?_eq_some_iff.mp here).1
  have member : (name, shape) ∈ shapes := by simp [parts]
  obtain ⟨before', after', parts'⟩ := List.append_of_mem (same.permuted.mem_iff.mp member)
  have sound := same.sound (name, shape) member
  have moves := same.relocate_moves parts parts'
  rcases place with rfl | ⟨index, lt, rfl⟩
  · -- a declared type
    rw [getElem?_assemble_declared parts] at here
    cases here
    have moved : relocate shapes shapes' before.length = before'.length :=
      relocate_eq same.distinct' (getElem?_places_declared parts) (getElem?_places_declared parts')
    rw [moved]
    refine ⟨_, getElem?_assemble_declared parts', rfl, ?_, fun _ => rfl⟩
    exact (DeclarationShape.body_renumber same.relocate_declared sound moves).symm
  · -- a type for an object without a name, whose own name may differ
    obtain ⟨object, listed⟩ : ∃ object,
        (shape.objects (SymbolTable.directory (shapes.map (·.1))).number
        (shapes.length + sectionSize before))[index]? = some object := by
      rw [← shape.length_objects (SymbolTable.directory (shapes.map (·.1))).number
        (shapes.length + sectionSize before)] at lt
      exact ⟨_, List.getElem?_eq_getElem lt⟩
    have listed' : (shape.objects (SymbolTable.directory (shapes'.map (·.1))).number
        (shapes'.length + sectionSize before'))[index]? =
        some (renumberObject (relocate shapes shapes') object) := by
      rw [← DeclarationShape.objects_renumber same.relocate_declared sound moves,
        List.getElem?_map, listed, Option.map_some]
    obtain ⟨typeName, found⟩ := getElem?_assemble_object parts listed
    obtain ⟨typeName', found'⟩ := getElem?_assemble_object parts' listed'
    rw [found] at here
    cases here
    rw [moves index lt]
    exact ⟨_, found', rfl, rfl, nofun⟩

theorem SameDeclarations.keepsAliases (same : SameDeclarations shapes shapes') :
    KeepsAliases (assemble shapes).types (assemble shapes').types (relocate shapes shapes') := by
  intro id target found
  obtain ⟨⟨_, _, body⟩, here, isTarget⟩ := Option.bind_eq_some_iff.mp found
  obtain ⟨⟨_, _, body'⟩, there, _, renumbered, _⟩ := same.corresponds here
  cases body with
  | object synthesized fields => cases isTarget
  | enumeration values => cases isTarget
  | aliasOf written =>
      cases isTarget
      cases renumbered
      refine ⟨target.renumber (relocate shapes shapes'), by rw [aliasTarget?, there]; rfl, ?_⟩
      intro next leaf
      rw [TypeExpr.leafId?_renumber, leaf, Option.map_some]

/-- The numbers of sections that agree correspond to each other. -/
theorem SameDeclarations.bijOn (same : SameDeclarations shapes shapes') :
    Set.BijOn (relocate shapes shapes') { id | id < (assemble shapes).types.length }
      { id | id < (assemble shapes').types.length } := by
  have permuted := places_perm same.permuted
  -- a number and its image have the same place, and places decide numbers
  have placed {id : Nat} (lt : id < (places shapes).length) :
      (places shapes')[relocate shapes shapes' id]? = (places shapes)[id]? := by
    rw [relocate, List.getD_eq_getElem?_getD, List.getElem?_eq_getElem lt, Option.getD_some]
    exact List.getElem?_idxOf (permuted.mem_iff.mp (List.getElem_mem lt))
  rw [← length_places, ← length_places]
  refine ⟨?_, ?_, ?_⟩
  · intro id lt
    have found := placed lt
    rw [List.getElem?_eq_getElem lt] at found
    exact (List.getElem?_eq_some_iff.mp found).1
  · intro id lt other otherLt equal
    have found := placed lt
    rw [equal, placed otherLt] at found
    exact (List.getElem?_inj otherLt (nodup_places same.distinct)).mp found |>.symm
  · intro id' lt
    have member := permuted.mem_iff.mpr (List.getElem_mem lt)
    obtain ⟨id, idLt, equal⟩ := List.mem_iff_getElem.mp member
    refine ⟨id, idLt, relocate_eq same.distinct' (List.getElem?_eq_getElem idLt) ?_⟩
    rw [equal]
    exact List.getElem?_eq_getElem lt

/-- What a section reads as does not depend on the order of its declarations, except for the
order. -/
theorem ReadsAs.perm {entries entries' : Entries} (reads : ReadsAs entries shapes)
    (permuted : entries.Perm entries') :
    ∃ shapes', ReadsAs entries' shapes' ∧ shapes.Perm shapes' := by
  have names : (entries.map (·.1)).Perm (entries'.map (·.1)) := permuted.map _
  have known : (SymbolTable.directory (entries.map (·.1))).knows =
      (SymbolTable.directory (entries'.map (·.1))).knows := by
    funext name
    rw [Bool.eq_iff_iff, SymbolTable.knows_directory, SymbolTable.knows_directory]
    exact names.mem_iff
  have pairs := sectionShapes_eq_ok_iff.mp reads.reads
  rw [known] at pairs
  obtain ⟨shapes', pairs', permutedShapes⟩ := List.perm_comp_forall₂ permuted.symm pairs
  refine ⟨shapes', ⟨?_, ?_, sectionShapes_eq_ok_iff.mpr pairs'⟩, permutedShapes.symm⟩
  · exact names.nodup_iff.mp reads.distinct
  · exact (names.map _).nodup_iff.mp reads.apart

theorem ReadsAs.sameDeclarations {entries : Entries} (reads : ReadsAs entries shapes)
    (permuted : shapes.Perm shapes') : SameDeclarations shapes shapes' where
  permuted := permuted
  distinct := by
    rw [reads.names]
    exact reads.distinct
  sound := reads.sound

/-- A section that is accepted is accepted in every order. -/
theorem exists_analyze_of_perm {entries entries' : Entries} (permuted : entries.Perm entries')
    {document : String} {graph : TypeGraph} {pending : List Pending}
    (returns : (analyze document entries).outcome.1 = .ok (graph, pending)) :
    ∃ graph pending, (analyze document entries').outcome.1 = .ok (graph, pending) := by
  obtain ⟨shapes, reads, acyclic, _⟩ := analyze_eq_ok_iff.mp returns
  obtain ⟨shapes', reads', permutedShapes⟩ := reads.perm permuted
  -- a cycle in the new order would be one in the old
  have back := reads'.sameDeclarations permutedShapes.symm
  exact ⟨_, _, analyze_eq_ok_iff.mpr ⟨shapes', reads', back.keepsAliases.acyclic acyclic, rfl, rfl⟩⟩

/-- The order of declarations does not matter: two sections that are permutations of each other are
accepted or rejected together, and the graphs they give are the same up to the order of the types
and the names of the types for objects without a name. -/
theorem analyze_perm {entries entries' : Entries} (permuted : entries.Perm entries')
    (document : String) :
    ((∃ graph pending, (analyze document entries).outcome.1 = .ok (graph, pending)) ↔
      ∃ graph pending, (analyze document entries').outcome.1 = .ok (graph, pending)) ∧
    ∀ left leftPending right rightPending,
      (analyze document entries).outcome.1 = .ok (left, leftPending) →
      (analyze document entries').outcome.1 = .ok (right, rightPending) →
      left.SameUpToOrder right := by
  refine ⟨⟨?_, ?_⟩, ?_⟩
  · rintro ⟨graph, pending, returns⟩
    exact exists_analyze_of_perm permuted returns
  · rintro ⟨graph, pending, returns⟩
    exact exists_analyze_of_perm permuted.symm returns
  · intro left leftPending right rightPending returns returns'
    obtain ⟨shapes, reads, _, rfl, _⟩ := analyze_eq_ok_iff.mp returns
    obtain ⟨shapes', reads', _, rfl, _⟩ := analyze_eq_ok_iff.mp returns'
    obtain ⟨others, othersRead, permutedShapes⟩ := reads.perm permuted
    obtain rfl : others = shapes' := Except.ok.inj (othersRead.reads.symm.trans reads'.reads)
    have same := reads.sameDeclarations permutedShapes
    exact ⟨relocate shapes others, same.bijOn, fun id type here => same.corresponds here⟩

/-- A section with two objects without a name that ask for the same name, and a reference
backwards. -/
def inlineSection : Entries :=
  [("a", .mapping 1 [("type", .scalar 1 (.text "object")), ("properties", .mapping 1 [
      ("item", .mapping 1 [("type", .scalar 1 (.text "object")), ("properties", .mapping 1 [
        ("owner", .mapping 1 [("type", .scalar 1 (.text "c"))])])])])]),
   ("b", .mapping 2 [("type", .scalar 2 (.text "object")), ("properties", .mapping 2 [
      ("item", .mapping 2 [("type", .scalar 2 (.text "object"))])])]),
   ("c", .mapping 3 [("$ref", .scalar 3 (.text "#/a"))])]

theorem inlineSection_reverse :
    ∃ left leftPending right rightPending,
      (analyze "" inlineSection).outcome.1 = .ok (left, leftPending) ∧
      (analyze "" inlineSection.reverse).outcome.1 = .ok (right, rightPending) ∧
      left.types.map (fun type => (type.name, type.uses.map (·.2))) =
        [("A", [.named 3]), ("B", [.named 4]), ("C", [.named 0]), ("Item", [.named 2]),
          ("Item2", [])] ∧
      right.types.map (fun type => (type.name, type.uses.map (·.2))) =
        [("C", [.named 2]), ("B", [.named 3]), ("A", [.named 4]), ("Item", []),
          ("Item2", [.named 0])] ∧
      left.SameUpToOrder right := by
  have forwards : ((analyze "" inlineSection).outcome.1.toOption.map fun result =>
      result.1.types.map fun type => (type.name, type.uses.map (·.2))) =
      some [("A", [.named 3]), ("B", [.named 4]), ("C", [.named 0]), ("Item", [.named 2]),
        ("Item2", [])] := by
    decide +kernel
  have backwards : ((analyze "" inlineSection.reverse).outcome.1.toOption.map fun result =>
      result.1.types.map fun type => (type.name, type.uses.map (·.2))) =
      some [("C", [.named 2]), ("B", [.named 3]), ("A", [.named 4]), ("Item", []),
        ("Item2", [.named 0])] := by
    decide +kernel
  obtain ⟨⟨left, leftPending⟩, leftReturns, leftTypes⟩ := Option.map_eq_some_iff.mp forwards
  obtain ⟨⟨right, rightPending⟩, rightReturns, rightTypes⟩ := Option.map_eq_some_iff.mp backwards
  have isLeft := eq_ok_of_toOption leftReturns
  have isRight := eq_ok_of_toOption rightReturns
  have same :=
    (analyze_perm (List.reverse_perm inlineSection).symm "").2 left leftPending right rightPending
    isLeft isRight
  exact ⟨left, leftPending, right, rightPending, isLeft, isRight, leftTypes, rightTypes, same⟩

end SchemaCompiler.Schema
