import SchemaCompiler.Proofs.DeclarationOrder
import SchemaCompiler.Proofs.InlineObject

/-!
# Types for objects without a name

The graph of a section has a type for every declaration, in order, and behind them one for every
object without a name, in pre-order. Each of the latter is used once in the whole graph: in the
field of the property that the object stands in, or in the alias that its array is, inside arrays or
not. Placing a shape uses the numbers of the types it adds once each (`Shape.occurrences_perm`), and
names lead to declared types only.
-/

namespace SchemaCompiler.Schema

open Document (Node Entries)

/-! ## Positions -/

/-- Where a type of a section comes from: the declaration, and the steps from there to an object
without a name. Without steps it is the declared type itself. -/
structure Position where
  declaration : String
  steps : List Step
  deriving DecidableEq, Repr

/-- The objects without a name in a section, each with its position, in pre-order. -/
def inlineObjects (entries : Entries) : List (Position × Entries) :=
  entries.flatMap fun entry => (declarationObjects entry.2).map fun object =>
    ({ declaration := entry.1, steps := object.1 }, object.2)

/-- The positions of the types of a section: the declarations, and then the objects without a
name. -/
def positions (entries : Entries) : List Position :=
  entries.map (fun entry => { declaration := entry.1, steps := [] }) ++
    (inlineObjects entries).map (·.1)

/-- An object without a name stands at a position of a section: in a property or as an element of an
array, at any depth below a declaration. -/
def StandsAt (entries : Entries) (position : Position) (found : Entries) : Prop :=
  ∃ line body, (position.declaration, .mapping line body) ∈ entries ∧ position.steps ≠ [] ∧
    Reaches (declarationForm body) body position.steps found ∧ typeForm found = .object

/-- The list of the objects without a name in a section is complete. -/
theorem mem_inlineObjects_iff {entries : Entries} {position : Position} {found : Entries} :
    (position, found) ∈ inlineObjects entries ↔ StandsAt entries position found := by
  rw [inlineObjects, List.mem_flatMap]
  constructor
  · rintro ⟨⟨name, node⟩, member, inDeclaration⟩
    obtain ⟨⟨steps, _⟩, listed, same⟩ := List.mem_map.mp inDeclaration
    cases same
    cases node with
    | mapping line body =>
        obtain ⟨nonempty, reaches, isObject⟩ := (mem_objectsInside_iff _ _).mp listed
        exact ⟨line, body, member, nonempty, reaches, isObject⟩
    | scalar line value => cases listed
    | sequence line items => cases listed
    | absent => cases listed
  · rintro ⟨line, body, member, nonempty, reaches, isObject⟩
    refine ⟨_, member, List.mem_map.mpr ⟨(position.steps, found), ?_, rfl⟩⟩
    exact (mem_objectsInside_iff _ _).mpr ⟨nonempty, reaches, isObject⟩

/-- The steps to the type that uses what stands behind some steps, and the property in which it
does. Arrays belong to the property or alias that they stand in. -/
def siteSteps (steps : List Step) : List Step × Option String :=
  match steps.reverse.dropWhile (· == .items) with
  | .property name :: outer => (outer.reverse, some name)
  | _ => ([], none)

theorem siteSteps_property (before : List Step) (name : String) :
    siteSteps (before ++ [.property name]) = (before, some name) := by
  simp [siteSteps]

theorem siteSteps_items (before : List Step) :
    siteSteps (before ++ [.items]) = siteSteps before := by
  simp [siteSteps]

/-! ## Occurrences -/

/-- A use of a named type: the number of the type that uses it, the property in which it does, and
its own number. -/
structure Occurrence where
  owner : Nat
  field : Option String
  id : Nat
  deriving DecidableEq, Repr

/-- The named types that a type ends in, inside all arrays. -/
def occurrencesIn (owner : Nat) (uses : List (Option String × TypeExpr)) : List Occurrence :=
  uses.filterMap fun use => use.2.leafId?.map fun id => { owner, field := use.1, id }

/-- The occurrences of named types in types that are numbered from a start, given what they use. -/
def occurrencesFrom (start : Nat) : List (List (Option String × TypeExpr)) → List Occurrence
  | [] => []
  | uses :: rest => occurrencesIn start uses ++ occurrencesFrom (start + 1) rest

/-- All occurrences of named types in a graph. -/
def TypeGraph.occurrences (graph : TypeGraph) : List Occurrence :=
  occurrencesFrom 0 (graph.types.map (·.uses))

theorem occurrencesIn_cons (owner : Nat) (field : Option String) (used : TypeExpr)
    (rest : List (Option String × TypeExpr)) :
    occurrencesIn owner ((field, used) :: rest) =
      occurrencesIn owner [(field, used)] ++ occurrencesIn owner rest := by
  unfold occurrencesIn
  rw [← List.filterMap_append, List.singleton_append]

theorem occurrencesFrom_append (start : Nat) (left right : List (List (Option String × TypeExpr))) :
    occurrencesFrom start (left ++ right) =
      occurrencesFrom start left ++ occurrencesFrom (start + left.length) right := by
  induction left generalizing start with
  | nil => rfl
  | cons uses rest ih =>
      rw [List.cons_append, occurrencesFrom, ih, occurrencesFrom, List.append_assoc,
        List.length_cons, Nat.add_right_comm, Nat.add_assoc]

/-- What an object with some fields uses. -/
def fieldUses (fields : List Field) : List (Option String × TypeExpr) :=
  fields.map fun field => (some field.sourceName, field.type)

/-- Types for objects without a name use what their fields use. -/
theorem uses_addObjects (table : SymbolTable) (objects : List (String × List Field)) :
    (table.addObjects objects).types.map (·.uses) =
      table.types.map (·.uses) ++ objects.map fun object => fieldUses object.2 := by
  induction objects generalizing table with
  | nil => rw [SymbolTable.addObjects_nil, List.map_nil, List.append_nil]
  | cons object rest ih =>
      rw [SymbolTable.addObjects_cons, ih, List.map_cons, List.append_cons]
      congr 1
      simp [SymbolTable.addObject, SymbolTable.push, NamedType.uses, fieldUses]

/-! ## Placing a shape -/

mutual

/-- Where a shape uses the types for its objects without a name, given the type and the property it
stands in and the number of the first type that is free. -/
def Shape.sites (owner : Nat) (field : Option String) (start : Nat) : Shape → List Occurrence
  | .array items => items.sites owner field start
  | .inline _ fields => { owner, field, id := start } :: fields.sites start (start + 1)
  | _ => []

def FieldShapes.sites (owner start : Nat) : FieldShapes → List Occurrence
  | .nil => []
  | .cons head type rest =>
    type.sites owner (some head.sourceName) start ++ rest.sites owner (start + type.size)

end

section Placing

variable {known : String → Bool} {number : String → Nat} {bound : Nat}

/-- The occurrences of types that are not declared. -/
def addedOccurrences (bound : Nat) (occurrences : List Occurrence) : List Occurrence :=
  occurrences.filter fun occurrence => bound ≤ occurrence.id

theorem addedOccurrences_append (bound : Nat) (left right : List Occurrence) :
    addedOccurrences bound (left ++ right) =
      addedOccurrences bound left ++ addedOccurrences bound right :=
  List.filter_append ..

/-- All fields come before the types for the objects in them. Here every field is followed by its
own. -/
theorem regroup_perm {α : Type} (fields moreFields objects moreObjects : List α) :
    ((fields ++ moreFields) ++ (objects ++ moreObjects)).Perm
      ((fields ++ objects) ++ (moreFields ++ moreObjects)) := by
  simp only [List.append_assoc]
  refine .append_left fields ?_
  rw [← List.append_assoc, ← List.append_assoc]
  exact List.perm_append_comm.append_right moreObjects

mutual

/-- What a shape is placed as, and what is placed for it, uses the types that are added once
each. -/
theorem Shape.occurrences_perm (low : ∀ name, known name = true → number name < bound)
    (shape : Shape) (sound : shape.Sound known) (owner : Nat) (field : Option String) (start : Nat)
    (free : bound ≤ start) :
    (addedOccurrences bound (
      occurrencesIn owner [(field, shape.expr number start)] ++
      occurrencesFrom start
        ((shape.objects number start).map fun object => fieldUses object.2))).Perm
      (shape.sites owner field start) := by
  match shape with
  | .scalar _ => exact .refl _
  | .any => exact .refl _
  | .array items => exact Shape.occurrences_perm low items sound owner field start free
  | .declared name =>
      have isLow : number name < bound := low name sound
      simp [addedOccurrences, occurrencesIn, occurrencesFrom, Shape.expr,
        Shape.objects, Shape.sites, TypeExpr.leafId?, TypeExpr.leaf, isLow]
  | .inline baseName fields =>
      have inside := FieldShapes.occurrences_perm low fields sound.2 start (start + 1)
        (Nat.le_succ_of_le free)
      have here : addedOccurrences bound (occurrencesIn owner [(field, .named start)]) =
          [{ owner, field, id := start }] := by
        simp [addedOccurrences, occurrencesIn, TypeExpr.leafId?, TypeExpr.leaf, free]
      rw [addedOccurrences_append, Shape.expr, here]
      exact inside.cons _

theorem FieldShapes.occurrences_perm (low : ∀ name, known name = true → number name < bound)
    (fields : FieldShapes) (sound : fields.Sound known) (owner start : Nat) (free : bound ≤ start) :
    (addedOccurrences bound (
      occurrencesIn owner (fieldUses (fields.fields number start)) ++
      occurrencesFrom start
        ((fields.objects number start).map fun object => fieldUses object.2))).Perm
      (fields.sites owner start) := by
  match fields with
  | .nil => exact .refl _
  | .cons head type rest =>
      have inType := Shape.occurrences_perm low type sound.1 owner (some head.sourceName) start free
      have inRest := FieldShapes.occurrences_perm low rest sound.2.1 owner (start + type.size)
        (Nat.le_add_right_of_le free)
      rw [addedOccurrences_append] at inType inRest
      rw [FieldShapes.fields, fieldUses, List.map_cons, occurrencesIn_cons, FieldShapes.objects,
        List.map_append, occurrencesFrom_append, List.length_map, type.length_objects]
      simp only [addedOccurrences_append]
      exact (regroup_perm ..).trans (inType.append inRest)

end

end Placing

/-! ## Sites and positions -/

mutual

theorem Shape.length_steps (shape : Shape) : shape.steps.length = shape.size := by
  match shape with
  | .scalar _ => rfl
  | .any => rfl
  | .declared _ => rfl
  | .array items =>
      rw [Shape.steps, List.length_map]
      exact items.length_steps
  | .inline _ fields => rw [Shape.steps, List.length_cons, fields.length_steps, Shape.size]

theorem FieldShapes.length_steps (fields : FieldShapes) : fields.steps.length = fields.size := by
  match fields with
  | .nil => rfl
  | .cons head type rest =>
      rw [FieldShapes.steps, List.length_append, List.length_map, type.length_steps,
        rest.length_steps, FieldShapes.size]

end

/-- The one occurrence of the type for the object behind some steps, given the numbers of types. -/
def siteAt (numberOf : List Step → Nat) (steps : List Step) : Occurrence :=
  { owner := numberOf (siteSteps steps).1, field := (siteSteps steps).2, id := numberOf steps }

/-- Numbers that follow each other in two parts of a list do so in each part. -/
theorem range'_parts {left right : List Nat} {start first second : Nat}
    (length : left.length = first) (numbered : left ++ right = List.range' start (first + second)) :
    left = List.range' start first ∧ right = List.range' (start + first) second := by
  rw [← List.range'_append_1] at numbered
  exact List.append_inj numbered (by rw [length, List.length_range'])

mutual

/-- If the types for the objects in a shape are numbered in order, they are used where they
stand. -/
theorem Shape.sites_eq (numberOf : List Step → Nat) (shape : Shape) (before : List Step)
    (start : Nat) {outer : List Step} {owner : Nat} {field : Option String}
    (site : siteSteps before = (outer, field)) (isOwner : numberOf outer = owner)
    (numbered : shape.steps.map (fun steps => numberOf (before ++ steps)) =
      List.range' start shape.size) :
    shape.sites owner field start = shape.steps.map fun steps =>
      siteAt numberOf (before ++ steps) := by
  match shape with
  | .scalar _ => rfl
  | .any => rfl
  | .declared _ => rfl
  | .array items =>
      have again := Shape.sites_eq numberOf items (before ++ [.items]) start
        (by rw [siteSteps_items, site]) isOwner
        (by simpa [Shape.steps, Shape.size, Function.comp_def] using numbered)
      simpa [Shape.steps, Shape.sites, Function.comp_def] using again
  | .inline baseName fields =>
      rw [Shape.steps, Shape.size, List.map_cons, List.range'_succ, List.append_nil,
        List.cons.injEq] at numbered
      rw [Shape.sites, Shape.steps, List.map_cons, List.append_nil,
        fields.sites_eq numberOf before (start + 1) numbered.1 numbered.2, siteAt, site,
        isOwner, numbered.1]

theorem FieldShapes.sites_eq (numberOf : List Step → Nat) (fields : FieldShapes)
    (before : List Step) (start : Nat) {owner : Nat} (isOwner : numberOf before = owner)
    (numbered : fields.steps.map (fun steps => numberOf (before ++ steps)) =
      List.range' start fields.size) :
    fields.sites owner start = fields.steps.map fun steps => siteAt numberOf (before ++ steps) := by
  match fields with
  | .nil => rfl
  | .cons head type rest =>
      rw [FieldShapes.steps, FieldShapes.size, List.map_append] at numbered
      obtain ⟨inType, inRest⟩ := range'_parts (by simp [type.length_steps]) numbered
      have first := type.sites_eq numberOf (before ++ [.property head.sourceName]) start
        (siteSteps_property before head.sourceName) isOwner
        (by simpa [Function.comp_def] using inType)
      rw [FieldShapes.sites, FieldShapes.steps, List.map_append, first,
        rest.sites_eq numberOf before (start + type.size) isOwner inRest]
      simp [Function.comp_def]

end

/-! ## Sections -/

/-- Where a declaration uses the types for its objects without a name. -/
def DeclarationShape.sites (owner start : Nat) : DeclarationShape → List Occurrence
  | object fields => fields.sites owner start
  | enumeration _ => []
  | aliasOf target => target.sites owner none start

/-- Where a section uses the types for its objects without a name. -/
def sectionSites (owner start : Nat) : List (String × DeclarationShape) → List Occurrence
  | [] => []
  | (_, shape) :: rest =>
      shape.sites owner start ++ sectionSites (owner + 1) (start + shape.size) rest

/-- The positions of the objects without a name in a section. -/
def sectionPositions (shapes : List (String × DeclarationShape)) : List Position :=
  shapes.flatMap fun shape => shape.2.steps.map fun steps => { declaration := shape.1, steps }

theorem sectionPositions_cons (name : String) (shape : DeclarationShape)
    (rest : List (String × DeclarationShape)) :
    sectionPositions ((name, shape) :: rest) =
      shape.steps.map (fun steps => { declaration := name, steps }) ++ sectionPositions rest := rfl

/-- The one occurrence of the type for the object at a position, given the numbers of types. -/
def Position.site (number : Position → Nat) (position : Position) : Occurrence :=
  siteAt (fun steps => number { declaration := position.declaration, steps }) position.steps

theorem DeclarationShape.length_steps (shape : DeclarationShape) :
    shape.steps.length = shape.size := by
  cases shape with
  | object fields => exact fields.length_steps
  | enumeration values => rfl
  | aliasOf target => exact target.length_steps

theorem DeclarationShape.sites_eq (numberOf : List Step → Nat) (shape : DeclarationShape)
    {owner start : Nat} (isOwner : numberOf [] = owner)
    (numbered : shape.steps.map numberOf = List.range' start shape.size) :
    shape.sites owner start = shape.steps.map (siteAt numberOf) := by
  cases shape with
  | object fields => exact fields.sites_eq numberOf [] start isOwner numbered
  | enumeration values => rfl
  | aliasOf target => exact target.sites_eq numberOf [] start rfl isOwner numbered

theorem sectionSites_eq (number : Position → Nat) {owner start : Nat}
    {shapes : List (String × DeclarationShape)}
    (declared : shapes.map (fun shape => number { declaration := shape.1, steps := [] }) =
      List.range' owner shapes.length)
    (numbered : (sectionPositions shapes).map number = List.range' start (sectionSize shapes)) :
    sectionSites owner start shapes = (sectionPositions shapes).map (Position.site number) := by
  induction shapes generalizing owner start with
  | nil => rfl
  | cons first rest ih =>
      obtain ⟨name, shape⟩ := first
      rw [List.map_cons, List.length_cons, List.range'_succ, List.cons.injEq] at declared
      rw [sectionPositions_cons, List.map_append, sectionSize] at numbered
      obtain ⟨inFirst, inRest⟩ := range'_parts (by simp [shape.length_steps]) numbered
      have here := shape.sites_eq (fun steps => number { declaration := name, steps }) declared.1
        (by simpa [Function.comp_def] using inFirst)
      rw [sectionSites, here, ih declared.2 inRest, sectionPositions_cons, List.map_append,
        List.map_map]
      rfl

section Placing

variable {known : String → Bool} {number : String → Nat} {bound : Nat}

theorem DeclarationShape.occurrences_perm (low : ∀ name, known name = true → number name < bound)
    (shape : DeclarationShape) (sound : shape.Sound known) (name sourceName : String)
    (owner start : Nat) (free : bound ≤ start) :
    (addedOccurrences bound (
      occurrencesIn owner (NamedType.uses { name, sourceName, body := shape.body number start }) ++
      occurrencesFrom start
        ((shape.objects number start).map fun object => fieldUses object.2))).Perm
      (shape.sites owner start) := by
  cases shape with
  | object fields => exact fields.occurrences_perm low sound owner start free
  | enumeration values => exact .refl _
  | aliasOf target => exact target.occurrences_perm low sound owner none start free

/-- A section uses the types for its objects without a name once each. -/
theorem section_occurrences_perm (low : ∀ name, known name = true → number name < bound)
    {shapes : List (String × DeclarationShape)} (sound : ∀ shape ∈ shapes, shape.2.Sound known)
    (owner start : Nat) (free : bound ≤ start) :
    (addedOccurrences bound (
      occurrencesFrom owner ((declaredTypes number start shapes).map (·.uses)) ++
      occurrencesFrom start
        ((sectionObjects number start shapes).map fun object => fieldUses object.2))).Perm
      (sectionSites owner start shapes) := by
  induction shapes generalizing owner start with
  | nil => exact .refl _
  | cons first rest ih =>
      obtain ⟨name, shape⟩ := first
      rw [List.forall_mem_cons] at sound
      have inFirst :=
        shape.occurrences_perm low sound.1 (Naming.typeName name) name owner start free
      have inRest := ih sound.2 (owner + 1) (start + shape.size) (Nat.le_add_right_of_le free)
      rw [addedOccurrences_append] at inFirst inRest
      rw [declaredTypes, List.map_cons, occurrencesFrom, sectionObjects, List.map_append,
        occurrencesFrom_append, List.length_map, shape.length_objects]
      simp only [addedOccurrences_append]
      exact (regroup_perm ..).trans (inFirst.append inRest)

end Placing

/-! ## Graphs of sections -/

/-- A type that is made from an object without a name: named after where the object stands, with a
field for each of its properties. -/
def MadeFrom (object : Position × Entries) (type : NamedType) : Prop :=
  type.isSynthesized = true ∧ type.sourceName = nameAfter object.1.declaration object.1.steps ∧
    type.fields.map (·.sourceName) = propertyNames object.2

/-- The objects that are placed for a section are those that stand in it. -/
theorem inlineObjects_placed {known : String → Bool} {entries : Entries}
    {shapes : List (String × DeclarationShape)} (read : sectionShapes known entries = .ok shapes)
    (number : String → Nat) (start : Nat) :
    (inlineObjects entries).map (·.1) = sectionPositions shapes ∧
      List.Forall₂
        (fun object made => Describes object.1.declaration (object.1.steps, object.2) made)
        (inlineObjects entries) (sectionObjects number start shapes) := by
  have pairs := sectionShapes_eq_ok_iff.mp read
  clear read
  induction pairs generalizing start with
  | nil => exact ⟨rfl, .nil⟩
  | @cons entry shape _ _ here _ ih =>
      obtain ⟨name, node⟩ := entry
      obtain ⟨_, shape⟩ := shape
      obtain ⟨rfl, shapeRead⟩ := here
      have lists := declarationShape_lists shapeRead number start
      obtain ⟨places, placed⟩ := ih (start + shape.size)
      constructor
      · rw [inlineObjects, List.flatMap_cons, List.map_append, ← inlineObjects, places,
          sectionPositions_cons, ← lists.places, List.map_map, List.map_map]
        rfl
      · rw [inlineObjects, List.flatMap_cons, ← inlineObjects, sectionObjects]
        refine List.rel_append ?_ placed
        exact List.forall₂_map_left_iff.mpr lists.made

/-- Every declaration has been read. -/
theorem exists_shape_of_mem {known : String → Bool} {entries : Entries}
    {shapes : List (String × DeclarationShape)} (read : sectionShapes known entries = .ok shapes)
    {entry : String × Node} (member : entry ∈ entries) :
    ∃ shape, declarationShape known entry.1 entry.2 = .ok shape := by
  have pairs := sectionShapes_eq_ok_iff.mp read
  clear read
  induction pairs with
  | nil => cases member
  | cons here _ ih =>
      rcases List.mem_cons.mp member with rfl | later
      · exact ⟨_, here.2⟩
      · exact ih later

/-- No two types of a section come from one position. -/
theorem nodup_positions {known : String → Bool} {entries : Entries}
    {shapes : List (String × DeclarationShape)} (distinct : (entries.map (·.1)).Nodup)
    (read : sectionShapes known entries = .ok shapes) : (positions entries).Nodup := by
  have apart : entries.Pairwise fun left right => left.1 ≠ right.1 := List.pairwise_map.mp distinct
  rw [positions, List.nodup_append]
  refine ⟨?_, ?_, ?_⟩
  · rw [List.Nodup, List.pairwise_map]
    exact apart.imp fun ne same => ne (congrArg Position.declaration same)
  · rw [inlineObjects, List.map_flatMap, List.nodup_flatMap]
    constructor
    · intro entry member
      obtain ⟨shape, shapeRead⟩ := exists_shape_of_mem read member
      have lists := declarationShape_lists shapeRead (fun _ => 0) 0
      rw [List.map_map]
      have own : ((declarationObjects entry.2).map (·.1)).Nodup := lists.places ▸ lists.distinct
      have named : Function.Injective fun steps => ({ declaration := entry.1, steps } : Position) :=
        fun _ _ same => congrArg Position.steps same
      simpa [Function.comp_def] using own.map named
    · refine apart.imp ?_
      intro left right ne position inLeft inRight
      simp only [List.map_map, List.mem_map, Function.comp] at inLeft inRight
      obtain ⟨_, _, rfl⟩ := inLeft
      obtain ⟨_, _, same⟩ := inRight
      exact ne (congrArg Position.declaration same).symm
  · intro position isDeclared other isInline same
    obtain ⟨entry, _, rfl⟩ := List.mem_map.mp isDeclared
    obtain ⟨⟨_, found⟩, listed, rfl⟩ := List.mem_map.mp isInline
    obtain ⟨_, _, _, nonempty, _⟩ := mem_inlineObjects_iff.mp listed
    exact nonempty (congrArg Position.steps same).symm

/-- The number of the type that comes from a position of a section. -/
def positionNumber (entries : Entries) (position : Position) : Nat :=
  (positions entries).idxOf position

/-- Adding types for objects without a name adds one for each, in order. -/
theorem types_addObjects (table : SymbolTable) (objects : List (String × List Field)) :
    ∃ added, (table.addObjects objects).types = table.types ++ added ∧
      List.Forall₂
        (fun object type => type.sourceName = object.1 ∧ type.body = .object true object.2)
        objects added := by
  induction objects generalizing table with
  | nil => exact ⟨[], by simp, .nil⟩
  | cons object rest ih =>
      obtain ⟨added, types, made⟩ := ih (table.addObject object.1 object.2)
      let first : NamedType :=
        { name := table.uniqueName (Naming.typeName object.1)
          sourceName := object.1
          body := .object true object.2 }
      refine ⟨first :: added, ?_, .cons ⟨rfl, rfl⟩ made⟩
      rw [SymbolTable.addObjects_cons, types, SymbolTable.addObject, SymbolTable.push,
        List.append_assoc]
      rfl

theorem declaredTypes_declared (number : String → Nat) (start : Nat)
    (shapes : List (String × DeclarationShape)) :
    (declaredTypes number start shapes).map (·.sourceName) = shapes.map (·.1) ∧
      ∀ type ∈ declaredTypes number start shapes, type.isSynthesized = false := by
  induction shapes generalizing start with
  | nil => exact ⟨rfl, by simp [declaredTypes]⟩
  | cons first rest ih =>
      obtain ⟨name, shape⟩ := first
      obtain ⟨names, none⟩ := ih (start + shape.size)
      refine ⟨congrArg (name :: ·) names, ?_⟩
      rw [declaredTypes, List.forall_mem_cons]
      exact ⟨by cases shape <;> rfl, none⟩

theorem forall₂_trans {α β γ : Type} {first : α → β → Prop} {second : β → γ → Prop}
    {both : α → γ → Prop} (chain : ∀ a b c, first a b → second b c → both a c) {left : List α}
    {middle : List β} {right : List γ} (leading : List.Forall₂ first left middle)
    (following : List.Forall₂ second middle right) :
    List.Forall₂ both left right := by
  induction leading generalizing right with
  | nil =>
      cases following
      exact .nil
  | cons here _ ih =>
      cases following with
      | cons there rest => exact .cons (chain _ _ _ here there) (ih rest)

/-- Of items with different numbers, only one has the number of an item. -/
theorem filter_eq_singleton {α : Type} {number : α → Nat} {items : List α}
    (distinct : (items.map number).Nodup) {item : α} (member : item ∈ items) :
    items.filter (fun other => number other = number item) = [item] := by
  induction items with
  | nil => cases member
  | cons first rest ih =>
      rw [List.map_cons, List.nodup_cons, List.mem_map, not_exists] at distinct
      rcases List.mem_cons.mp member with rfl | later
      · rw [List.filter_cons_of_pos (by simp), List.filter_eq_nil_iff.mpr]
        intro other isOther same
        exact distinct.1 other ⟨isOther, of_decide_eq_true same⟩
      · rw [List.filter_cons_of_neg, ih distinct.2 later]
        intro same
        exact distinct.1 item ⟨later, (of_decide_eq_true same).symm⟩

section Graph

variable {entries : Entries} {shapes : List (String × DeclarationShape)}

/-- The types of a section are the declared ones and those that are made from its objects without a
name. -/
theorem ReadsAs.exists_added (reads : ReadsAs entries shapes) :
    ∃ added, (assemble shapes).types =
        declaredTypes (SymbolTable.directory (shapes.map (·.1))).number shapes.length
          shapes ++ added ∧
      List.Forall₂
        (fun object type => type.sourceName = nameAfter object.1.declaration object.1.steps ∧
        ∃ fields, type.body = .object true fields ∧ FieldsFrom (objectProperties object.2) fields)
        (inlineObjects entries) added := by
  let directory := SymbolTable.directory (shapes.map (·.1))
  obtain ⟨added, types, made⟩ := types_addObjects
    { directory with types := declaredTypes directory.number shapes.length shapes }
    (sectionObjects directory.number shapes.length shapes)
  refine ⟨added, types, ?_⟩
  have placed := (inlineObjects_placed reads.reads directory.number shapes.length).2
  -- an object gives a name and fields, and these give a type
  refine forall₂_trans ?_ placed made
  rintro object described type ⟨isName, areFields⟩ ⟨isSource, isBody⟩
  exact ⟨isSource.trans isName, described.2, isBody, areFields⟩

/-- The types of a section are the declared ones in order, and then one for every object without a
name. -/
theorem ReadsAs.types_eq (reads : ReadsAs entries shapes) :
    ∃ declared added, (assemble shapes).types = declared ++ added ∧
      declared.map (·.sourceName) = entries.map (·.1) ∧
      (∀ type ∈ declared, type.isSynthesized = false) ∧
      List.Forall₂ MadeFrom (inlineObjects entries) added := by
  obtain ⟨added, types, made⟩ := reads.exists_added
  obtain ⟨names, none⟩ :=
    declaredTypes_declared (SymbolTable.directory (shapes.map (·.1))).number shapes.length shapes
  refine ⟨_, added, types, names.trans reads.names, none, made.imp ?_⟩
  rintro object ⟨name, sourceName, _⟩ ⟨rfl, fields, rfl, areFields⟩
  exact ⟨rfl, rfl, (FieldsFrom.map_sourceName areFields.each).trans (propertyNames_eq _).symm⟩

/-- Numbering a list without repetitions by its places counts it. -/
theorem map_idxOf_eq_range' {α : Type} [DecidableEq α] {items : List α} (distinct : items.Nodup) :
    items.map (fun item => items.idxOf item) = List.range' 0 items.length := by
  refine List.ext_getElem (by simp) fun index lt _ => ?_
  rw [List.length_map] at lt
  simp [distinct.idxOf_getElem index lt]

/-- The types of a section are numbered like its positions. -/
theorem ReadsAs.positionNumber (reads : ReadsAs entries shapes) :
    shapes.map
        (fun shape => Schema.positionNumber entries { declaration := shape.1, steps := [] }) =
        List.range' 0 shapes.length ∧
      (sectionPositions shapes).map (Schema.positionNumber entries) =
        List.range' shapes.length (sectionSize shapes) := by
  have places := (inlineObjects_placed reads.reads (fun _ => 0) 0).1
  have length : (sectionPositions shapes).length = sectionSize shapes := by
    rw [← places, List.length_map, (inlineObjects_placed reads.reads (fun _ => 0) 0).2.length_eq,
      length_sectionObjects]
  have count : shapes.length = entries.length := by simpa using congrArg List.length reads.names
  have all : (positions entries).map (Schema.positionNumber entries) =
      List.range' 0 (shapes.length + sectionSize shapes) := by
    have numbered := map_idxOf_eq_range' (nodup_positions reads.distinct reads.reads)
    have total : (positions entries).length = shapes.length + sectionSize shapes := by
      rw [positions, List.length_append, List.length_map, places, length, count]
    rw [total] at numbered
    exact numbered
  rw [positions, List.map_append, places] at all
  obtain ⟨declared, inlined⟩ := range'_parts (by simp [count]) all
  refine ⟨?_, by simpa using inlined⟩
  have names : shapes.map (fun shape => ({ declaration := shape.1, steps := [] } : Position)) =
      entries.map fun entry => { declaration := entry.1, steps := [] } := by
    have mapped :=
      congrArg (List.map fun name => ({ declaration := name, steps := [] } : Position)) reads.names
    simpa [Function.comp_def] using mapped
  rw [← names, List.map_map] at declared
  exact declared

/-- The types of a graph use each of the added ones once, where its object stands. -/
theorem ReadsAs.addedOccurrences_perm (reads : ReadsAs entries shapes) (document : String) :
    (addedOccurrences shapes.length (graphOf document shapes).occurrences).Perm
      ((sectionPositions shapes).map (Position.site (Schema.positionNumber entries))) := by
  obtain ⟨declared, numbered⟩ := reads.positionNumber
  let directory := SymbolTable.directory (shapes.map (·.1))
  have low : ∀ name, directory.knows name = true → directory.number name < shapes.length := by
    intro name isKnown
    obtain ⟨index, lt, here⟩ := List.mem_iff_getElem.mp (SymbolTable.knows_directory.mp isKnown)
    rw [SymbolTable.number_directory (reads.names ▸ reads.distinct)
      (List.getElem?_eq_some_iff.mpr ⟨lt, here⟩)]
    simpa using lt
  have perm := section_occurrences_perm low reads.sound 0 shapes.length (Nat.le_refl _)
  rw [sectionSites_eq (Schema.positionNumber entries) declared numbered] at perm
  have uses : (graphOf document shapes).occurrences =
      occurrencesFrom 0 ((declaredTypes directory.number shapes.length shapes).map (·.uses)) ++
        occurrencesFrom shapes.length ((sectionObjects directory.number shapes.length shapes).map
          fun object => fieldUses object.2) := by
    rw [TypeGraph.occurrences, graphOf, assemble, uses_addObjects, occurrencesFrom_append,
      List.length_map, length_declaredTypes, Nat.zero_add]
  rwa [← uses] at perm

/-- The type for an object without a name is used once, where the object stands. -/
theorem ReadsAs.occurrences_filter (reads : ReadsAs entries shapes) (document : String)
    {position : Position} (member : position ∈ sectionPositions shapes) :
    (graphOf document shapes).occurrences.filter
        (fun occurrence => occurrence.id = Schema.positionNumber entries position) =
      [position.site (Schema.positionNumber entries)] := by
  obtain ⟨_, numbered⟩ := reads.positionNumber
  have isAdded : shapes.length ≤ Schema.positionNumber entries position := by
    have listed : Schema.positionNumber entries position ∈
        (sectionPositions shapes).map (Schema.positionNumber entries) := List.mem_map_of_mem member
    rw [numbered, List.mem_range'_1] at listed
    exact listed.1
  -- only types that are added have the number, and of their sites only the one at the position has
  have onlyAdded : (graphOf document shapes).occurrences.filter
        (fun occurrence => occurrence.id = Schema.positionNumber entries position) =
      (addedOccurrences shapes.length (graphOf document shapes).occurrences).filter
        fun occurrence => occurrence.id = Schema.positionNumber entries position := by
    rw [addedOccurrences, List.filter_filter]
    refine List.filter_congr fun occurrence _ => ?_
    by_cases isHere : occurrence.id = Schema.positionNumber entries position
    · simp [isHere, isAdded]
    · simp [isHere]
  have onlyHere := filter_eq_singleton (numbered ▸ List.nodup_range') member
  have picked := (reads.addedOccurrences_perm document).filter
    fun occurrence => occurrence.id = Schema.positionNumber entries position
  rw [← onlyAdded, List.filter_map] at picked
  have sites : (sectionPositions shapes).filter
      ((fun occurrence => decide (occurrence.id = Schema.positionNumber entries position)) ∘
        Position.site (Schema.positionNumber entries)) = [position] := onlyHere
  rw [sites] at picked
  exact List.perm_singleton.mp picked

end Graph

/-- Names and pointers lead to declared types only, whatever types have been added. -/
theorem resolveName_lt {entries : Entries} {table : SymbolTable}
    (collects : (collect entries).outcome.1 = .ok table) (objects : List (String × List Field))
    {name : String} {pointer : Bool} {location : Location} {type : TypeExpr}
    (resolved : (table.addObjects objects).resolveName name pointer location = .ok type) :
    ∃ id < entries.length, type = .named id := by
  rw [(collect_gives entries).outcome_eq, collected_eq_ok_iff] at collects
  obtain ⟨types, isCollected, isTable⟩ := collects
  have declared : (table.addObjects objects).declared = (entries.map (·.1)).zipIdx := by
    rw [SymbolTable.declared_addObjects, isTable, SymbolTable.directory]
  have looked := resolveName_eq (table.addObjects objects) name pointer location 0
  rw [resolved] at looked
  obtain ⟨shape, shapeRead, placed⟩ := map_eq_ok looked.symm
  obtain ⟨target, isKnown, rfl⟩ := nameShape_eq_ok shapeRead
  rw [SymbolTable.knows_iff, SymbolTable.declaredNames, declared, List.zipIdx_map_fst] at isKnown
  obtain ⟨index, lt, here⟩ := List.mem_iff_getElem.mp isKnown
  have found :=
    SymbolTable.lookup_zipIdx isCollected.distinct (List.getElem?_eq_some_iff.mpr ⟨lt, here⟩) 0
  refine ⟨index, by simpa using lt, ?_⟩
  rw [← placed, Shape.expr, SymbolTable.number, SymbolTable.lookup, declared, found]
  simp

/-- No object without a name is lost, made twice or shared. The graph that analysing a section gives
has the declared types in order and then, in pre-order, one type for every object without a name;
and each of these is used once in the whole graph, in the type and the property that the object
stands in. Names and pointers lead to declared types only. -/
theorem inline_objects_used_once {document : String} {entries : Entries} {graph : TypeGraph}
    {pending : List Pending}
    (returns : (analyze document entries).outcome.1 = .ok (graph, pending)) :
    (∃ declared added, graph.types = declared ++ added ∧
      declared.map (·.sourceName) = entries.map (·.1) ∧
      (∀ type ∈ declared, type.isSynthesized = false) ∧
      List.Forall₂ MadeFrom (inlineObjects entries) added) ∧
    (∀ position found, (position, found) ∈ inlineObjects entries ↔
      StandsAt entries position found) ∧
    (positions entries).Nodup ∧
    (∀ position found, StandsAt entries position found →
      graph.occurrences.filter (fun occurrence => occurrence.id = positionNumber entries position) =
        [position.site (positionNumber entries)]) ∧
    ∀ table objects, (collect entries).outcome.1 = .ok table → ∀ name pointer location type,
      (table.addObjects objects).resolveName name pointer location = .ok type →
        ∃ id < entries.length, type = .named id := by
  obtain ⟨shapes, reads, _, rfl, _⟩ := analyze_eq_ok_iff.mp returns
  refine ⟨reads.types_eq, fun _ _ => mem_inlineObjects_iff,
    nodup_positions reads.distinct reads.reads, ?_, ?_⟩
  · intro position found stands
    have listed : position ∈ (inlineObjects entries).map (·.1) :=
      List.mem_map_of_mem (mem_inlineObjects_iff.mpr stands)
    rw [(inlineObjects_placed reads.reads (fun _ => 0) 0).1] at listed
    exact reads.occurrences_filter document listed
  · intro table objects collects name pointer location type
    exact resolveName_lt collects objects

/-- A section with objects without a name in properties, in arrays of arrays and in each other, one
of which asks for the name of a declaration that another property refers to. -/
def nestedSection : Entries :=
  [("order", .mapping 1 [("type", .scalar 1 (.text "object")), ("properties", .mapping 1 [
      ("line", .mapping 1 [("type", .scalar 1 (.text "object")), ("properties", .mapping 1 [
        ("cells", .mapping 1 [("items", .mapping 1 [("type", .scalar 1 (.text "array")),
          ("items", .mapping 1 [("type", .scalar 1 (.text "object"))])])])])]),
      ("other",
        .mapping 2
          [("$ref", .scalar 2 (.text "#/Line")), ("type", .scalar 2 (.text "object"))])])]),
   ("Line", .mapping 3 [("type", .scalar 3 (.text "array")), ("items", .mapping 3 [
      ("type", .scalar 3 (.text "object")), ("properties", .mapping 3 [
        ("next", .mapping 3 [("type", .scalar 3 (.text "Line"))])])])])]

theorem nestedSection_used_once :
    ∃ graph pending, (analyze "" nestedSection).outcome.1 = .ok (graph, pending) ∧
      graph.types.map (·.name) = ["Order", "Line", "Line2", "CellsItemItem", "LineItem"] ∧
      (inlineObjects nestedSection).map (·.1) =
        [{ declaration := "order", steps := [.property "line"] },
         { declaration := "order", steps := [.property "line", .property "cells", .items, .items] },
         { declaration := "Line", steps := [.items] }] ∧
      StandsAt nestedSection
        { declaration := "order", steps := [.property "line", .property "cells", .items, .items] }
        [("type", .scalar 1 (.text "object"))] ∧
      graph.occurrences.filter (fun occurrence => occurrence.id = 3) =
        [{ owner := 2, field := some "cells", id := 3 }] := by
  have accepted : ((analyze "" nestedSection).outcome.1.toOption.map fun result =>
      result.1.types.map (·.name)) =
        some ["Order", "Line", "Line2", "CellsItemItem", "LineItem"] := by
    decide +kernel
  obtain ⟨⟨graph, pending⟩, analyzed, names⟩ := Option.map_eq_some_iff.mp accepted
  have isAnalyzed := eq_ok_of_toOption analyzed
  have places : (inlineObjects nestedSection).map (·.1) =
      [{ declaration := "order", steps := [.property "line"] },
       { declaration := "order", steps := [.property "line", .property "cells", .items, .items] },
       { declaration := "Line", steps := [.items] }] := by
    decide +kernel
  have stands : StandsAt nestedSection
      { declaration := "order", steps := [.property "line", .property "cells", .items, .items] }
      [("type", .scalar 1 (.text "object"))] := by
    refine ⟨_, _, List.mem_cons_self, by simp, ?_, by decide⟩
    exact .property rfl List.mem_cons_self
      (.property rfl List.mem_cons_self (.items rfl (.items rfl .here)))
  have once := (inline_objects_used_once isAnalyzed).2.2.2.1 _ _ stands
  have number : positionNumber nestedSection
      { declaration := "order", steps := [.property "line", .property "cells", .items, .items] } =
        3 := by
    decide +kernel
  have owner : positionNumber nestedSection
      { declaration := "order", steps := [.property "line"] } = 2 := by
    decide +kernel
  have site : siteSteps [.property "line", .property "cells", .items, .items] =
      ([.property "line"], some "cells") := by
    decide
  refine ⟨graph, pending, isAnalyzed, names, places, stands, ?_⟩
  rw [number] at once
  rw [once, Position.site, siteAt, site, owner, number]

end SchemaCompiler.Schema
