import SchemaCompiler.Proofs.Analysis

/-!
# Objects without a name in a document

An object without a name stands in a property of an object or is the element of an array, at any
depth below a declaration. What leads to it are the *steps* from the declaration (`Reaches`).
`inlineObjects` lists the objects of a section in pre-order: declarations and properties in their
order, and every object before those that stand in it. The types that a section is given are made
from these objects, one for each and in the same order (`typeShape_lists`).
-/

namespace SchemaCompiler.Schema

open Document (Node Entries Scalar)

/-- A step from a mapping to one that stands in it. -/
inductive Step where
  | property (name : String)
  | items
  deriving DecidableEq, Repr

/-- What other mappings stand in a mapping as: in an object as properties, in an array as its
elements. -/
inductive Form where
  | object
  | array
  | other
  deriving DecidableEq, Repr

/-- The form of a declaration. -/
def declarationForm (entries : Entries) : Form :=
  if entries.scalar "type" = .text "object" then .object
  else if entries.scalar "type" = .text "array" then .array
  else .other

/-- The form of a property or of the elements of an array. A reference hides everything else, and
`items` alone make an array. -/
def typeForm (entries : Entries) : Form :=
  if (entries.get? "$ref").isSome then .other
  else if entries.scalar "type" = .text "object" then .object
  else if entries.scalar "type" = .text "array" ∨
      entries.scalar "type" = .null ∧ entries.contains "items" = true then .array
  else .other

/-- From a mapping of a form, steps lead to another mapping. -/
inductive Reaches : Form → Entries → List Step → Entries → Prop where
  | here {form : Form} {entries : Entries} : Reaches form entries [] entries
  | property {entries properties inner found : Entries} {line innerLine : Int} {name : String}
      {steps : List Step} :
      entries.get? "properties" = some (.mapping line properties) →
      (name, .mapping innerLine inner) ∈ properties → Reaches (typeForm inner) inner steps found →
      Reaches .object entries (.property name :: steps) found
  | items {entries inner found : Entries} {line : Int} {steps : List Step} :
      entries.get? "items" = some (.mapping line inner) →
      Reaches (typeForm inner) inner steps found →
      Reaches .array entries (.items :: steps) found

theorem Reaches.eq_of_nil {form : Form} {entries found : Entries}
    (reaches : Reaches form entries [] found) :
    found = entries := by
  cases reaches
  rfl

/-- The first step into an object leads to a property. -/
theorem Reaches.object_cases {entries found : Entries} {steps : List Step} (nonempty : steps ≠ [])
    (reaches : Reaches .object entries steps found) :
    ∃ line properties name innerLine inner more,
      entries.get? "properties" = some (.mapping line properties) ∧
      (name, .mapping innerLine inner) ∈ properties ∧ steps = .property name :: more ∧
      Reaches (typeForm inner) inner more found := by
  cases reaches with
  | here => exact absurd rfl nonempty
  | property isMapping member onward => exact ⟨_, _, _, _, _, _, isMapping, member, rfl, onward⟩

/-- The first step into an array leads to its elements. -/
theorem Reaches.array_cases {entries found : Entries} {steps : List Step} (nonempty : steps ≠ [])
    (reaches : Reaches .array entries steps found) :
    ∃ line inner more, entries.get? "items" = some (.mapping line inner) ∧ steps = .items :: more ∧
      Reaches (typeForm inner) inner more found := by
  cases reaches with
  | here => exact absurd rfl nonempty
  | items isMapping onward => exact ⟨_, _, _, isMapping, rfl, onward⟩

/-! ## In pre-order -/

mutual

/-- The objects without a name in a mapping of a form, each with the steps to it. -/
def objectsInside (form : Form) (entries : Entries) : List (List Step × Entries) :=
  match form with
  | .object =>
    match _found : entries.get? "properties" with
    | some (.mapping _ properties) => objectsAmong properties
    | _ => []
  | .array =>
    match _found : entries.get? "items" with
    | some (.mapping _ items) => (objectsAt items).map fun object => (.items :: object.1, object.2)
    | _ => []
  | .other => []
termination_by 2 * sizeOf entries
decreasing_by
  all_goals
    have smaller := Entries.sizeOf_lt_of_get? _found
    simp only [Node.mapping.sizeOf_spec] at smaller ⊢
    omega

/-- The objects without a name among properties. -/
def objectsAmong (properties : Entries) : List (List Step × Entries) :=
  match properties with
  | [] => []
  | (name, .mapping _ inner) :: rest =>
    (objectsAt inner).map (fun object => (.property name :: object.1, object.2)) ++
      objectsAmong rest
  | _ :: rest => objectsAmong rest
termination_by 2 * sizeOf properties

/-- The objects without a name at a property or array element: itself, if it is one, and those in
it. -/
def objectsAt (entries : Entries) : List (List Step × Entries) :=
  if typeForm entries = .object then ([], entries) :: objectsInside (typeForm entries) entries
  else objectsInside (typeForm entries) entries
termination_by 2 * sizeOf entries + 1

end

theorem objectsInside_object (entries : Entries) :
    objectsInside .object entries =
      match entries.get? "properties" with
      | some (.mapping _ properties) => objectsAmong properties
      | _ => [] := by
  rw [objectsInside]
  split <;> simp_all

theorem objectsInside_array (entries : Entries) :
    objectsInside .array entries =
      match entries.get? "items" with
      | some (.mapping _ items) =>
          (objectsAt items).map fun object => (.items :: object.1, object.2)
      | _ => [] := by
  rw [objectsInside]
  split <;> simp_all

theorem objectsInside_other (entries : Entries) : objectsInside .other entries = [] := by
  rw [objectsInside]

/-- Every object is listed under the property that it stands in. -/
theorem mem_objectsAmong_iff {properties : Entries} {steps : List Step} {found : Entries} :
    (steps, found) ∈ objectsAmong properties ↔
      ∃ name line inner more, (name, .mapping line inner) ∈ properties ∧
        steps = .property name :: more ∧
        (more, found) ∈ objectsAt inner := by
  induction properties with
  | nil => simp [objectsAmong]
  | cons entry rest ih =>
      obtain ⟨key, node⟩ := entry
      cases node with
      | mapping line inner =>
          rw [objectsAmong, List.mem_append, ih]
          constructor
          · rintro (here | ⟨name, innerLine, deeper, more, member, rfl, listed⟩)
            · obtain ⟨⟨more, _⟩, listed, same⟩ := List.mem_map.mp here
              cases same
              exact ⟨key, line, inner, more, List.mem_cons_self, rfl, listed⟩
            · exact ⟨name, innerLine, deeper, more, List.mem_cons_of_mem _ member, rfl, listed⟩
          · rintro ⟨name, innerLine, deeper, more, member, rfl, listed⟩
            rcases List.mem_cons.mp member with same | later
            · cases same
              exact .inl (List.mem_map.mpr ⟨(more, found), listed, rfl⟩)
            · exact .inr ⟨name, innerLine, deeper, more, later, rfl, listed⟩
      | scalar line value => simp [objectsAmong, ih]
      | sequence line items => simp [objectsAmong, ih]
      | absent => simp [objectsAmong, ih]

mutual

/-- The objects that are listed inside a mapping are those that one step or more leads to. -/
theorem mem_objectsInside_iff (form : Form) (entries : Entries) {steps : List Step}
    {found : Entries} :
    (steps, found) ∈ objectsInside form entries ↔
      steps ≠ [] ∧ Reaches form entries steps found ∧ typeForm found = .object := by
  match form with
  | .other =>
      rw [objectsInside_other]
      refine iff_of_false (by simp) ?_
      rintro ⟨nonempty, reaches, _⟩
      cases reaches
      exact nonempty rfl
  | .object =>
      rw [objectsInside_object]
      split
      next line properties isMapping =>
        have smaller := Entries.sizeOf_lt_of_get? isMapping
        rw [mem_objectsAmong_iff]
        constructor
        · rintro ⟨name, innerLine, inner, more, member, rfl, listed⟩
          have inside := List.sizeOf_lt_of_mem member
          obtain ⟨reaches, isObject⟩ := (mem_objectsAt_iff inner).mp listed
          exact ⟨by simp, .property isMapping member reaches, isObject⟩
        · rintro ⟨nonempty, reaches, isObject⟩
          obtain ⟨_, _, name, innerLine, inner, more, isMapping', member, rfl, onward⟩ :=
            reaches.object_cases nonempty
          cases isMapping.symm.trans isMapping'
          have inside := List.sizeOf_lt_of_mem member
          exact ⟨name, innerLine, inner, more, member, rfl,
            (mem_objectsAt_iff inner).mpr ⟨onward, isObject⟩⟩
      next noMapping =>
        refine iff_of_false (by simp) ?_
        rintro ⟨nonempty, reaches, _⟩
        obtain ⟨line, properties, _, _, _, _, isMapping, _⟩ := reaches.object_cases nonempty
        exact noMapping line properties isMapping
  | .array =>
      rw [objectsInside_array]
      split
      next line items isMapping =>
        have smaller := Entries.sizeOf_lt_of_get? isMapping
        rw [List.mem_map]
        constructor
        · rintro ⟨⟨more, _⟩, listed, same⟩
          cases same
          obtain ⟨reaches, isObject⟩ := (mem_objectsAt_iff items).mp listed
          exact ⟨by simp, .items isMapping reaches, isObject⟩
        · rintro ⟨nonempty, reaches, isObject⟩
          obtain ⟨_, _, more, isMapping', rfl, onward⟩ := reaches.array_cases nonempty
          cases isMapping.symm.trans isMapping'
          exact ⟨(more, found), (mem_objectsAt_iff items).mpr ⟨onward, isObject⟩, rfl⟩
      next noMapping =>
        refine iff_of_false (by simp) ?_
        rintro ⟨nonempty, reaches, _⟩
        obtain ⟨line, items, _, isMapping, _⟩ := reaches.array_cases nonempty
        exact noMapping line items isMapping
termination_by 2 * sizeOf entries
decreasing_by
  all_goals
    simp only [Node.mapping.sizeOf_spec, Prod.mk.sizeOf_spec] at *
    omega

/-- The objects that are listed at a mapping are those that steps lead to, itself included. -/
theorem mem_objectsAt_iff (entries : Entries) {steps : List Step} {found : Entries} :
    (steps, found) ∈ objectsAt entries ↔
      Reaches (typeForm entries) entries steps found ∧ typeForm found = .object := by
  rw [objectsAt]
  by_cases isObject : typeForm entries = .object
  · rw [if_pos isObject, List.mem_cons, mem_objectsInside_iff (typeForm entries) entries]
    constructor
    · rintro (same | ⟨_, reaches, foundObject⟩)
      · cases same
        exact ⟨.here, isObject⟩
      · exact ⟨reaches, foundObject⟩
    · rintro ⟨reaches, foundObject⟩
      by_cases isHere : steps = []
      · subst isHere
        exact .inl (by rw [reaches.eq_of_nil])
      · exact .inr ⟨isHere, reaches, foundObject⟩
  · rw [if_neg isObject, mem_objectsInside_iff (typeForm entries) entries]
    constructor
    · rintro ⟨_, reaches, foundObject⟩
      exact ⟨reaches, foundObject⟩
    · rintro ⟨reaches, foundObject⟩
      refine ⟨?_, reaches, foundObject⟩
      rintro rfl
      rw [reaches.eq_of_nil] at foundObject
      exact isObject foundObject
termination_by 2 * sizeOf entries + 1

end

/-! ## What types are made from -/

/-- The name that the type for an object is named after: that of the property it stands in, or one
made from the name of the array it is an element of. -/
def nameAfter (outer : String) (steps : List Step) : String :=
  steps.foldl (fun outer step =>
    match step with
    | .property name => name
    | .items => Naming.typeName outer ++ "Item") outer

/-- The names of the properties of an object, in order. -/
def propertyNames (entries : Entries) : List String :=
  match entries.get? "properties" with
  | some (.mapping _ properties) => properties.map (·.1)
  | _ => []

/-- The properties of an object, in order. -/
def objectProperties (entries : Entries) : Entries :=
  match entries.get? "properties" with
  | some (.mapping _ properties) => properties
  | _ => []

theorem propertyNames_eq (entries : Entries) :
    propertyNames entries = (objectProperties entries).map (·.1) := by
  unfold propertyNames objectProperties
  split <;> rfl

/-- Does a property say that it is required? -/
def saysRequired : Node → Bool
  | .mapping _ entries =>
    match Entries.get? entries "required" with
    | some (.scalar _ (.bool required)) => required
    | _ => false
  | _ => false

/-- A field that is made from a property: named after it, and optional unless the property says that
it is required. Only elements of arrays can be of any type. -/
structure FieldFrom (property : String × Node) (field : Field) : Prop where
  sourceName : field.sourceName = property.1
  name : field.name = Naming.fieldName property.1
  optional : field.optional = !saysRequired property.2
  limited : field.type ≠ .any

/-- Fields that are made from properties, one from each and with a name of its own. -/
structure FieldsFrom (properties : Entries) (fields : List Field) : Prop where
  each : List.Forall₂ FieldFrom properties fields
  distinct : (fields.map (·.name)).Nodup

namespace FieldsFrom

variable {properties : Entries} {fields : List Field}

theorem nil : FieldsFrom [] [] := ⟨.nil, List.nodup_nil⟩

theorem map_sourceName (each : List.Forall₂ FieldFrom properties fields) :
    fields.map (·.sourceName) = properties.map (·.1) := by
  induction each with
  | nil => rfl
  | cons first _ ih => rw [List.map_cons, List.map_cons, first.sourceName, ih]

theorem map_name (each : List.Forall₂ FieldFrom properties fields) :
    fields.map (·.name) = properties.map (Naming.fieldName ·.1) := by
  induction each with
  | nil => rfl
  | cons first _ ih => rw [List.map_cons, List.map_cons, first.name, ih]

theorem cons {property : String × Node} {field : Field} (first : FieldFrom property field)
    (rest : FieldsFrom properties fields)
    (fresh : ∀ other ∈ properties, Naming.fieldName other.1 ≠ Naming.fieldName property.1) :
    FieldsFrom (property :: properties) (field :: fields) := by
  refine ⟨.cons first rest.each, List.nodup_cons.mpr ⟨?_, rest.distinct⟩⟩
  rw [map_name rest.each]
  intro repeated
  obtain ⟨other, isProperty, same⟩ := List.mem_map.mp repeated
  exact fresh other isProperty (same.trans first.name)

end FieldsFrom

/-- A name and fields that are those of an object without a name. -/
def Describes (outer : String) (object : List Step × Entries) (made : String × List Field) : Prop :=
  made.1 = nameAfter outer object.1 ∧ FieldsFrom (objectProperties object.2) made.2

/-- The objects that a document has are those that were read, in the same order, each at steps of
its own. -/
structure Lists (outer : String) (objects : List (List Step × Entries)) (steps : List (List Step))
    (made : List (String × List Field)) : Prop where
  places : objects.map (·.1) = steps
  made : List.Forall₂ (Describes outer) objects made
  distinct : steps.Nodup

namespace Lists

variable {outer : String} {objects objects' : List (List Step × Entries)}
  {steps steps' : List (List Step)} {made made' : List (String × List Field)}

theorem nil : Lists outer [] [] [] := ⟨rfl, .nil, List.nodup_nil⟩

/-- One step more leads to all of them. -/
theorem below (step : Step) (lists : Lists (nameAfter outer [step]) objects steps made) :
    Lists outer (objects.map fun object => (step :: object.1, object.2))
      (steps.map (step :: ·)) made where
  places := by
    rw [← lists.places, List.map_map, List.map_map]
    rfl
  made := List.forall₂_map_left_iff.mpr lists.made
  distinct := lists.distinct.map (List.cons_injective)

theorem append (left : Lists outer objects steps made) (right : Lists outer objects' steps' made')
    (apart : ∀ here ∈ steps, ∀ there ∈ steps', here ≠ there) :
    Lists outer (objects ++ objects') (steps ++ steps') (made ++ made') where
  places := by rw [List.map_append, left.places, right.places]
  made := List.rel_append left.made right.made
  distinct := List.nodup_append.mpr ⟨left.distinct, right.distinct, apart⟩

/-- An object comes before those that stand in it. -/
theorem here (inside : Lists outer objects steps made) (deeper : [] ∉ steps) {entries : Entries}
    {fields : List Field} (named : FieldsFrom (objectProperties entries) fields) :
    Lists outer (([], entries) :: objects) ([] :: steps) ((outer, fields) :: made) where
  places := by rw [List.map_cons, inside.places]
  made := .cons ⟨rfl, named⟩ inside.made
  distinct := List.nodup_cons.mpr ⟨deeper, inside.distinct⟩

end Lists

mutual

/-- The steps to the objects without a name in a shape. -/
def Shape.steps : Shape → List (List Step)
  | .array items => items.steps.map (.items :: ·)
  | .inline _ fields => [] :: fields.steps
  | _ => []

def FieldShapes.steps : FieldShapes → List (List Step)
  | .nil => []
  | .cons head type rest => type.steps.map (.property head.sourceName :: ·) ++ rest.steps

end

/-- The steps to an object in a field start with a property. -/
theorem FieldShapes.nil_not_mem_steps (fields : FieldShapes) : [] ∉ fields.steps := by
  cases fields with
  | nil => simp [FieldShapes.steps]
  | cons head type rest => simp [FieldShapes.steps, rest.nil_not_mem_steps]

theorem text?_beq_iff {scalar : Scalar} {word : String} :
    (scalar.text? == some word) = true ↔ scalar = .text word := by
  cases scalar <;> simp [Scalar.text?]

theorem objectsAt_of_other {entries : Entries} (other : typeForm entries = .other) :
    objectsAt entries = [] := by
  rw [objectsAt, other, if_neg (by decide), objectsInside_other]

theorem saysRequired_of_requiredOf {location : Location} {line : Int} {entries : Entries}
    {required : Bool} (read : requiredOf location entries = .ok required) :
    saysRequired (.mapping line entries) = required := by
  unfold requiredOf at read
  dsimp only [saysRequired]
  split at read
  next absent =>
    cases read
    rw [absent]
  next line value isBool =>
    cases read
    rw [isBool]
  next => exact absurd read failAt_ne_ok

theorem expr_ne_any {shape : Shape} (limited : shape ≠ .any) {number : String → Nat} {start : Nat} :
    shape.expr number start ≠ .any := by
  cases shape with
  | any => exact absurd rfl limited
  | scalar | array | declared | inline => simp [Shape.expr]

/-- Properties that can be read together have names that differ from those before them. -/
theorem fieldShapes_fresh {known : String → Bool} {declaration path : String}
    {seen : List (String × String)} {properties : Entries} {fields : FieldShapes}
    (read : fieldShapes known declaration path seen properties = .ok fields) :
    ∀ entry ∈ properties, seen.lookup (Naming.fieldName entry.1) = none := by
  induction properties generalizing seen fields with
  | nil => simp
  | cons entry rest ih =>
      obtain ⟨name, node⟩ := entry
      rw [fieldShapes.eq_def] at read
      dsimp only at read
      split at read
      · exact absurd read failAt_ne_ok
      split at read
      · exact absurd read failAt_ne_ok
      next isNew =>
      split at read
      next line entries =>
        obtain ⟨required, _, read⟩ := bind_eq_ok read
        obtain ⟨type, _, read⟩ := bind_eq_ok read
        obtain ⟨others, othersRead, _⟩ := bind_eq_ok read
        intro other member
        rcases List.mem_cons.mp member with rfl | later
        · exact isNew
        · have fresh := ih othersRead other later
          rw [List.lookup_append, Option.or_eq_none_iff] at fresh
          exact fresh.1
      · exact absurd read failAt_ne_ok

/-- The properties of an object are read in order. -/
theorem fieldShapes_of_objectShape {known : String → Bool} {declaration path : String}
    {entries : Entries} {fields : FieldShapes}
    (read : objectShape known declaration path entries = .ok fields) :
    fieldShapes known declaration path [] (objectProperties entries) = .ok fields := by
  rw [objectShape_eq] at read
  rw [objectProperties]
  split at read
  next absent =>
    rw [absent, fieldShapes]
    exact read
  next line isNull =>
    rw [isNull, fieldShapes]
    exact read
  next line properties isMapping =>
    rw [isMapping]
    exact read
  · exact absurd read failAt_ne_ok

theorem objectsInside_object_eq (entries : Entries) :
    objectsInside .object entries = objectsAmong (objectProperties entries) := by
  rw [objectsInside_object, objectProperties]
  split
  · rfl
  · rw [objectsAmong]

/-- An array has elements of any type, or those that its items describe. -/
theorem arrayShape_cases {known : String → Bool} {declaration path ownerName : String}
    {entries : Entries} {shape : Shape}
    (read : arrayShape known declaration path ownerName entries = .ok shape) :
    (shape = .array .any ∧ objectsInside .array entries = []) ∨
      ∃ inner line items itemShape, entries.get? "items" = some (.mapping line items) ∧
        typeShape known declaration inner (ownerName ++ "Item") line items = .ok itemShape ∧
        shape = .array itemShape ∧
        objectsInside .array entries = (objectsAt items).map fun object =>
          (.items :: object.1, object.2) := by
  rw [arrayShape_eq] at read
  rw [objectsInside_array]
  split at read
  next absent =>
    cases read
    rw [absent]
    exact .inl ⟨rfl, rfl⟩
  next line isNull =>
    cases read
    rw [isNull]
    exact .inl ⟨rfl, rfl⟩
  next line items isMapping =>
    obtain ⟨itemShape, itemsRead, rfl⟩ := map_eq_ok read
    rw [isMapping]
    exact .inr ⟨_, line, items, itemShape, rfl, itemsRead, rfl, rfl⟩
  · exact absurd read failAt_ne_ok

/-- A type that can be read is an object without a name, an array, or has no object in it. -/
theorem typeShape_cases {known : String → Bool} {declaration path outer : String} {line : Int}
    {entries : Entries} {shape : Shape}
    (read : typeShape known declaration path outer line entries = .ok shape) :
    (∃ fields, objectShape known declaration path entries = .ok fields ∧
      shape = .inline outer fields ∧
      objectsAt entries = ([], entries) :: objectsInside .object entries) ∨
    (arrayShape known declaration path (Naming.typeName outer) entries = .ok shape ∧
      objectsAt entries = objectsInside .array entries) ∨
    ((∃ kind, shape = .scalar kind) ∨ (∃ target, shape = .declared target)) ∧
    objectsAt entries = [] := by
  have named {name : String} {pointer : Bool} {location : Location}
      (read : nameShape known name pointer location = .ok shape) :
      ∃ target, shape = .declared target := by
    obtain ⟨target, _, same⟩ := nameShape_eq_ok read
    exact ⟨target, same⟩
  rw [typeShape] at read
  split at read
  next node isReference =>
    have other : typeForm entries = .other := by simp [typeForm, isReference]
    obtain ⟨reference, _, read⟩ := bind_eq_ok read
    exact .inr (.inr ⟨.inr (named read), objectsAt_of_other other⟩)
  next noReference =>
    dsimp only at read
    split at read
    next isObject =>
      have form : typeForm entries = .object := by
        simp [typeForm, noReference, text?_beq_iff.mp isObject]
      obtain ⟨fields, fieldsRead, rfl⟩ := map_eq_ok read
      exact .inl ⟨fields, fieldsRead, rfl, by rw [objectsAt, form, if_pos rfl]⟩
    next notObject =>
    rw [text?_beq_iff] at notObject
    split at read
    next isArray =>
      rw [Bool.or_eq_true, Bool.and_eq_true, text?_beq_iff, beq_iff_eq] at isArray
      have form : typeForm entries = .array := by
        simp [typeForm, noReference, notObject, isArray]
      exact .inr (.inl ⟨read, by rw [objectsAt, form, if_neg (by decide)]⟩)
    next notArray =>
    rw [Bool.or_eq_true, Bool.and_eq_true, text?_beq_iff, beq_iff_eq] at notArray
    have other : typeForm entries = .other := by
      simp only [typeForm, noReference, notObject, Option.isSome_none, Bool.false_eq_true, if_false]
      exact if_neg notArray
    refine .inr (.inr ⟨?_, objectsAt_of_other other⟩)
    split at read
    · cases read
      exact .inl ⟨_, rfl⟩
    split at read
    · exact .inr (named read)
    split at read
    · cases read
    · obtain ⟨shown, _, read⟩ := bind_eq_ok read
      cases read

/-- A property has a type with limits. -/
theorem typeShape_ne_any {known : String → Bool} {declaration path outer : String} {line : Int}
    {entries : Entries} {shape : Shape}
    (read : typeShape known declaration path outer line entries = .ok shape) : shape ≠ .any := by
  rintro rfl
  rcases typeShape_cases read with ⟨_, _, same, _⟩ | ⟨isArray, _⟩ | ⟨⟨_, same⟩ | ⟨_, same⟩, _⟩
  · cases same
  · obtain ⟨_, same⟩ := arrayShape_eq_ok isArray
    cases same
  · cases same
  · cases same

theorem sizeOf_objectProperties_le (entries : Entries) :
    sizeOf (objectProperties entries) ≤ sizeOf entries := by
  unfold objectProperties
  split
  next line properties isMapping =>
    have smaller := Entries.sizeOf_lt_of_get? isMapping
    simp only [Node.mapping.sizeOf_spec] at smaller
    omega
  · cases entries with
    | nil => exact Nat.le_refl _
    | cons entry rest =>
        simp only [List.nil.sizeOf_spec, List.cons.sizeOf_spec]
        omega

mutual

theorem fieldShapes_lists {known : String → Bool} {declaration path : String}
    {seen : List (String × String)} {properties : Entries} {fields : FieldShapes}
    (read : fieldShapes known declaration path seen properties = .ok fields) (outer : String)
    (number : String → Nat) (start first : Nat) :
    Lists outer (objectsAmong properties) fields.steps (fields.objects number start) ∧
      FieldsFrom properties (fields.fields number first) := by
  match properties with
  | [] =>
      rw [fieldShapes] at read
      cases read
      rw [objectsAmong]
      exact ⟨.nil, .nil⟩
  | (name, node) :: rest =>
      rw [fieldShapes.eq_def] at read
      dsimp only at read
      split at read
      · exact absurd read failAt_ne_ok
      split at read
      · exact absurd read failAt_ne_ok
      split at read
      next line entries =>
        obtain ⟨required, isRequired, read⟩ := bind_eq_ok read
        obtain ⟨type, typeRead, read⟩ := bind_eq_ok read
        obtain ⟨others, othersRead, read⟩ := bind_eq_ok read
        cases read
        -- the properties behind this one have other names
        have fresh : ∀ other ∈ rest, Naming.fieldName other.1 ≠ Naming.fieldName name := by
          intro other member same
          have new := fieldShapes_fresh othersRead other member
          rw [List.lookup_append, Option.or_eq_none_iff, same] at new
          simp at new
        have inType := typeShape_lists typeRead number start
        have inOthers := fieldShapes_lists othersRead outer number (start + type.size)
          (first + type.size)
        rw [objectsAmong]
        refine ⟨Lists.append (.below (.property name) inType) inOthers.1 ?_, ?_⟩
        · intro here inHere there inThere same
          obtain ⟨_, _, rfl⟩ := List.mem_map.mp inHere
          rw [← inOthers.1.places] at inThere
          obtain ⟨⟨_, found⟩, listed, rfl⟩ := List.mem_map.mp inThere
          obtain ⟨other, _, _, _, member, isStep, _⟩ := mem_objectsAmong_iff.mp listed
          cases same.trans isStep
          exact fresh _ member rfl
        · exact .cons ⟨rfl, rfl, congrArg (!·) (saysRequired_of_requiredOf isRequired).symm,
            expr_ne_any (typeShape_ne_any typeRead)⟩ inOthers.2 fresh
      · exact absurd read failAt_ne_ok
termination_by 2 * sizeOf properties

theorem typeShape_lists {known : String → Bool} {declaration path outer : String} {line : Int}
    {entries : Entries} {shape : Shape}
    (read : typeShape known declaration path outer line entries = .ok shape) (number : String → Nat)
    (start : Nat) : Lists outer (objectsAt entries) shape.steps (shape.objects number start) := by
  rcases typeShape_cases read with ⟨fields, fieldsRead, rfl, isAt⟩ | ⟨isArray, isAt⟩ |
    ⟨⟨_, rfl⟩ | ⟨_, rfl⟩, isAt⟩
  · have smaller := sizeOf_objectProperties_le entries
    obtain ⟨inside, named⟩ :=
      fieldShapes_lists (fieldShapes_of_objectShape fieldsRead) outer number (start + 1) (start + 1)
    rw [isAt, objectsInside_object_eq]
    exact inside.here fields.nil_not_mem_steps named
  · rw [isAt]
    exact arrayShape_lists isArray number start
  · rw [isAt]
    exact .nil
  · rw [isAt]
    exact .nil
termination_by 2 * sizeOf entries + 1

theorem arrayShape_lists {known : String → Bool} {declaration path outer : String}
    {entries : Entries} {shape : Shape}
    (read : arrayShape known declaration path (Naming.typeName outer) entries = .ok shape)
    (number : String → Nat) (start : Nat) :
    Lists outer (objectsInside .array entries) shape.steps (shape.objects number start) := by
  rcases arrayShape_cases read with ⟨rfl, inside⟩ |
    ⟨_, _, items, _, isMapping, itemsRead, rfl, inside⟩
  · rw [inside]
    exact .nil
  · have smaller := Entries.sizeOf_lt_of_get? isMapping
    rw [inside]
    have inItems := typeShape_lists itemsRead number start
    exact .below .items inItems
termination_by 2 * sizeOf entries
decreasing_by
  simp only [Node.mapping.sizeOf_spec] at smaller
  omega

end

theorem objectShape_lists {known : String → Bool} {declaration path : String} {entries : Entries}
    {fields : FieldShapes} (read : objectShape known declaration path entries = .ok fields)
    (outer : String) (number : String → Nat) (start first : Nat) :
    Lists outer (objectsInside .object entries) fields.steps (fields.objects number start) ∧
      FieldsFrom (objectProperties entries) (fields.fields number first) := by
  rw [objectsInside_object_eq]
  exact fieldShapes_lists (fieldShapes_of_objectShape read) outer number start first

/-! ## Declarations -/

/-- The form that the provisional body of a declaration tells. -/
def Body.form : Body → Form
  | .object _ _ => .object
  | .aliasOf .missing => .array
  | _ => .other

theorem provisionalBody_form {location : Location} {entries : Entries} {body : Body}
    (read : provisionalBody location entries = .ok body) : body.form = declarationForm entries := by
  have formOf (word : String) (isWord : entries.scalar "type" = .text word)
      (notObject : word ≠ "object")
      (notArray : word ≠ "array") : Form.other = declarationForm entries := by
    simp [declarationForm, isWord, notObject, notArray]
  unfold provisionalBody at read
  dsimp only at read
  split at read
  next isEnum =>
    cases read
    rw [Bool.and_eq_true, text?_beq_iff] at isEnum
    exact formOf "string" isEnum.1 (by decide) (by decide)
  split at read
  next isObject =>
    cases read
    simp [Body.form, declarationForm, text?_beq_iff.mp isObject]
  next notObject =>
  rw [text?_beq_iff] at notObject
  split at read
  next kind isScalar =>
    cases read
    obtain ⟨word, isText, isKind⟩ := Option.bind_eq_some_iff.mp isScalar
    have isWord : entries.scalar "type" = .text word :=
      text?_beq_iff.mp (by rw [isText, beq_self_eq_true])
    refine formOf word isWord ?_ ?_
    · rintro rfl
      exact notObject isWord
    · rintro rfl
      have none : ScalarKind.ofToken? "array" = none := by decide
      rw [none] at isKind
      cases isKind
  split at read
  next isArray =>
    cases read
    simp [Body.form, declarationForm, text?_beq_iff.mp isArray]
  next notArray =>
  rw [text?_beq_iff] at notArray
  have other : declarationForm entries = .other := by simp [declarationForm, notObject, notArray]
  rw [other]
  split at read
  next =>
    obtain ⟨reference, _, read⟩ := bind_eq_ok read
    cases read
    rfl
  split at read
  · exact absurd read fail_ne_ok
  next word _ =>
    split at read
    · obtain ⟨shown, _, read⟩ := bind_eq_ok read
      exact absurd read fail_ne_ok
    · cases read
      rfl
  · obtain ⟨shown, _, read⟩ := bind_eq_ok read
    exact absurd read fail_ne_ok

theorem provisional_form {name : String} {line : Int} {entries : Entries} {type : NamedType}
    (read : provisional name (.mapping line entries) = .ok type) :
    type.body.form = declarationForm entries := by
  unfold provisional at read
  dsimp only at read
  split at read
  · exact absurd read failAt_ne_ok
  · obtain ⟨body, bodyRead, read⟩ := bind_eq_ok read
    cases read
    exact provisionalBody_form bodyRead

/-- The steps to the objects without a name in a declaration. -/
def DeclarationShape.steps : DeclarationShape → List (List Step)
  | object fields => fields.steps
  | enumeration _ => []
  | aliasOf target => target.steps

/-- The objects without a name in a declaration, each with the steps to it. -/
def declarationObjects : Node → List (List Step × Entries)
  | .mapping _ entries => objectsInside (declarationForm entries) entries
  | _ => []

/-- Nothing stands in a mapping that is neither an object nor an array. -/
theorem Lists.other (outer : String) (entries : Entries) :
    Lists outer (objectsInside .other entries) [] [] := by
  rw [objectsInside_other]
  exact .nil

theorem declarationShape_lists {known : String → Bool} {name : String} {node : Node}
    {shape : DeclarationShape} (read : declarationShape known name node = .ok shape)
    (number : String → Nat) (start : Nat) :
    Lists name (declarationObjects node) shape.steps (shape.objects number start) := by
  obtain ⟨type, typeRead, read⟩ := bind_eq_ok read
  obtain ⟨line, entries, body, rfl, _, isProvisional, rfl⟩ := provisional_eq_ok typeRead
  have form := provisional_form typeRead
  dsimp only at read form
  rw [declarationObjects, ← form]
  cases isProvisional with
  | object =>
      obtain ⟨fields, fieldsRead, rfl⟩ := map_eq_ok read
      exact (objectShape_lists fieldsRead name number start start).1
  | enumeration =>
      obtain ⟨values, _, rfl⟩ := map_eq_ok read
      exact .other name entries
  | scalar kind =>
      cases read
      exact .other name entries
  | array =>
      obtain ⟨target, targetRead, rfl⟩ := map_eq_ok read
      exact arrayShape_lists targetRead number start
  | name target pointer =>
      obtain ⟨shape, shapeRead, rfl⟩ := map_eq_ok read
      obtain ⟨declared, _, rfl⟩ := nameShape_eq_ok shapeRead
      exact .other name entries

end SchemaCompiler.Schema
