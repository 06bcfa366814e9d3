import SchemaCompiler.Proofs.Naming
import SchemaCompiler.Schema.Resolution

/-!
# The shapes of types

Resolving a type does two things at once: it reads what the document says, and it registers a type
for every object without a name that it meets. Here the two are taken apart. A *shape* is a type as
the document writes it, with objects without a name in place and declared types by name; it depends
on the document and on which names are declared, and on nothing else (`typeShape`). Placing a shape
numbers its objects without a name in the order in which they are met. Resolving is reading the
shape and placing it (`resolveType_gives`).
-/

namespace SchemaCompiler.Schema

open Document (Node Entries Scalar)

/-- What a document says about a field apart from its type. -/
structure FieldHead where
  name : String
  sourceName : String
  required : Bool
  validate : Option Node
  path : PropertyPath

namespace FieldHead

/-- The field with a type. -/
def field (head : FieldHead) (type : TypeExpr) : Field :=
  { name := head.name, sourceName := head.sourceName, type, required := head.required,
    optional := !head.required }

/-- What is still to be compiled for the field, given the number of its object. -/
def pending (head : FieldHead) (owner : Nat) : List Pending :=
  head.validate.toList.map fun node => { owner, fieldName := head.name, node, path := head.path }

end FieldHead

mutual

/-- A type as a document writes it. -/
inductive Shape where
  | scalar (kind : ScalarKind)
  | any
  | array (items : Shape)
  /-- A declared type, by its name in the document. -/
  | declared (name : String)
  /-- An object without a name; its type is named after `baseName`. -/
  | inline (baseName : String) (fields : FieldShapes)

/-- The fields of an object as a document writes them. -/
inductive FieldShapes where
  | nil
  | cons (head : FieldHead) (type : Shape) (rest : FieldShapes)

end

/-! ## Placing shapes -/

mutual

/-- The number of objects without a name in a shape. -/
def Shape.size : Shape → Nat
  | .array items => items.size
  | .inline _ fields => fields.size + 1
  | _ => 0

def FieldShapes.size : FieldShapes → Nat
  | .nil => 0
  | .cons _ type rest => type.size + rest.size

end

/-- The type of a shape, given the numbers of declared types and the number `start` of the first
type that is free. -/
def Shape.expr (number : String → Nat) (start : Nat) : Shape → TypeExpr
  | .scalar kind => .scalar kind
  | .any => .any
  | .array items => .array (items.expr number start)
  | .declared name => .named (number name)
  | .inline _ _ => .named start

/-- The fields with their types. -/
def FieldShapes.fields (number : String → Nat) (start : Nat) : FieldShapes → List Field
  | .nil => []
  | .cons head type rest =>
    head.field (type.expr number start) :: rest.fields number (start + type.size)

mutual

/-- The objects without a name in the order in which they are met, each with its base name and
fields. -/
def Shape.objects (number : String → Nat) (start : Nat) : Shape → List (String × List Field)
  | .array items => items.objects number start
  | .inline baseName fields =>
    (baseName, fields.fields number (start + 1)) :: fields.objects number (start + 1)
  | _ => []

def FieldShapes.objects (number : String → Nat) (start : Nat) :
    FieldShapes → List (String × List Field)
  | .nil => []
  | .cons _ type rest => type.objects number start ++ rest.objects number (start + type.size)

end

mutual

/-- What is still to be compiled for the fields inside a shape. -/
def Shape.pending (start : Nat) : Shape → List Pending
  | .array items => items.pending start
  | .inline _ fields => fields.pending start (start + 1)
  | _ => []

def FieldShapes.pending (owner start : Nat) : FieldShapes → List Pending
  | .nil => []
  | .cons head type rest =>
    type.pending start ++ head.pending owner ++ rest.pending owner (start + type.size)

end

mutual

theorem Shape.length_objects (number : String → Nat) (start : Nat) (shape : Shape) :
    (shape.objects number start).length = shape.size := by
  match shape with
  | .scalar _ => rfl
  | .any => rfl
  | .declared _ => rfl
  | .array items => exact items.length_objects number start
  | .inline _ fields =>
      simp only [Shape.objects, Shape.size, List.length_cons,
        fields.length_objects number (start + 1)]

theorem FieldShapes.length_objects (number : String → Nat) (start : Nat) (fields : FieldShapes) :
    (fields.objects number start).length = fields.size := by
  match fields with
  | .nil => rfl
  | .cons _ type rest =>
      simp only [FieldShapes.objects, FieldShapes.size, List.length_append,
        type.length_objects number start, rest.length_objects number (start + type.size)]

end

/-- Only objects without a name have fields to compile. -/
theorem Shape.pending_eq_nil (start : Nat) {shape : Shape} (noObjects : shape.size = 0) :
    shape.pending start = [] := by
  match shape with
  | .scalar _ => rfl
  | .any => rfl
  | .declared _ => rfl
  | .array items => exact items.pending_eq_nil start noObjects
  | .inline _ fields => cases noObjects

/-! ## Reading shapes -/

/-- The declared type that a name or pointer designates, if there is one. -/
def nameShape (known : String → Bool) (name : String) (pointer : Bool) (location : Location) :
    Except Failure Shape :=
  if pointer then
    if isLocalPointer name then
      if known (pointerTarget name) then .ok (.declared (pointerTarget name))
      else fail (.unknownReference name) location
    else fail (.externalReference name) location
  else if known name then .ok (.declared name)
  else fail (.unknownToken name location.field) location

mutual

/-- The shapes of the fields of an object, from its `properties`. -/
def objectShape (known : String → Bool) (declaration path : String) (entries : Entries) :
    Except Failure FieldShapes :=
  match _found : entries.get? "properties" with
  | none => .ok .nil
  | some (.scalar _ .null) => .ok .nil
  | some (.mapping _ properties) => fieldShapes known declaration path [] properties
  | some node =>
    failAt node .propertiesNotMapping { declaration := some declaration, field := pathOrNone path }
termination_by 2 * sizeOf entries
decreasing_by
  have smaller := Entries.sizeOf_lt_of_get? _found
  simp only [Node.mapping.sizeOf_spec] at smaller ⊢
  omega

/-- The shapes of properties in order. Those before gave the field names in `seen`. -/
def fieldShapes (known : String → Bool) (declaration path : String) (seen : List (String × String))
    (properties : Entries) : Except Failure FieldShapes :=
  match properties with
  | [] => .ok .nil
  | (name, node) :: rest =>
    let inner := fieldPath path name
    let fieldName := Naming.fieldName name
    let location : Location := { declaration := some declaration, field := some inner }
    if fieldName.isEmpty then failAt node (.unusableFieldName name) location
    else match seen.lookup fieldName with
      | some other => failAt node (.sameFieldName other name fieldName) location
      | none =>
        match node with
        | .mapping line entries => do
          let required ← requiredOf location entries
          let type ← typeShape known declaration inner name line entries
          let fields ← fieldShapes known declaration path (seen ++ [(fieldName, name)]) rest
          return .cons
            { name := fieldName, sourceName := name, required,
              validate := Entries.get? entries "validate",
              path := { declaration, field := inner } } type fields
        | _ => failAt node .propertyNotMapping location
termination_by 2 * sizeOf properties

/-- The shape of the type of a property or array element. -/
def typeShape (known : String → Bool) (declaration path baseName : String) (line : Int)
    (entries : Entries) : Except Failure Shape :=
  let location : Location :=
    { declaration := some declaration, field := some path, line := some line }
  match entries.get? "$ref" with
  | some node => do
    let reference ← referenceText location node
    nameShape known reference true { location with line := node.line? }
  | none =>
    let token := entries.scalar "type"
    let word := token.text?
    if word == some "object" then
      (objectShape known declaration path entries).map (.inline baseName)
    else if word == some "array" || (token == .null && entries.contains "items") then
      arrayShape known declaration path (Naming.typeName baseName) entries
    else match word.bind ScalarKind.ofToken? with
      | some kind => .ok (.scalar kind)
      | none =>
        if word.any (!·.isEmpty) then nameShape known (word.getD "") false location
        else if !entries.contains "type" then fail (.propertyWithoutType path) location
        else do
          let shown ← showScalar token
          fail (.unsupportedProperty shown path) location
termination_by 2 * sizeOf entries + 1

/-- The shape of an array, from its `items`. -/
def arrayShape (known : String → Bool) (declaration path ownerName : String) (entries : Entries) :
    Except Failure Shape :=
  match _found : entries.get? "items" with
  | none => .ok (.array .any)
  | some (.scalar _ .null) => .ok (.array .any)
  | some (.mapping line items) =>
    let inner := if path.isEmpty then "[]" else s!"{path}[]"
    (typeShape known declaration inner (ownerName ++ "Item") line items).map .array
  | some node =>
    failAt node .itemsNotMapping { declaration := some declaration, field := pathOrNone path }
termination_by 2 * sizeOf entries
decreasing_by
  have smaller := Entries.sizeOf_lt_of_get? _found
  simp only [Node.mapping.sizeOf_spec] at smaller ⊢
  omega

end

/-! ### Equations

The mappings under `properties` and `items` are looked up with a proof that they are smaller. The
equations below forget the proof. -/

theorem objectShape_eq (known : String → Bool) (declaration path : String) (entries : Entries) :
    objectShape known declaration path entries =
      match entries.get? "properties" with
      | none => .ok .nil
      | some (.scalar _ .null) => .ok .nil
      | some (.mapping _ properties) => fieldShapes known declaration path [] properties
      | some node =>
        failAt node .propertiesNotMapping
          { declaration := some declaration, field := pathOrNone path } := by
  rw [objectShape.eq_def]
  split <;> simp_all

theorem arrayShape_eq (known : String → Bool) (declaration path ownerName : String)
    (entries : Entries) :
    arrayShape known declaration path ownerName entries =
      match entries.get? "items" with
      | none => .ok (.array .any)
      | some (.scalar _ .null) => .ok (.array .any)
      | some (.mapping line items) =>
        (typeShape known declaration (if path.isEmpty then "[]" else s!"{path}[]")
          (ownerName ++ "Item") line items).map .array
      | some node =>
        failAt node .itemsNotMapping
          { declaration := some declaration, field := pathOrNone path } := by
  rw [arrayShape.eq_def]
  split <;> simp_all

/-! ## Sound shapes -/

mutual

/-- Shapes that refer to declared types only, whose objects without a name can be named, and whose
fields are named after their properties. -/
def Shape.Sound (known : String → Bool) : Shape → Prop
  | .array items => items.Sound known
  | .declared name => known name = true
  | .inline baseName fields => Naming.typeName baseName ≠ "" ∧ fields.Sound known
  | _ => True

def FieldShapes.Sound (known : String → Bool) : FieldShapes → Prop
  | .nil => True
  | .cons head type rest =>
    type.Sound known ∧ rest.Sound known ∧ head.name = Naming.fieldName head.sourceName ∧
      head.name ≠ ""

end

theorem nameShape_eq_ok {known : String → Bool} {name : String} {pointer : Bool}
    {location : Location} {shape : Shape}
    (read : nameShape known name pointer location = .ok shape) :
    ∃ target, known target = true ∧ shape = .declared target := by
  unfold nameShape at read
  split at read
  · split at read
    · split at read
      next isKnown => exact ⟨_, isKnown, by cases read; rfl⟩
      next => cases read
    · cases read
  · split at read
    next isKnown => exact ⟨_, isKnown, by cases read; rfl⟩
    next => cases read

theorem nameShape_sound {known : String → Bool} {name : String} {pointer : Bool}
    {location : Location} {shape : Shape}
    (read : nameShape known name pointer location = .ok shape) : shape.Sound known := by
  obtain ⟨target, isKnown, rfl⟩ := nameShape_eq_ok read
  exact isKnown

theorem bind_eq_ok {ε α β : Type} {first : Except ε α} {next : α → Except ε β} {value : β}
    (done : (first >>= next) = .ok value) :
    ∃ middle, first = .ok middle ∧ next middle = .ok value := by
  cases first with
  | error failure => cases done
  | ok middle => exact ⟨middle, rfl, done⟩

theorem map_eq_ok {ε α β : Type} {first : Except ε α} {change : α → β} {value : β}
    (done : first.map change = .ok value) :
    ∃ middle, first = .ok middle ∧ change middle = value := by
  cases first with
  | error failure => cases done
  | ok middle => exact ⟨middle, rfl, Except.ok.inj done⟩

theorem map_map {ε α β γ : Type} (result : Except ε α) (change : α → β) (next : β → γ) :
    (result.map change).map next = result.map fun value => next (change value) := by
  cases result <;> rfl

theorem eq_ok_of_toOption {ε α : Type} {result : Except ε α} {value : α}
    (found : result.toOption = some value) : result = .ok value := by
  cases result with
  | error failure => cases found
  | ok other => exact congrArg Except.ok (Option.some.inj found)

theorem fail_ne_ok {α : Type} {cause : Cause} {location : Location} {value : α} :
    fail cause location ≠ .ok value := by
  simp [fail]

theorem failAt_ne_ok {α : Type} {node : Node} {cause : Cause} {location : Location} {value : α} :
    failAt node cause location ≠ .ok value := by
  unfold failAt fail
  split <;> simp

/-- An array is read as an array. -/
theorem arrayShape_eq_ok {known : String → Bool} {declaration path ownerName : String}
    {entries : Entries} {shape : Shape}
    (read : arrayShape known declaration path ownerName entries = .ok shape) :
    ∃ items, shape = .array items := by
  rw [arrayShape_eq] at read
  split at read
  · cases read
    exact ⟨_, rfl⟩
  · cases read
    exact ⟨_, rfl⟩
  · obtain ⟨items, _, rfl⟩ := map_eq_ok read
    exact ⟨items, rfl⟩
  · exact absurd read failAt_ne_ok

mutual

theorem objectShape_sound {known : String → Bool} {declaration path : String} {entries : Entries}
    {fields : FieldShapes} (read : objectShape known declaration path entries = .ok fields) :
    fields.Sound known := by
  rw [objectShape_eq] at read
  split at read
  · cases read
    trivial
  · cases read
    trivial
  next line properties found =>
    have smaller := Entries.sizeOf_lt_of_get? found
    exact fieldShapes_sound read
  · exact absurd read failAt_ne_ok
termination_by 2 * sizeOf entries
decreasing_by
  simp only [Node.mapping.sizeOf_spec] at smaller
  omega

theorem fieldShapes_sound {known : String → Bool} {declaration path : String}
    {seen : List (String × String)} {properties : Entries} {fields : FieldShapes}
    (read : fieldShapes known declaration path seen properties = .ok fields) :
    fields.Sound known := by
  match properties with
  | [] =>
      rw [fieldShapes] at read
      cases read
      trivial
  | (name, node) :: rest =>
      rw [fieldShapes.eq_def] at read
      dsimp only at read
      split at read
      · exact absurd read failAt_ne_ok
      next usable =>
      split at read
      · exact absurd read failAt_ne_ok
      split at read
      next line entries =>
        obtain ⟨required, _, read⟩ := bind_eq_ok read
        obtain ⟨type, typeRead, read⟩ := bind_eq_ok read
        obtain ⟨others, othersRead, read⟩ := bind_eq_ok read
        cases read
        -- an object in this property is named after it
        have named := Naming.typeName_ne_empty_of_fieldName (by simpa using usable)
        exact ⟨typeShape_sound named typeRead, fieldShapes_sound othersRead,
          rfl, by simpa using usable⟩
      · exact absurd read failAt_ne_ok
termination_by 2 * sizeOf properties

theorem typeShape_sound {known : String → Bool} {declaration path baseName : String} {line : Int}
    {entries : Entries} {shape : Shape} (named : Naming.typeName baseName ≠ "")
    (read : typeShape known declaration path baseName line entries = .ok shape) :
    shape.Sound known := by
  rw [typeShape] at read
  split at read
  · obtain ⟨reference, _, read⟩ := bind_eq_ok read
    exact nameShape_sound read
  · dsimp only at read
    split at read
    · obtain ⟨fields, fieldsRead, rfl⟩ := map_eq_ok read
      exact ⟨named, objectShape_sound fieldsRead⟩
    split at read
    · exact arrayShape_sound read
    split at read
    · cases read
      trivial
    split at read
    · exact nameShape_sound read
    split at read
    · cases read
    · obtain ⟨shown, _, read⟩ := bind_eq_ok read
      cases read
termination_by 2 * sizeOf entries + 1

theorem arrayShape_sound {known : String → Bool} {declaration path ownerName : String}
    {entries : Entries} {shape : Shape}
    (read : arrayShape known declaration path ownerName entries = .ok shape) :
    shape.Sound known := by
  rw [arrayShape_eq] at read
  split at read
  · cases read
    trivial
  · cases read
    trivial
  next line items found =>
    have smaller := Entries.sizeOf_lt_of_get? found
    obtain ⟨itemShape, itemsRead, rfl⟩ := map_eq_ok read
    have sound : itemShape.Sound known :=
      typeShape_sound (Naming.typeName_item_ne_empty ownerName) itemsRead
    exact sound
  · exact absurd read failAt_ne_ok
termination_by 2 * sizeOf entries
decreasing_by
  simp only [Node.mapping.sizeOf_spec] at smaller
  omega

end

end SchemaCompiler.Schema
