import SchemaCompiler.Proofs.CompileFault

/-!
# Documents without constraints

A constraint is an entry `validate` of a property. Taking all of them out of a document
(`withoutConstraints`) changes nothing else that is read from it: the shape of every type, property
and declaration stays the same but for what is still to be compiled (`typeShape_bare`,
`declarationShape_bare`). So a document that compiles does so without its constraints, to the same
graph without constraints (`compile_withoutConstraints`).
-/

namespace SchemaCompiler.Document

/-- What a mapping of a document is read as. -/
inductive Role where
  | declarations
  /-- What describes a type: a declaration, the elements of an array, or a property. -/
  | type (property : Bool)
  | properties
  deriving DecidableEq, Repr

namespace Role

/-- What the value under a key is read as. -/
def under? : Role → String → Option Role
  | declarations, _ => some (type false)
  | properties, _ => some (type true)
  | type _, key =>
    if key = "properties" then some properties
    else if key = "items" then some (type false)
    else none

/-- Does the key hold the constraints of a property? -/
def drops : Role → String → Bool
  | type true, key => key = "validate"
  | _, _ => false

end Role

mutual

/-- A node without the constraints in it. -/
def Node.bare (role : Role) : Node → Node
  | .mapping line entries => .mapping line (bareEntries role entries)
  | node => node

/-- The entries of a mapping without the constraints in them. -/
def bareEntries (role : Role) : List (String × Node) → List (String × Node)
  | [] => []
  | (key, node) :: rest =>
    if role.drops key then bareEntries role rest
    else
      let value :=
        match role.under? key with
        | some inner => node.bare inner
        | none => node
      (key, value) :: bareEntries role rest

end

/-- The value under a key without the constraints in it. -/
def Node.bareUnder (role : Role) (key : String) (node : Node) : Node :=
  match role.under? key with
  | some inner => node.bare inner
  | none => node

theorem bareEntries_cons {role : Role} {key : String} (kept : role.drops key = false) (node : Node)
    (rest : Entries) :
    bareEntries role ((key, node) :: rest) = (key, node.bareUnder role key) ::
      bareEntries role rest := by
  rw [bareEntries, kept]
  rfl

theorem Node.line?_bare (role : Role) (node : Node) : (node.bare role).line? = node.line? := by
  cases node <;> simp [Node.bare, Node.line?]

theorem Node.present?_bareUnder (role : Role) (key : String) (node : Node) :
    (node.bareUnder role key).present? = node.present?.map (Node.bareUnder role key) := by
  unfold bareUnder
  cases role.under? key <;> cases node <;> simp [Node.present?, Node.bare]

theorem lookup_bareEntries (role : Role) (key : String) (entries : Entries) :
    (bareEntries role entries).lookup key =
      if role.drops key then none else (entries.lookup key).map (Node.bareUnder role key) := by
  induction entries with
  | nil => simp [bareEntries]
  | cons entry rest ih =>
      obtain ⟨name, node⟩ := entry
      by_cases dropped : role.drops name = true
      · rw [bareEntries, if_pos dropped, ih]
        by_cases same : key = name
        · rw [same, if_pos dropped, if_pos dropped]
        · rw [List.lookup_cons, beq_false_of_ne same]
      · rw [bareEntries_cons (by simpa using dropped), List.lookup_cons, List.lookup_cons, ih]
        by_cases same : key = name
        · subst same
          simp [dropped]
        · rw [beq_false_of_ne same]

theorem get?_bareEntries (role : Role) (key : String) (entries : Entries) :
    Entries.get? (bareEntries role entries) key =
      if role.drops key then none else (entries.get? key).map (Node.bareUnder role key) := by
  unfold Entries.get?
  rw [lookup_bareEntries]
  split
  · rfl
  · cases entries.lookup key with
    | none => rfl
    | some node => exact Node.present?_bareUnder role key node

/-- Keys with nothing to take out. -/
def isPlainKey (key : String) : Bool := key ∉ ["properties", "items", "validate"]

section Described

variable (property : Bool) (entries : Entries)

theorem drops_type {key : String} (other : key ≠ "validate") :
    (Role.type property).drops key = false := by
  cases property <;> simp [Role.drops, other]

/-- The properties of a type are without constraints if those of the type are. -/
theorem get?_bare_properties :
    Entries.get? (bareEntries (.type property) entries) "properties" =
      (entries.get? "properties").map (Node.bare .properties) := by
  rw [get?_bareEntries, drops_type property (by decide)]
  rfl

theorem get?_bare_items :
    Entries.get? (bareEntries (.type property) entries) "items" =
      (entries.get? "items").map (Node.bare (.type false)) := by
  rw [get?_bareEntries, drops_type property (by decide)]
  rfl

theorem get?_bare_validate : Entries.get? (bareEntries (.type true) entries) "validate" = none := by
  rw [get?_bareEntries]
  rfl

/-- All other values of a type stay as they are. -/
theorem get?_bare_other {key : String} (other : isPlainKey key = true) :
    Entries.get? (bareEntries (.type property) entries) key = entries.get? key := by
  simp only [isPlainKey, List.mem_cons, List.not_mem_nil, or_false, not_or,
    decide_eq_true_eq] at other
  obtain ⟨noProperties, noItems, noValidate⟩ := other
  have kept : Node.bareUnder (.type property) key = id := by
    funext node
    simp [Node.bareUnder, Role.under?, noProperties, noItems]
  rw [get?_bareEntries, drops_type property noValidate, kept]
  simp

theorem contains_bare {key : String} (other : key ≠ "validate") :
    Entries.contains (bareEntries (.type property) entries) key = entries.contains key := by
  unfold Entries.contains
  rw [lookup_bareEntries, drops_type property other]
  simp

theorem scalar_bare {key : String} (other : isPlainKey key = true) :
    Entries.scalar (bareEntries (.type property) entries) key = entries.scalar key := by
  unfold Entries.scalar
  rw [get?_bare_other property entries other]

end Described

/-- No declaration and no property is taken out. -/
theorem map_fst_bareEntries {role : Role} (kept : ∀ key, role.drops key = false)
    (entries : Entries) :
    (bareEntries role entries).map (·.1) = entries.map (·.1) := by
  induction entries with
  | nil => simp [bareEntries]
  | cons entry rest ih =>
      obtain ⟨name, node⟩ := entry
      rw [bareEntries_cons (kept name), List.map_cons, List.map_cons, ih]

end SchemaCompiler.Document

namespace SchemaCompiler.Schema

open Document (Node Entries Role bareEntries)

/-! ## Shapes -/

/-- What a document says about a field, without its constraints. -/
def FieldHead.bare (head : FieldHead) : FieldHead := { head with validate := none }

mutual

/-- A shape without constraints. -/
def Shape.bare : Shape → Shape
  | .array items => .array items.bare
  | .inline baseName fields => .inline baseName fields.bare
  | shape => shape

def FieldShapes.bare : FieldShapes → FieldShapes
  | .nil => .nil
  | .cons head type rest => .cons head.bare type.bare rest.bare

end

theorem failAt_bare {α : Type} (role : Role) (node : Node) (cause : Cause) (location : Location) :
    (failAt (node.bare role) cause location : Except Failure α) = failAt node cause location := by
  unfold failAt
  rw [Node.line?_bare]

theorem map_failAt {α β : Type} (change : α → β) (node : Node) (cause : Cause)
    (location : Location) :
    (failAt node cause location).map change = failAt node cause location := by
  unfold failAt
  split <;> rfl

theorem nameShape_bare (known : String → Bool) (name : String) (pointer : Bool)
    (location : Location) :
    (nameShape known name pointer location).map Shape.bare =
      nameShape known name pointer location := by
  cases read : nameShape known name pointer location with
  | error failure => rfl
  | ok shape =>
      obtain ⟨target, _, rfl⟩ := nameShape_eq_ok read
      rfl

theorem requiredOf_bare (location : Location) (property : Bool) (entries : Entries) :
    requiredOf location (bareEntries (.type property) entries) = requiredOf location entries := by
  unfold requiredOf
  rw [Document.get?_bare_other property entries (by decide)]

section Reading

variable (known : String → Bool) (declaration : String)

mutual

/-- Reading an object without constraints gives the shapes of its fields without them. -/
theorem objectShape_bare (path : String) (property : Bool) (entries : Entries) :
    objectShape known declaration path (bareEntries (.type property) entries) =
      (objectShape known declaration path entries).map FieldShapes.bare := by
  rw [objectShape_eq, objectShape_eq, Document.get?_bare_properties]
  cases found : entries.get? "properties" with
  | none => rfl
  | some node =>
      have smaller := Entries.sizeOf_lt_of_get? found
      cases node with
      | absent => exact (map_failAt _ _ _ _).symm
      | sequence line items => exact (map_failAt _ _ _ _).symm
      | scalar line value => cases value <;> rfl
      | mapping line properties => exact fieldShapes_bare path [] properties
termination_by 2 * sizeOf entries
decreasing_by
  simp only [Node.mapping.sizeOf_spec] at smaller
  omega

theorem fieldShapes_bare (path : String) (seen : List (String × String)) (properties : Entries) :
    fieldShapes known declaration path seen (bareEntries .properties properties) =
      (fieldShapes known declaration path seen properties).map FieldShapes.bare := by
  match properties with
  | [] =>
      rw [bareEntries, fieldShapes]
      rfl
  | (name, node) :: rest =>
      rw [Document.bareEntries_cons rfl, fieldShapes.eq_def,
        fieldShapes.eq_def known declaration path seen ((name, node) :: rest)]
      dsimp only [Node.bareUnder, Role.under?]
      simp only [failAt_bare]
      by_cases unusable : (Naming.fieldName name).isEmpty = true
      · rw [if_pos unusable, if_pos unusable, map_failAt]
      rw [if_neg unusable, if_neg unusable]
      cases seen.lookup (Naming.fieldName name) with
      | some other => exact (map_failAt _ _ _ _).symm
      | none =>
          cases node with
          | absent => exact (map_failAt _ _ _ _).symm
          | sequence line items => exact (map_failAt _ _ _ _).symm
          | scalar line value => exact (map_failAt _ _ _ _).symm
          | mapping line entries =>
              dsimp only [Node.bare]
              rw [requiredOf_bare, typeShape_bare, fieldShapes_bare, Document.get?_bare_validate]
              generalize requiredOf _ entries = required
              generalize typeShape known declaration _ name line entries = type
              generalize fieldShapes known declaration path _ rest = fields
              cases required with
              | error failure => rfl
              | ok required =>
                  cases type with
                  | error failure => rfl
                  | ok type => cases fields <;> rfl
termination_by 2 * sizeOf properties

theorem typeShape_bare (path baseName : String) (line : Int) (property : Bool) (entries : Entries) :
    typeShape known declaration path baseName line (bareEntries (.type property) entries) =
      (typeShape known declaration path baseName line entries).map Shape.bare := by
  rw [typeShape.eq_def, typeShape.eq_def known declaration path baseName line entries]
  dsimp only
  rw [Document.get?_bare_other property entries (by decide),
    Document.scalar_bare property entries (by decide),
    Document.contains_bare property entries (by decide),
    Document.contains_bare property entries (by decide)]
  cases entries.get? "$ref" with
  | some node =>
      dsimp only
      cases referenceText _ node with
      | error failure => rfl
      | ok reference => exact (nameShape_bare known reference true _).symm
  | none =>
      dsimp only
      by_cases isObject : ((entries.scalar "type").text? == some "object") = true
      · rw [if_pos isObject, if_pos isObject, objectShape_bare, map_map, map_map]
        rfl
      rw [if_neg isObject, if_neg isObject]
      by_cases isArray : ((entries.scalar "type").text? == some "array" ||
          (entries.scalar "type" == .null && entries.contains "items")) = true
      · rw [if_pos isArray, if_pos isArray, arrayShape_bare]
      rw [if_neg isArray, if_neg isArray]
      cases (entries.scalar "type").text?.bind ScalarKind.ofToken? with
      | some kind => rfl
      | none =>
          dsimp only
          by_cases isName : ((entries.scalar "type").text?.any (!·.isEmpty)) = true
          · rw [if_pos isName, nameShape_bare]
          rw [if_neg isName]
          split
          · rfl
          · cases showScalar (entries.scalar "type") <;> rfl
termination_by 2 * sizeOf entries + 1

theorem arrayShape_bare (path ownerName : String) (property : Bool) (entries : Entries) :
    arrayShape known declaration path ownerName (bareEntries (.type property) entries) =
      (arrayShape known declaration path ownerName entries).map Shape.bare := by
  rw [arrayShape_eq, arrayShape_eq, Document.get?_bare_items]
  cases found : entries.get? "items" with
  | none => rfl
  | some node =>
      have smaller := Entries.sizeOf_lt_of_get? found
      cases node with
      | absent => exact (map_failAt _ _ _ _).symm
      | sequence line items => exact (map_failAt _ _ _ _).symm
      | scalar line value => cases value <;> rfl
      | mapping line items =>
          dsimp only [Option.map_some, Node.bare]
          rw [typeShape_bare, map_map, map_map]
          rfl
termination_by 2 * sizeOf entries
decreasing_by
  simp only [Node.mapping.sizeOf_spec] at smaller
  omega

end

end Reading

/-! ## Declarations -/

/-- What a document says about a declared type, without constraints. -/
def DeclarationShape.bare : DeclarationShape → DeclarationShape
  | object fields => .object fields.bare
  | enumeration values => .enumeration values
  | aliasOf target => .aliasOf target.bare

theorem provisionalBody_bare (location : Location) (property : Bool) (entries : Entries) :
    provisionalBody location (bareEntries (.type property) entries) =
      provisionalBody location entries := by
  unfold provisionalBody
  rw [Document.scalar_bare property entries (by decide),
    Document.contains_bare property entries (by decide),
    Document.get?_bare_other property entries (by decide)]

theorem provisional_bare (name : String) (property : Bool) (node : Node) :
    provisional name (node.bare (.type property)) = provisional name node := by
  cases node with
  | absent => rfl
  | scalar line value => rfl
  | sequence line items => rfl
  | mapping line entries =>
      unfold provisional
      dsimp only [Node.bare, Node.line?]
      rw [provisionalBody_bare]
      rfl

theorem resolveEnum_bare (declaration : String) (line : Int) (property : Bool) (entries : Entries) :
    resolveEnum declaration line (bareEntries (.type property) entries) =
      resolveEnum declaration line entries := by
  unfold resolveEnum
  rw [Document.get?_bare_other property entries (by decide)]

theorem bodyShape_bare (known : String → Bool) (name : String) (line : Int) (property : Bool)
    (entries : Entries) {body : Body} (start : Provisional body) :
    bodyShape known name line (bareEntries (.type property) entries) body =
      (bodyShape known name line entries body).map DeclarationShape.bare := by
  cases start with
  | object =>
      dsimp only [bodyShape]
      rw [objectShape_bare, map_map, map_map]
      rfl
  | enumeration =>
      dsimp only [bodyShape]
      rw [resolveEnum_bare, map_map]
      rfl
  | scalar kind => rfl
  | array =>
      dsimp only [bodyShape]
      rw [arrayShape_bare, map_map, map_map]
      rfl
  | name target pointer =>
      dsimp only [bodyShape]
      conv_lhs => rw [← nameShape_bare]
      rw [map_map, map_map]
      rfl

theorem declarationShape_bare (known : String → Bool) (name : String) (property : Bool)
    (node : Node) :
    declarationShape known name (node.bare (.type property)) =
      (declarationShape known name node).map DeclarationShape.bare := by
  unfold declarationShape
  rw [provisional_bare]
  cases read : provisional name node with
  | error failure => rfl
  | ok type =>
      obtain ⟨line, entries, body, rfl, _, start, rfl⟩ := provisional_eq_ok read
      exact bodyShape_bare known name line property entries start

/-- The shapes of a section without constraints. -/
def bareShapes (shapes : List (String × DeclarationShape)) : List (String × DeclarationShape) :=
  shapes.map fun shape => (shape.1, shape.2.bare)

theorem map_fst_bareShapes (shapes : List (String × DeclarationShape)) :
    (bareShapes shapes).map (·.1) = shapes.map (·.1) := by
  simp [bareShapes, Function.comp_def]

theorem sectionShapes_bare (known : String → Bool) (entries : Entries) :
    sectionShapes known (bareEntries .declarations entries) =
      (sectionShapes known entries).map bareShapes := by
  induction entries with
  | nil =>
      rw [bareEntries]
      rfl
  | cons entry rest ih =>
      obtain ⟨name, node⟩ := entry
      rw [Document.bareEntries_cons rfl, sectionShapes, sectionShapes, ih]
      show (declarationShape known name (node.bare (.type false)) >>= _) = _
      rw [declarationShape_bare]
      cases declarationShape known name node with
      | error failure => rfl
      | ok shape => cases sectionShapes known rest <;> rfl

/-- A section that can be read can be read without constraints. -/
theorem ReadsAs.bare {entries : Entries} {shapes : List (String × DeclarationShape)}
    (reads : ReadsAs entries shapes) :
    ReadsAs (bareEntries .declarations entries) (bareShapes shapes) := by
  have names : (bareEntries .declarations entries).map (·.1) = entries.map (·.1) :=
    Document.map_fst_bareEntries (fun _ => rfl) entries
  refine ⟨?_, ?_, ?_⟩
  · rw [names]
    exact reads.distinct
  · rw [names]
    exact reads.apart
  · rw [names, sectionShapes_bare, reads.reads]
    rfl

/-! ## Placing shapes without constraints -/

mutual

theorem Shape.size_bare (shape : Shape) : shape.bare.size = shape.size := by
  match shape with
  | .scalar _ => rfl
  | .any => rfl
  | .declared _ => rfl
  | .array items => exact items.size_bare
  | .inline _ fields => exact congrArg (· + 1) fields.size_bare

theorem FieldShapes.size_bare (fields : FieldShapes) : fields.bare.size = fields.size := by
  match fields with
  | .nil => rfl
  | .cons _ type rest =>
      rw [FieldShapes.bare, FieldShapes.size, FieldShapes.size, type.size_bare, rest.size_bare]

end

theorem Shape.expr_bare (number : String → Nat) (start : Nat) (shape : Shape) :
    shape.bare.expr number start = shape.expr number start := by
  match shape with
  | .scalar _ => rfl
  | .any => rfl
  | .declared _ => rfl
  | .array items => exact congrArg TypeExpr.array (items.expr_bare number start)
  | .inline _ _ => rfl

theorem FieldShapes.fields_bare (number : String → Nat) (start : Nat) (fields : FieldShapes) :
    fields.bare.fields number start = fields.fields number start := by
  match fields with
  | .nil => rfl
  | .cons head type rest =>
      rw [FieldShapes.bare, FieldShapes.fields, FieldShapes.fields, type.expr_bare, type.size_bare,
        rest.fields_bare]
      rfl

mutual

theorem Shape.objects_bare (number : String → Nat) (start : Nat) (shape : Shape) :
    shape.bare.objects number start = shape.objects number start := by
  match shape with
  | .scalar _ => rfl
  | .any => rfl
  | .declared _ => rfl
  | .array items => exact items.objects_bare number start
  | .inline _ fields =>
      rw [Shape.bare, Shape.objects, Shape.objects, fields.fields_bare, fields.objects_bare]

theorem FieldShapes.objects_bare (number : String → Nat) (start : Nat) (fields : FieldShapes) :
    fields.bare.objects number start = fields.objects number start := by
  match fields with
  | .nil => rfl
  | .cons _ type rest =>
      rw [FieldShapes.bare, FieldShapes.objects, FieldShapes.objects, type.objects_bare,
        type.size_bare, rest.objects_bare]

end

mutual

/-- Without constraints there is nothing left to compile. -/
theorem Shape.pending_bare (start : Nat) (shape : Shape) : shape.bare.pending start = [] := by
  match shape with
  | .scalar _ => rfl
  | .any => rfl
  | .declared _ => rfl
  | .array items => exact items.pending_bare start
  | .inline _ fields => exact fields.pending_bare start (start + 1)

theorem FieldShapes.pending_bare (owner start : Nat) (fields : FieldShapes) :
    fields.bare.pending owner start = [] := by
  match fields with
  | .nil => rfl
  | .cons _ type rest =>
      rw [FieldShapes.bare, FieldShapes.pending, type.pending_bare, rest.pending_bare]
      rfl

end

namespace DeclarationShape

variable (number : String → Nat) (start : Nat) (shape : DeclarationShape)

theorem size_bare : shape.bare.size = shape.size := by
  cases shape with
  | object fields => exact fields.size_bare
  | enumeration values => rfl
  | aliasOf target => exact target.size_bare

theorem body_bare : shape.bare.body number start = shape.body number start := by
  cases shape with
  | object fields => exact congrArg (Body.object false) (fields.fields_bare number start)
  | enumeration values => rfl
  | aliasOf target => exact congrArg Body.aliasOf (target.expr_bare number start)

theorem objects_bare : shape.bare.objects number start = shape.objects number start := by
  cases shape with
  | object fields => exact fields.objects_bare number start
  | enumeration values => rfl
  | aliasOf target => exact target.objects_bare number start

theorem pending_bare (owner : Nat) : shape.bare.pending owner start = [] := by
  cases shape with
  | object fields => exact fields.pending_bare owner start
  | enumeration values => rfl
  | aliasOf target => exact target.pending_bare start

end DeclarationShape

theorem declaredTypes_bare (number : String → Nat) (start : Nat)
    (shapes : List (String × DeclarationShape)) :
    declaredTypes number start (bareShapes shapes) = declaredTypes number start shapes := by
  induction shapes generalizing start with
  | nil => rfl
  | cons shape rest ih =>
      obtain ⟨name, shape⟩ := shape
      show declaredTypes number start ((name, shape.bare) :: bareShapes rest) = _
      rw [declaredTypes, declaredTypes, shape.body_bare, shape.size_bare, ih]

theorem sectionObjects_bare (number : String → Nat) (start : Nat)
    (shapes : List (String × DeclarationShape)) :
    sectionObjects number start (bareShapes shapes) = sectionObjects number start shapes := by
  induction shapes generalizing start with
  | nil => rfl
  | cons shape rest ih =>
      obtain ⟨name, shape⟩ := shape
      show sectionObjects number start ((name, shape.bare) :: bareShapes rest) = _
      rw [sectionObjects, sectionObjects, shape.objects_bare, shape.size_bare, ih]

theorem sectionPending_bare (owner start : Nat) (shapes : List (String × DeclarationShape)) :
    sectionPending owner start (bareShapes shapes) = [] := by
  induction shapes generalizing owner start with
  | nil => rfl
  | cons shape rest ih =>
      obtain ⟨name, shape⟩ := shape
      show sectionPending owner start ((name, shape.bare) :: bareShapes rest) = _
      rw [sectionPending, shape.pending_bare, ih]
      rfl

/-- The types of a section are assembled without regard to its constraints. -/
theorem assemble_bare (shapes : List (String × DeclarationShape)) :
    assemble (bareShapes shapes) = assemble shapes := by
  have length : (bareShapes shapes).length = shapes.length := List.length_map _
  unfold assemble
  dsimp only
  rw [map_fst_bareShapes, declaredTypes_bare, sectionObjects_bare, length]

/-- A section that is analysed is analysed without its constraints, with the same types and nothing
left to compile. -/
theorem analyze_bare {document : String} {entries : Entries} {graph : TypeGraph}
    {pending : List Pending} (done : (analyze document entries).outcome.1 = .ok (graph, pending)) :
    (analyze document (bareEntries .declarations entries)).outcome.1 = .ok (graph, []) := by
  obtain ⟨shapes, reads, acyclic, rfl, _⟩ := analyze_eq_ok_iff.mp done
  refine analyze_eq_ok_iff.mpr ⟨bareShapes shapes, reads.bare, ?_, ?_, ?_⟩
  · rw [assemble_bare]
    exact acyclic
  · rw [graphOf, graphOf, assemble_bare]
  · rw [sectionPending_bare]

/-! ## Finding the section -/

/-- The document under some steps, with the section at their end without constraints. -/
def bareAlong : List PathStep → Node → Node
  | [], node => node.bare .declarations
  | .key name :: rest, .mapping line entries =>
    .mapping line
      (entries.map fun entry =>
        (entry.1, if entry.1 = name then bareAlong rest entry.2 else entry.2))
  | _, node => node

/-- A document without the constraints of the section at a path. -/
def withoutConstraints (path : SectionPath) (root : Option Node) : Option Node :=
  match path with
  | .steps steps => root.map (bareAlong steps)
  | _ => root

theorem present?_bareAlong (steps : List PathStep) (node : Node) :
    (bareAlong steps node).present? = node.present?.map (bareAlong steps) := by
  cases steps with
  | nil => cases node <;> simp [bareAlong, Node.bare, Node.present?]
  | cons step rest => cases step <;> cases node <;> rfl

/-- The root of a document stays a mapping. -/
theorem bareAlong_mapping (steps : List PathStep) (line : Int) (entries : Entries) :
    ∃ others, bareAlong steps (.mapping line entries) = .mapping line others := by
  cases steps with
  | nil => exact ⟨bareEntries .declarations entries, by rw [bareAlong, Node.bare]⟩
  | cons step rest =>
      cases step with
      | key name => exact ⟨_, rfl⟩
      | other type => exact ⟨entries, rfl⟩

theorem get?_bareAlong (steps : List PathStep) (name : String) (entries : Entries) :
    Entries.get?
      (entries.map fun entry =>
        (entry.1, if entry.1 = name then bareAlong steps entry.2 else entry.2))
      name = (entries.get? name).map (bareAlong steps) := by
  induction entries with
  | nil => rfl
  | cons entry rest ih =>
      obtain ⟨key, node⟩ := entry
      unfold Entries.get? at ih ⊢
      rw [List.map_cons, List.lookup_cons, List.lookup_cons]
      by_cases same : name = key
      · subst same
        simp [present?_bareAlong]
      · rw [beq_false_of_ne same]
        exact ih

/-- Following the steps to a section leads to the section without its constraints. -/
theorem findSteps_bareAlong (passed : List String) (node : Node) (steps : List PathStep) :
    findSteps passed (bareAlong steps node) steps =
      (findSteps passed node steps).map fun found => (found.1, found.2.bare .declarations) := by
  induction steps generalizing passed node with
  | nil => rfl
  | cons step rest ih =>
      cases step with
      | other type => rfl
      | key name =>
          cases node with
          | absent => rfl
          | scalar line value => rfl
          | sequence line items => rfl
          | mapping line entries =>
              dsimp only [bareAlong, findSteps]
              rw [get?_bareAlong]
              cases Entries.get? entries name with
              | none => rfl
              | some child => exact ih _ child

/-- The section of a document without constraints. -/
theorem findSection_withoutConstraints {root : Option Node} {path : SectionPath} {line : Int}
    {entries : Entries} (found : findSection root path = .ok (line, entries)) :
    findSection (withoutConstraints path root) path =
      .ok (line, bareEntries .declarations entries) := by
  cases path with
  | missing => cases found
  | mapping | set | other => cases root with
    | none => cases found
    | some node => cases node <;> cases found
  | steps steps =>
      cases root with
      | none => cases found
      | some node =>
          cases node with
          | absent => cases found
          | scalar => cases found
          | sequence => cases found
          | mapping rootLine rootEntries =>
              obtain ⟨others, same⟩ := bareAlong_mapping steps rootLine rootEntries
              have followed := findSteps_bareAlong [] (.mapping rootLine rootEntries) steps
              rw [same] at followed
              obtain ⟨⟨keys, node⟩, isFound, isSection⟩ := bind_eq_ok found
              rw [isFound] at followed
              show findSection (some (bareAlong steps _)) _ = _
              rw [same]
              show (findSteps [] (.mapping rootLine others) steps >>= _) = _
              rw [followed]
              cases node with
              | mapping => cases isSection; rfl
              | absent => exact absurd isSection failAt_ne_ok
              | scalar => exact absurd isSection failAt_ne_ok
              | sequence => exact absurd isSection failAt_ne_ok

/-! ## Graphs without constraints -/

/-- A field without constraints. -/
def Field.unconstrained (field : Field) : Field := { field with constraints := [] }

/-- A type whose fields have no constraints. -/
def NamedType.unconstrained (type : NamedType) : NamedType :=
  { type with
    body :=
      match type.body with
      | .object synthesized fields => .object synthesized (fields.map Field.unconstrained)
      | body => body }

/-- A graph without constraints. -/
def TypeGraph.unconstrained (graph : TypeGraph) : TypeGraph :=
  { graph with types := graph.types.map NamedType.unconstrained }

theorem NamedType.unconstrained_eq_self {type : NamedType}
    (none : ∀ field ∈ type.fields, field.constraints = []) :
    type.unconstrained = type := by
  obtain ⟨name, sourceName, body⟩ := type
  cases body with
  | enumeration values => rfl
  | aliasOf target => rfl
  | object synthesized fields =>
      have same : fields.map Field.unconstrained = fields := by
        conv_rhs => rw [← List.map_id fields]
        refine List.map_congr_left fun field isField => ?_
        have empty := none field isField
        cases field
        cases empty
        rfl
      show ({ name, sourceName, body := .object synthesized (fields.map Field.unconstrained) } :
        NamedType) = _
      rw [same]

/-- Setting constraints changes nothing else. -/
theorem unconstrained_setConstraints (graph : TypeGraph) (owner : Nat) (fieldName : String)
    (constraints : List Directive) :
    (graph.setConstraints owner fieldName constraints).unconstrained = graph.unconstrained := by
  have types : (graph.setConstraints owner fieldName constraints).types.map
      NamedType.unconstrained =
      graph.types.map NamedType.unconstrained := by
    apply List.ext_getElem?
    intro id
    rw [TypeGraph.setConstraints, List.getElem?_map, List.getElem?_map, List.getElem?_modify]
    cases graph.types[id]? with
    | none => rfl
    | some type =>
        by_cases isOwner : owner = id
        · obtain ⟨name, sourceName, body⟩ := type
          cases body with
          | enumeration values => simp [isOwner]
          | aliasOf target => simp [isOwner]
          | object synthesized fields =>
              have change (field : Field) : Field.unconstrained
                  (if field.name = fieldName then { field with constraints } else field) =
                    field.unconstrained := by
                split <;> rfl
              simp [isOwner, NamedType.unconstrained, change, Function.comp_def]
        · simp [isOwner]
  unfold TypeGraph.unconstrained
  rw [types]
  rfl

/-- Attaching constraints changes nothing else. -/
theorem unconstrained_attach {rules : ConstraintRules} {graph compiled : TypeGraph}
    {pending : List Pending} {log : Log}
    (done : ((attach rules graph pending).run log).1 = .ok compiled) :
    compiled.unconstrained = graph.unconstrained := by
  induction pending generalizing graph log with
  | nil =>
      cases done
      rfl
  | cons first rest ih =>
      obtain ⟨constraints, between, _, done⟩ := Logged.run_bind_eq_ok done
      rw [ih done, unconstrained_setConstraints]

/-- The types of a section have no constraints before they are attached. -/
theorem unconstrained_graphOf (document : String) (shapes : List (String × DeclarationShape)) :
    (graphOf document shapes).unconstrained = graphOf document shapes := by
  have types : (graphOf document shapes).types.map NamedType.unconstrained =
      (graphOf document shapes).types := by
    conv_rhs => rw [← List.map_id (graphOf document shapes).types]
    exact List.map_congr_left fun type member =>
      NamedType.unconstrained_eq_self (assemble_unconstrained type member)
  unfold TypeGraph.unconstrained
  rw [types]

end SchemaCompiler.Schema

namespace SchemaCompiler.Compiler

open Schema

/-- A document that compiles does so without its constraints, to the same graph without
constraints. -/
theorem compile_withoutConstraints {compiler : Compiler} {name : String}
    {root : Option Document.Node} {graph : TypeGraph}
    (done : (compiler.compile name root).outcome.1 = .ok graph) :
    (compiler.compile name (withoutConstraints compiler.settings.sectionPath root)).outcome.1 =
      .ok graph.unconstrained := by
  rw [(compiler.compile_gives name _).outcome_eq, mapError_eq_ok_iff] at done ⊢
  obtain ⟨⟨line, entries⟩, found, done⟩ := bind_eq_ok done
  obtain ⟨⟨plain, pending⟩, analysed, done⟩ := bind_eq_ok done
  rw [findSection_withoutConstraints found]
  show ((analyze name (Document.bareEntries .declarations entries)).outcome.1 >>= _) = _
  rw [analyze_bare analysed]
  have same : graph.unconstrained = plain := by
    obtain ⟨attached, between, attaching, done⟩ := Logged.run_bind_eq_ok done
    cases done
    obtain ⟨shapes, _, _, rfl, _⟩ := analyze_eq_ok_iff.mp analysed
    rw [unconstrained_attach attaching, unconstrained_graphOf]
  rw [same]
  rfl

end SchemaCompiler.Compiler
