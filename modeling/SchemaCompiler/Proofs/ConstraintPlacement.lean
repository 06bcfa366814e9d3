import SchemaCompiler.Proofs.ObjectSource
import SchemaCompiler.Proofs.Retargeting

/-!
# Where constraints end up

While bodies are resolved, the constraints of properties are put aside, each with the number of the
object and the name of the field that they are for. They are compiled later, onto fields that are
found by number and name. That every field ends up with the constraints of its own property takes
two facts. What was put aside is what the objects of the section state, each object under the number
of its own type (`ReadsAs.stated`). And each field of an object has a name of its own, so that what
is found under a number and a name is for that field alone.
-/

namespace SchemaCompiler.Schema

open Document (Node Entries)

/-- The constraints that a property states. -/
def validateOf : Node → Option Node
  | .mapping _ entries => Entries.get? entries "validate"
  | _ => none

/-- Constraints that are stated for the field of an object. -/
structure Stated where
  owner : Nat
  fieldName : String
  node : Node

/-- What was put aside, without the words for errors. -/
def Pending.stated (pending : Pending) : Stated :=
  { owner := pending.owner, fieldName := pending.fieldName, node := pending.node }

/-- The constraints of properties, given the number of their object. -/
def statedBy (owner : Nat) (properties : Entries) : List Stated :=
  properties.flatMap fun property =>
    (validateOf property.2).toList.map fun node =>
      { owner, fieldName := Naming.fieldName property.1, node }

/-- The properties of an object, if there is one. -/
def sourceProperties (source : Option Entries) : Entries := source.elim [] objectProperties

/-- The constraints of objects that are numbered from a start. -/
def statedFrom (start : Nat) (sources : List (Option Entries)) : List Stated :=
  (sources.zipIdx start).flatMap fun source => statedBy source.2 (sourceProperties source.1)

theorem statedFrom_cons (start : Nat) (source : Option Entries) (rest : List (Option Entries)) :
    statedFrom start (source :: rest) =
      statedBy start (sourceProperties source) ++ statedFrom (start + 1) rest := rfl

theorem statedFrom_append (start : Nat) (left right : List (Option Entries)) :
    statedFrom start (left ++ right) =
      statedFrom start left ++ statedFrom (start + left.length) right := by
  rw [statedFrom, List.zipIdx_append, List.flatMap_append]
  rfl

theorem mem_statedBy_iff {one : Stated} {owner : Nat} {properties : Entries} :
    one ∈ statedBy owner properties ↔
      one.owner = owner ∧ ∃ property ∈ properties,
        Naming.fieldName property.1 = one.fieldName ∧ validateOf property.2 = some one.node := by
  rw [statedBy, List.mem_flatMap]
  constructor
  · rintro ⟨property, member, stated⟩
    obtain ⟨node, isNode, rfl⟩ := List.mem_map.mp stated
    exact ⟨rfl, property, member, rfl, Option.mem_toList.mp isNode⟩
  · rintro ⟨rfl, property, member, sameName, isNode⟩
    refine ⟨property, member, List.mem_map.mpr ⟨one.node, Option.mem_toList.mpr isNode, ?_⟩⟩
    rw [sameName]

/-- Constraints are stated by the object that has the number of their owner. -/
theorem mem_statedFrom_iff {one : Stated} {sources : List (Option Entries)} :
    one ∈ statedFrom 0 sources ↔
      ∃ source, sources[one.owner]? = some source ∧ ∃ property ∈ sourceProperties source,
        Naming.fieldName property.1 = one.fieldName ∧ validateOf property.2 = some one.node := by
  simp only [statedFrom, List.mem_flatMap, mem_statedBy_iff]
  constructor
  · rintro ⟨⟨source, id⟩, member, rfl, stated⟩
    exact ⟨source, List.mk_mem_zipIdx_iff_getElem?.mp member, stated⟩
  · rintro ⟨source, found, stated⟩
    exact ⟨(source, one.owner), List.mk_mem_zipIdx_iff_getElem?.mpr found, rfl, stated⟩

/-! ## What is put aside -/

/-- The objects without a name in a list of them, by their entries. -/
def sourcesOf (objects : List (List Step × Entries)) : List (Option Entries) :=
  objects.map (some ·.2)

theorem sourcesOf_below (step : Step) (objects : List (List Step × Entries)) :
    sourcesOf (objects.map fun object => (step :: object.1, object.2)) = sourcesOf objects := by
  rw [sourcesOf, List.map_map]
  rfl

theorem Lists.length_eq {outer : String} {objects : List (List Step × Entries)}
    {steps : List (List Step)} {made : List (String × List Field)}
    (lists : Lists outer objects steps made) :
    (sourcesOf objects).length = made.length := by
  rw [sourcesOf, List.length_map, lists.made.length_eq]

theorem FieldHead.stated_pending {head : FieldHead} {name : String} {entries : Entries}
    (isName : head.name = Naming.fieldName name)
    (isValidate : head.validate = Entries.get? entries "validate") (owner : Nat) (line : Int) :
    (head.pending owner).map Pending.stated = statedBy owner [(name, .mapping line entries)] := by
  rw [FieldHead.pending, List.map_map, statedBy, List.flatMap_singleton, isName, isValidate]
  rfl

mutual

/-- For properties there is put aside what they state, and what the objects in them do. -/
theorem fieldShapes_stated {known : String → Bool} {declaration path : String}
    {seen : List (String × String)} {properties : Entries} {fields : FieldShapes}
    (read : fieldShapes known declaration path seen properties = .ok fields) (owner start : Nat)
    (one : Stated) :
    one ∈ (fields.pending owner start).map Pending.stated ↔
      one ∈ statedBy owner properties ∨
      one ∈ statedFrom start (sourcesOf (objectsAmong properties)) := by
  match properties with
  | [] =>
      rw [fieldShapes] at read
      cases read
      rw [objectsAmong]
      simp [FieldShapes.pending, statedBy, statedFrom, sourcesOf]
  | (name, node) :: rest =>
      rw [fieldShapes.eq_def] at read
      dsimp only at read
      split at read
      · exact absurd read failAt_ne_ok
      split at read
      · exact absurd read failAt_ne_ok
      split at read
      next line entries =>
        obtain ⟨required, isRequired, read⟩ := bind_eq_ok read
        obtain ⟨type, typeRead, read⟩ := bind_eq_ok read
        obtain ⟨others, othersRead, read⟩ := bind_eq_ok read
        cases read
        have inType := typeShape_stated typeRead start one
        have inOthers := fieldShapes_stated othersRead owner (start + type.size) one
        have size : (sourcesOf (objectsAt entries)).length = type.size :=
          (typeShape_lists typeRead (fun _ => 0) start).length_eq.trans (type.length_objects _ _)
        have own : statedBy owner ((name, .mapping line entries) :: rest) =
            statedBy owner [(name, .mapping line entries)] ++
              statedBy owner rest := by simp [statedBy]
        have inner :
            statedFrom start (sourcesOf (objectsAmong ((name, .mapping line entries) :: rest))) =
            statedFrom start (sourcesOf (objectsAt entries)) ++
              statedFrom (start + type.size) (sourcesOf (objectsAmong rest)) := by
          rw [objectsAmong, sourcesOf, List.map_append, ← sourcesOf, ← sourcesOf, sourcesOf_below,
            statedFrom_append, size]
        rw [FieldShapes.pending, List.map_append, List.map_append, List.mem_append, List.mem_append,
          inType, inOthers, FieldHead.stated_pending rfl rfl owner line, own, inner,
          List.mem_append, List.mem_append]
        simp only [or_assoc, or_left_comm]
      · exact absurd read failAt_ne_ok
termination_by 2 * sizeOf properties

theorem typeShape_stated {known : String → Bool} {declaration path outer : String} {line : Int}
    {entries : Entries} {shape : Shape}
    (read : typeShape known declaration path outer line entries = .ok shape) (start : Nat)
    (one : Stated) :
    one ∈ (shape.pending start).map Pending.stated ↔
    one ∈ statedFrom start (sourcesOf (objectsAt entries)) := by
  rcases typeShape_cases read with ⟨fields, fieldsRead, rfl, isAt⟩ | ⟨isArray, isAt⟩ |
    ⟨⟨_, rfl⟩ | ⟨_, rfl⟩, isAt⟩
  · have smaller := sizeOf_objectProperties_le entries
    have inFields := fieldShapes_stated (fieldShapes_of_objectShape fieldsRead) start
      (start + 1) one
    rw [isAt, objectsInside_object_eq]
    exact inFields.trans List.mem_append.symm
  · rw [isAt]
    exact arrayShape_stated isArray start one
  · rw [isAt]
    rfl
  · rw [isAt]
    rfl
termination_by 2 * sizeOf entries + 1

theorem arrayShape_stated {known : String → Bool} {declaration path ownerName : String}
    {entries : Entries} {shape : Shape}
    (read : arrayShape known declaration path ownerName entries = .ok shape) (start : Nat)
    (one : Stated) :
    one ∈ (shape.pending start).map Pending.stated ↔
      one ∈ statedFrom start (sourcesOf (objectsInside .array entries)) := by
  rcases arrayShape_cases read with ⟨rfl, inside⟩ |
    ⟨_, _, items, _, isMapping, itemsRead, rfl, inside⟩
  · rw [inside]
    rfl
  · have smaller := Entries.sizeOf_lt_of_get? isMapping
    rw [inside, sourcesOf_below]
    exact typeShape_stated itemsRead start one
termination_by 2 * sizeOf entries
decreasing_by
  simp only [Node.mapping.sizeOf_spec] at smaller
  omega

end

/-- Nothing is stated by what is neither an object nor an array. -/
theorem stated_other (owner start : Nat) (entries : Entries) (one : Stated) :
    one ∈ ([] : List Pending).map Pending.stated ↔ one ∈ statedBy owner (sourceProperties none) ∨
      one ∈ statedFrom start (sourcesOf (objectsInside .other entries)) := by
  rw [objectsInside_other]
  simp [sourceProperties, statedBy, statedFrom, sourcesOf]

theorem declarationShape_stated {known : String → Bool} {name : String} {node : Node}
    {shape : DeclarationShape} (read : declarationShape known name node = .ok shape)
    (owner start : Nat) (one : Stated) :
    one ∈ (shape.pending owner start).map Pending.stated ↔
      one ∈ statedBy owner (sourceProperties (declaredObject? node)) ∨
        one ∈ statedFrom start (sourcesOf (declarationObjects node)) := by
  obtain ⟨type, typeRead, read⟩ := bind_eq_ok read
  obtain ⟨line, entries, body, rfl, _, isProvisional, rfl⟩ := provisional_eq_ok typeRead
  have form := provisional_form typeRead
  dsimp only at read form
  rw [declarationObjects, declaredObject?, ← form]
  cases isProvisional with
  | object =>
      obtain ⟨fields, fieldsRead, rfl⟩ := map_eq_ok read
      dsimp only [Body.form]
      rw [objectsInside_object_eq]
      exact fieldShapes_stated (fieldShapes_of_objectShape fieldsRead) owner start one
  | array =>
      obtain ⟨target, targetRead, rfl⟩ := map_eq_ok read
      exact (arrayShape_stated targetRead start one).trans (or_iff_right List.not_mem_nil).symm
  | enumeration =>
      obtain ⟨values, _, rfl⟩ := map_eq_ok read
      exact stated_other owner start entries one
  | scalar kind =>
      cases read
      exact stated_other owner start entries one
  | name target pointer =>
      obtain ⟨shape, shapeRead, rfl⟩ := map_eq_ok read
      obtain ⟨declared, _, rfl⟩ := nameShape_eq_ok shapeRead
      exact stated_other owner start entries one

theorem sectionPending_stated {known : String → Bool} {entries : Entries}
    {shapes : List (String × DeclarationShape)} (read : sectionShapes known entries = .ok shapes)
    (owner start : Nat) (one : Stated) :
    one ∈ (sectionPending owner start shapes).map Pending.stated ↔
      one ∈ statedFrom owner (entries.map (declaredObject? ·.2)) ∨
        one ∈ statedFrom start ((inlineObjects entries).map (some ·.2)) := by
  have pairs := sectionShapes_eq_ok_iff.mp read
  clear read
  induction pairs generalizing owner start with
  | nil => simp [sectionPending, statedFrom, inlineObjects]
  | @cons entry shape rest shapes here _ ih =>
      have inHere := declarationShape_stated here.2 owner start one
      have inRest := ih (owner + 1) (start + shape.2.size)
      have size : (sourcesOf (declarationObjects entry.2)).length = shape.2.size :=
        (declarationShape_lists here.2 (fun _ => 0) start).length_eq.trans
          (shape.2.length_objects _ _)
      have inner : statedFrom start ((inlineObjects (entry :: rest)).map (some ·.2)) =
          statedFrom start (sourcesOf (declarationObjects entry.2)) ++
            statedFrom (start + shape.2.size) ((inlineObjects rest).map (some ·.2)) := by
        rw [inlineObjects, List.flatMap_cons, List.map_append, List.map_map, statedFrom_append,
          ← size, sourcesOf, List.length_map, List.length_map]
        rfl
      rw [sectionPending, List.map_append, List.mem_append, List.map_cons, statedFrom_cons, inner,
        List.mem_append, List.mem_append]
      refine (or_congr inHere inRest).trans ?_
      simp only [or_assoc, or_left_comm]

/-- What is put aside for a section is what its objects state, each under the number of its type. -/
theorem ReadsAs.stated {entries : Entries} {shapes : List (String × DeclarationShape)}
    (reads : ReadsAs entries shapes) (one : Stated) :
    one ∈ (sectionPending 0 shapes.length shapes).map Pending.stated ↔
    one ∈ statedFrom 0 (Schema.objectSources entries) := by
  have length := (sectionShapes_eq_ok_iff.mp reads.reads).length_eq
  rw [sectionPending_stated reads.reads, Schema.objectSources, statedFrom_append, List.mem_append,
    List.length_map, length, Nat.zero_add]

/-! ## Attaching -/

/-- A field after constraints were attached to it: it has those that were put aside for it, whatever
property they are compiled for, or there were none and it has what it had. -/
structure Constrained (rules : ConstraintRules) (pending : List Pending) (id : Nat)
    (before after : Field) : Prop where
  rest : after.unconstrained = before.unconstrained
  constraints : (∃ one ∈ pending, one.owner = id ∧ one.fieldName = before.name ∧
      ∀ path, (compileConstraints rules path (some one.node)).Gives (.ok after.constraints)) ∨
    (∀ one ∈ pending, one.owner = id → one.fieldName ≠ before.name) ∧
      after.constraints = before.constraints

theorem Constrained.cons {rules : ConstraintRules} {first : Pending} {rest : List Pending}
    {id : Nat} {constraints : List Directive} {before after : Field}
    (later : Constrained rules rest id
      (if first.owner = id ∧ before.name = first.fieldName then { before with constraints }
        else before) after)
    (compiled : ∀ path, (compileConstraints rules path (some first.node)).Gives (.ok constraints)) :
    Constrained rules (first :: rest) id before after := by
  by_cases isOwn : first.owner = id ∧ before.name = first.fieldName
  · rw [if_pos isOwn] at later
    refine ⟨later.rest, .inl ?_⟩
    rcases later.constraints with ⟨one, member, found⟩ | ⟨_, same⟩
    · exact ⟨one, List.mem_cons_of_mem first member, found⟩
    · refine ⟨first, List.mem_cons_self, isOwn.1, isOwn.2.symm, fun path => ?_⟩
      rw [same]
      exact compiled path
  · rw [if_neg isOwn] at later
    refine ⟨later.rest, later.constraints.imp ?_ ?_⟩
    · rintro ⟨one, member, found⟩
      exact ⟨one, List.mem_cons_of_mem first member, found⟩
    · rintro ⟨none, same⟩
      refine ⟨List.forall_mem_cons.mpr ⟨?_, none⟩, same⟩
      exact fun isOwner sameName => isOwn ⟨isOwner, sameName.symm⟩

/-- Setting constraints changes the fields of that name in that object. -/
theorem fields_setConstraints {graph : TypeGraph} {owner : Nat} {fieldName : String}
    {constraints : List Directive} {id : Nat} {type : NamedType}
    (here : (graph.setConstraints owner fieldName constraints).types[id]? = some type) :
    ∃ before, graph.types[id]? = some before ∧ type.fields = before.fields.map fun field =>
      if owner = id ∧ field.name = fieldName then { field with constraints } else field := by
  rw [TypeGraph.setConstraints, List.getElem?_modify] at here
  obtain ⟨before, found, same⟩ := Option.map_eq_some_iff.mp here
  refine ⟨before, found, ?_⟩
  subst same
  by_cases isOwner : owner = id
  · obtain ⟨name, sourceName, body⟩ := before
    cases body <;> simp [NamedType.fields, isOwner]
  · simp [isOwner]

theorem attach_constrained {rules : ConstraintRules} {graph compiled : TypeGraph}
    {pending : List Pending} {log : Log}
    (done : ((attach rules graph pending).run log).1 = .ok compiled) {id : Nat} {type : NamedType}
    (here : compiled.types[id]? = some type) :
    ∃ before, graph.types[id]? = some before ∧
      List.Forall₂ (Constrained rules pending id) before.fields type.fields := by
  induction pending generalizing graph log with
  | nil =>
      cases done
      exact ⟨type, here, List.forall₂_same.mpr fun field _ => ⟨rfl, .inr ⟨by simp, rfl⟩⟩⟩
  | cons first rest ih =>
      obtain ⟨constraints, between, compiling, done⟩ := Logged.run_bind_eq_ok done
      obtain ⟨middle, inMiddle, later⟩ := ih done
      obtain ⟨before, found, fields⟩ := fields_setConstraints inMiddle
      rw [fields, List.forall₂_map_left_iff] at later
      refine ⟨before, found, later.imp fun field after one => one.cons ?_⟩
      exact fun path => compileConstraints_follows (.refl rules) first.path path _ log _ compiling

/-! ## Fields and their properties -/

/-- A field is made from a property, and has the constraints of that property. -/
structure ConstrainedFrom (rules : ConstraintRules) (property : String × Node) (field : Field) :
    Prop where
  made : FieldFrom property field
  constraints : ∀ path, (compileConstraints rules path (validateOf property.2)).Gives
    (.ok field.constraints)

theorem BodyFrom.fieldsFrom {source : Option Entries} {type : NamedType}
    (made : BodyFrom source type.body) :
    FieldsFrom (sourceProperties source) type.fields := by
  obtain ⟨name, sourceName, body⟩ := type
  cases made with
  | object _ made => exact made
  | enumeration _ | aliasOf _ => exact .nil

/-- Items of related lists are related as items of these lists. -/
theorem forall₂_mem {α β : Type} {relation : α → β → Prop} {left : List α} {right : List β}
    (related : List.Forall₂ relation left right) :
    List.Forall₂ (fun one other => one ∈ left ∧ other ∈ right ∧ relation one other) left right := by
  rw [List.forall₂_iff_zip] at related ⊢
  exact ⟨related.1, fun member =>
    ⟨(List.of_mem_zip member).1, (List.of_mem_zip member).2, related.2 member⟩⟩

/-- If what was put aside is what the objects state, each field gets the constraints of its own
property. -/
theorem constrainedFrom_of_constrained {rules : ConstraintRules} {pending : List Pending} {id : Nat}
    {sources : List (Option Entries)} {source : Option Entries} {plain fields : List Field}
    (stated : ∀ one, one ∈ pending.map Pending.stated ↔ one ∈ statedFrom 0 sources)
    (found : sources[id]? = some source) (made : FieldsFrom (sourceProperties source) plain)
    (empty : ∀ field ∈ plain, field.constraints = [])
    (constrained : List.Forall₂ (Constrained rules pending id) plain fields) :
    List.Forall₂ (ConstrainedFrom rules) (sourceProperties source) fields := by
  have names : ((sourceProperties source).map (Naming.fieldName ·.1)).Nodup :=
    FieldsFrom.map_name made.each ▸ made.distinct
  refine forall₂_trans ?_ (forall₂_mem made.each) constrained
  rintro property before field ⟨isProperty, isPlain, made⟩ ⟨rest, constraints⟩
  refine ⟨made.of_unconstrained rest, fun path => ?_⟩
  rcases constraints with ⟨one, member, rfl, sameName, each⟩ | ⟨none, same⟩
  · -- the field was found by its name, which no other property has
    obtain ⟨_, foundHere, other, isOther, named, isValidate⟩ :=
      mem_statedFrom_iff.mp ((stated one.stated).mp (List.mem_map_of_mem member))
    cases found.symm.trans foundHere
    have sameProperty :=
      List.inj_on_of_nodup_map names isOther isProperty (named.trans (sameName.trans made.name))
    rw [← sameProperty, isValidate]
    exact each path
  · have unstated : validateOf property.2 = Option.none := by
      rw [Option.eq_none_iff_forall_ne_some]
      intro node isNode
      have isStated := (stated { owner := id, fieldName := before.name, node }).mpr
        (mem_statedFrom_iff.mpr ⟨source, found, property, isProperty, made.name.symm, isNode⟩)
      obtain ⟨one, member, sameStated⟩ := List.mem_map.mp isStated
      exact none one member (congrArg Stated.owner sameStated)
        (congrArg Stated.fieldName sameStated)
    rw [unstated, same, empty before isPlain]
    exact Logged.gives_pure []

end SchemaCompiler.Schema

namespace SchemaCompiler.Compiler

open Schema

/-- In a document that compiles, every field of every declared or added object has the constraints
of the property that it is made from, and no others. All of them are well-formed. And but for
constraints the graph is that of the document without the constraints of all properties. -/
theorem constraints_land_on_their_fields {compiler : Compiler} {name : String}
    {root : Option Document.Node} {graph : TypeGraph}
    (done : (compiler.compile name root).outcome.1 = .ok graph) :
    (∃ line declarations,
      findSection root compiler.settings.sectionPath = .ok (line, declarations) ∧
      List.Forall₂ (fun source type =>
        List.Forall₂ (ConstrainedFrom (compiler.settings.constraintRules compiler.language))
          (sourceProperties source) type.fields) (objectSources declarations) graph.types) ∧
    (∀ type ∈ graph.types, ∀ field ∈ type.fields, ∀ directive ∈ field.constraints,
      directive.WellFormed) ∧
    (compiler.compile name (withoutConstraints compiler.settings.sectionPath root)).outcome.1 =
      .ok graph.unconstrained := by
  refine ⟨?_, ?_, compile_withoutConstraints done⟩
  · obtain ⟨line, declarations, shapes, found, reads, attaching⟩ := compile_attaches done
    refine ⟨line, declarations, found, ?_⟩
    obtain ⟨length, sources⟩ := List.forall₂_iff_get.mp reads.objectSources
    have sameLength : (assemble shapes).types.length = graph.types.length := by
      have same := congrArg (·.types.length) (unconstrained_attach attaching)
      simpa [TypeGraph.unconstrained, graphOf] using same.symm
    refine List.forall₂_iff_get.mpr ⟨length.trans sameLength, fun id isSource isType => ?_⟩
    obtain ⟨plain, isPlain, constrained⟩ :=
      attach_constrained attaching (List.getElem?_eq_getElem isType)
    have made : BodyFrom ((objectSources declarations).get ⟨id, isSource⟩) plain.body := by
      have here : id < (assemble shapes).types.length := sameLength ▸ isType
      have same := Option.some.inj ((List.getElem?_eq_getElem here).symm.trans isPlain)
      exact same ▸ sources id isSource here
    exact constrainedFrom_of_constrained reads.stated (List.getElem?_eq_getElem isSource)
      made.fieldsFrom (assemble_unconstrained plain (List.mem_of_getElem? isPlain)) constrained
  · intro type isType field isField
    exact (((compiled_of_compile done).conventional type isType).fields field isField).constraints

/-- A text with a constraint. -/
def limited (pattern : String) (length : Int) : Document.Node :=
  .mapping 4 [("type", .scalar 4 (.text "string")), ("validate", .sequence 5 [
    .mapping 5 [("pattern", .scalar 5 (.text pattern)), ("value", .scalar 5 (.int length))]])]

/-- A document with an object in an object, inside an array. Both have a field of the same name,
with constraints of its own, and the outer one has it behind the inner object. -/
def shipment : Document.Node :=
  .mapping 1 [("D", .mapping 1 [
    ("parcel", .mapping 2 [("type", .scalar 2 (.text "object")), ("properties", .mapping 3 [
      ("parts",
        .mapping 3
          [("items", .mapping 3 [("type", .scalar 3 (.text "object")), ("properties", .mapping 3 [
        ("note", .mapping 3 [("type", .scalar 3 (.text "string"))]),
          ("code", limited "maxLength" 2)])])]),
      ("code", limited "minLength" 1)])])])]

theorem shipment_constraints_land :
    ∃ graph line declarations,
      ((forLanguage oneKey "" .python).compile "a.yaml" (some shipment)).outcome.1 = .ok graph ∧
      graph.types.map (·.fields.map (·.constraints)) =
        [[[], [{ predicate := .minLength, argument := .int 1 }]],
          [[], [{ predicate := .maxLength, argument := .int 2 }]]] ∧
      findSection (some shipment) oneKey.sectionPath = .ok (line, declarations) ∧
      List.Forall₂ (fun source type =>
        List.Forall₂ (ConstrainedFrom (oneKey.constraintRules .python))
          (sourceProperties source) type.fields)
        (objectSources declarations) graph.types := by
  have constraints :
      ((forLanguage oneKey "" .python).compile "a.yaml" (some shipment)).outcome.1.toOption.map
      (·.types.map (·.fields.map (·.constraints))) =
      some [[[], [{ predicate := .minLength, argument := .int 1 }]],
        [[], [{ predicate := .maxLength, argument := .int 2 }]]] := by decide +kernel
  obtain ⟨graph, found, placed⟩ := Option.map_eq_some_iff.mp constraints
  have done := eq_ok_of_toOption found
  obtain ⟨⟨line, declarations, isSection, landed⟩, _⟩ := constraints_land_on_their_fields done
  exact ⟨graph, line, declarations, done, placed, isSection, landed⟩

end SchemaCompiler.Compiler
