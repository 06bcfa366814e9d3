import SchemaCompiler.Proofs.Ownership
import SchemaCompiler.Proofs.Unconstrained

/-!
# The objects that types are made from

Every type of a graph comes from one place of its section: the declared ones from their
declarations, the others from the objects without a name. If that place holds an object, the fields
of the type are made from its properties, one from each and in the same order (`BodyFrom`).
Attaching constraints to fields changes nothing about that.
-/

namespace SchemaCompiler.Schema

open Document (Node Entries)

/-- The object that a declaration holds. -/
def declaredObject? : Node → Option Entries
  | .mapping _ entries => if declarationForm entries = .object then some entries else none
  | _ => none

/-- The objects that the types of a section are made from, in the order of the types. A declaration
that is no object leaves a gap. -/
def objectSources (declarations : Entries) : List (Option Entries) :=
  declarations.map (declaredObject? ·.2) ++ (inlineObjects declarations).map (some ·.2)

/-- The body of a type that is made from an object, or from none. -/
inductive BodyFrom : Option Entries → Body → Prop where
  | object {entries : Entries} {fields : List Field} (synthesized : Bool)
      (made : FieldsFrom (objectProperties entries) fields) :
      BodyFrom (some entries) (.object synthesized fields)
  | enumeration (values : List String) : BodyFrom none (.enumeration values)
  | aliasOf (target : TypeExpr) : BodyFrom none (.aliasOf target)

/-! ## Declarations -/

theorem declarationShape_from {known : String → Bool} {name : String} {node : Node}
    {shape : DeclarationShape} (read : declarationShape known name node = .ok shape)
    (number : String → Nat) (start : Nat) :
    BodyFrom (declaredObject? node) (shape.body number start) := by
  obtain ⟨type, typeRead, read⟩ := bind_eq_ok read
  obtain ⟨line, entries, body, rfl, _, isProvisional, rfl⟩ := provisional_eq_ok typeRead
  have form := provisional_form typeRead
  dsimp only at read form
  rw [declaredObject?, ← form]
  cases isProvisional with
  | object =>
      obtain ⟨fields, fieldsRead, rfl⟩ := map_eq_ok read
      exact .object false (objectShape_lists fieldsRead name number start start).2
  | enumeration =>
      obtain ⟨values, _, rfl⟩ := map_eq_ok read
      exact .enumeration values
  | scalar kind =>
      cases read
      exact .aliasOf _
  | array =>
      obtain ⟨target, _, rfl⟩ := map_eq_ok read
      exact .aliasOf _
  | name target pointer =>
      obtain ⟨shape, _, rfl⟩ := map_eq_ok read
      exact .aliasOf _

theorem declaredTypes_from {known : String → Bool} {entries : Entries}
    {shapes : List (String × DeclarationShape)} (read : sectionShapes known entries = .ok shapes)
    (number : String → Nat) (start : Nat) :
    List.Forall₂ (fun entry type => BodyFrom (declaredObject? entry.2) type.body) entries
      (declaredTypes number start shapes) := by
  have pairs := sectionShapes_eq_ok_iff.mp read
  clear read
  induction pairs generalizing start with
  | nil => exact .nil
  | @cons _ shape _ _ here _ ih =>
      exact .cons (declarationShape_from here.2 number start) (ih (start + shape.2.size))

theorem ReadsAs.objectSources {entries : Entries} {shapes : List (String × DeclarationShape)}
    (reads : ReadsAs entries shapes) :
    List.Forall₂ (fun source type => BodyFrom source type.body) (Schema.objectSources entries)
      (assemble shapes).types := by
  obtain ⟨added, types, made⟩ := reads.exists_added
  rw [types]
  refine List.rel_append ?_ ?_
  · exact List.forall₂_map_left_iff.mpr (declaredTypes_from reads.reads _ _)
  · refine List.forall₂_map_left_iff.mpr (made.imp ?_)
    rintro object type ⟨_, fields, isBody, areFields⟩
    rw [isBody]
    exact .object true areFields

/-! ## Constraints -/

/-- Where a field comes from does not depend on its constraints. -/
theorem FieldFrom.of_unconstrained {property : String × Node} {field other : Field}
    (same : field.unconstrained = other.unconstrained) (made : FieldFrom property other) :
    FieldFrom property field where
  sourceName := (congrArg Field.sourceName same).trans made.sourceName
  name := (congrArg Field.name same).trans made.name
  optional := (congrArg Field.optional same).trans made.optional
  limited any := made.limited ((congrArg Field.type same).symm.trans any)

theorem FieldsFrom.of_unconstrained {properties : Entries} {fields others : List Field}
    (same : fields.map Field.unconstrained = others.map Field.unconstrained)
    (made : FieldsFrom properties others) :
    FieldsFrom properties fields := by
  have names (fields : List Field) : (fields.map Field.unconstrained).map (·.name) =
      fields.map (·.name) := by
    rw [List.map_map]
    rfl
  have alike := List.forall₂_eq_eq_eq.symm ▸ same
  rw [List.forall₂_map_left_iff, List.forall₂_map_right_iff] at alike
  refine ⟨forall₂_trans (fun _ _ _ made same => made.of_unconstrained same) made.each alike.flip,
    ?_⟩
  rw [← names, same, names]
  exact made.distinct

theorem BodyFrom.of_unconstrained {source : Option Entries} {type other : NamedType}
    (same : type.unconstrained = other.unconstrained) (made : BodyFrom source other.body) :
    BodyFrom source type.body := by
  obtain ⟨name, sourceName, body⟩ := type
  obtain ⟨otherName, otherSource, otherBody⟩ := other
  have bodies := congrArg NamedType.body same
  cases made with
  | object synthesized fields =>
      cases body with
      | object ownSynthesized ownFields =>
          obtain ⟨rfl, fieldsSame⟩ := Body.object.inj bodies
          exact .object _ (fields.of_unconstrained fieldsSame)
      | enumeration values => cases bodies
      | aliasOf target => cases bodies
  | enumeration values =>
      cases body with
      | enumeration _ => exact .enumeration _
      | object _ _ => cases bodies
      | aliasOf _ => cases bodies
  | aliasOf target =>
      cases body with
      | aliasOf _ => exact .aliasOf _
      | object _ _ => cases bodies
      | enumeration _ => cases bodies

end SchemaCompiler.Schema

namespace SchemaCompiler.Compiler

open Schema

/-- A document that compiles has a section that can be read, and its graph is what attaching the
constraints of the section gives. -/
theorem compile_attaches {compiler : Compiler} {name : String} {root : Option Document.Node}
    {graph : TypeGraph} (done : (compiler.compile name root).outcome.1 = .ok graph) :
    ∃ line declarations shapes,
      findSection root compiler.settings.sectionPath = .ok (line, declarations) ∧
      ReadsAs declarations shapes ∧
      ((attach (compiler.settings.constraintRules compiler.language) (graphOf name shapes)
        (sectionPending 0 shapes.length shapes)).run []).1 = .ok graph := by
  rw [(compiler.compile_gives name root).outcome_eq, mapError_eq_ok_iff] at done
  obtain ⟨⟨line, declarations⟩, found, done⟩ := bind_eq_ok done
  obtain ⟨⟨plain, pending⟩, analysed, done⟩ := bind_eq_ok done
  obtain ⟨attached, between, attaching, done⟩ := Logged.run_bind_eq_ok done
  cases done
  obtain ⟨shapes, reads, _, rfl, rfl⟩ := analyze_eq_ok_iff.mp analysed
  exact ⟨line, declarations, shapes, found, reads, attaching⟩

/-- The types that a document compiles to are made from the objects of its section, in order. -/
theorem compile_sources {compiler : Compiler} {name : String} {root : Option Document.Node}
    {graph : TypeGraph} (done : (compiler.compile name root).outcome.1 = .ok graph) :
    ∃ line declarations, findSection root compiler.settings.sectionPath = .ok (line, declarations) ∧
      List.Forall₂ (fun source type => BodyFrom source type.body)
        (objectSources declarations) graph.types := by
  obtain ⟨line, declarations, shapes, found, reads, attaching⟩ := compile_attaches done
  -- attaching constraints gives the assembled types back up to constraints, type by type
  have types : List.Forall₂ Eq (graph.types.map NamedType.unconstrained)
      ((assemble shapes).types.map NamedType.unconstrained) := by
    rw [List.forall₂_eq_eq_eq]
    exact congrArg TypeGraph.types (unconstrained_attach attaching)
  rw [List.forall₂_map_left_iff, List.forall₂_map_right_iff] at types
  refine ⟨line, declarations, found, ?_⟩
  refine forall₂_trans ?_ reads.objectSources types.flip
  exact fun source other type made same => made.of_unconstrained same

end SchemaCompiler.Compiler
