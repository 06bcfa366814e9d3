import SchemaCompiler.Proofs.ClosedGraph
import SchemaCompiler.Proofs.Compilation

/-!
# Compiled graphs

What backends can rely on. The graph of a document that compiles is closed, its aliases lead to no
cycle, and everything in it is named by the conventions of generated code: types by letters and
digits, fields after their properties, constants after their values. The constraints of its fields
are as schemas can state them.
-/

namespace SchemaCompiler

namespace Schema

open Document (Node Entries)

/-- Fields that are named after their property, with constraints as schemas can state them. -/
structure Field.Conventional (field : Field) : Prop where
  name : field.name = Naming.fieldName field.sourceName
  usable : field.name ≠ ""
  constraints : ∀ directive ∈ field.constraints, directive.WellFormed

/-- Types that are named by the conventions of generated code, with all that is in them. -/
structure NamedType.Conventional (type : NamedType) : Prop where
  name : Naming.IsPlain type.name
  fields : ∀ field ∈ type.fields, field.Conventional
  constants : ∀ values, type.body = .enumeration values →
    ∀ value ∈ values, value ≠ "" ∧ ∃ text, value = Naming.enumConstant text

/-! ## The types of a section -/

section Section

variable {known : String → Bool}

theorem FieldShapes.fields_conventional (number : String → Nat) (start : Nat) (fields : FieldShapes)
    (sound : fields.Sound known) : ∀ field ∈ fields.fields number start, field.Conventional := by
  cases fields with
  | nil => simp [FieldShapes.fields]
  | cons head type rest =>
      obtain ⟨_, restSound, named, usable⟩ := sound
      rw [FieldShapes.fields, List.forall_mem_cons]
      refine ⟨⟨named, usable, ?_⟩, rest.fields_conventional number _ restSound⟩
      simp [FieldHead.field]

mutual

theorem Shape.objects_conventional (number : String → Nat) (start : Nat) (shape : Shape)
    (sound : shape.Sound known) :
    ∀ object ∈ shape.objects number start, ∀ field ∈ object.2, field.Conventional := by
  match shape with
  | .scalar _ => simp [Shape.objects]
  | .any => simp [Shape.objects]
  | .declared _ => simp [Shape.objects]
  | .array items => exact Shape.objects_conventional number start items sound
  | .inline baseName fields =>
      rw [Shape.objects, List.forall_mem_cons]
      exact ⟨fields.fields_conventional number _ sound.2,
        FieldShapes.objects_conventional number _ fields sound.2⟩

theorem FieldShapes.objects_conventional (number : String → Nat) (start : Nat)
    (fields : FieldShapes) (sound : fields.Sound known) :
    ∀ object ∈ fields.objects number start, ∀ field ∈ object.2, field.Conventional := by
  match fields with
  | .nil => simp [FieldShapes.objects]
  | .cons head type rest =>
      rw [FieldShapes.objects, List.forall_mem_append]
      exact ⟨Shape.objects_conventional number _ type sound.1,
        FieldShapes.objects_conventional number _ rest sound.2.1⟩

end

theorem declaredTypes_conventional (number : String → Nat) (start : Nat)
    {shapes : List (String × DeclarationShape)} (sound : ∀ shape ∈ shapes, shape.2.Sound known) :
    ∀ type ∈ declaredTypes number start shapes, type.Conventional := by
  induction shapes generalizing start with
  | nil => simp [declaredTypes]
  | cons first rest ih =>
      obtain ⟨name, shape⟩ := first
      rw [List.forall_mem_cons] at sound
      rw [declaredTypes, List.forall_mem_cons]
      refine ⟨?_, ih _ sound.2⟩
      have own := sound.1
      cases shape with
      | object fields =>
          exact ⟨Naming.typeName_plain name,
            fields.fields_conventional number _ own, by simp [DeclarationShape.body]⟩
      | enumeration values =>
          refine ⟨Naming.typeName_plain name, by simp [NamedType.fields, DeclarationShape.body], ?_⟩
          rintro _ same
          cases same
          exact own
      | aliasOf target =>
          exact ⟨Naming.typeName_plain name, by simp [NamedType.fields, DeclarationShape.body],
            by simp [DeclarationShape.body]⟩

theorem sectionObjects_conventional (number : String → Nat) (start : Nat)
    {shapes : List (String × DeclarationShape)} (sound : ∀ shape ∈ shapes, shape.2.Sound known) :
    ∀ object ∈ sectionObjects number start shapes, ∀ field ∈ object.2, field.Conventional := by
  induction shapes generalizing start with
  | nil => simp [sectionObjects]
  | cons first rest ih =>
      obtain ⟨name, shape⟩ := first
      rw [List.forall_mem_cons] at sound
      rw [sectionObjects, List.forall_mem_append]
      refine ⟨?_, ih _ sound.2⟩
      cases shape with
      | object fields => exact fields.objects_conventional number _ sound.1
      | enumeration values => simp [DeclarationShape.objects]
      | aliasOf target => exact target.objects_conventional number _ sound.1

end Section

theorem SymbolTable.numbered_plain {base : String} (plain : Naming.IsPlain base) (number : Nat) :
    Naming.IsPlain (numbered base number) := by
  intro c member
  rw [numbered, String.toList_append, String.toList_ofList, List.mem_append] at member
  rcases member with inBase | isDigit
  · exact plain c inBase
  · have digit := Nat.isDigit_of_mem_toDigits (by decide) (by decide) isDigit
    exact .inl (by simp [Char.isAlphanum, digit])

/-- The number behind a name that is not free adds only digits. -/
theorem SymbolTable.uniqueName_plain (table : SymbolTable) {base : String}
    (plain : Naming.IsPlain base) :
    Naming.IsPlain (table.uniqueName base) := by
  unfold uniqueName
  split
  · exact plain
  · dsimp only
    split
    · exact numbered_plain plain _
    · exact plain

theorem addObjects_conventional {table : SymbolTable} {objects : List (String × List Field)}
    (types : ∀ type ∈ table.types, type.Conventional)
    (fields : ∀ object ∈ objects, ∀ field ∈ object.2, field.Conventional) :
    ∀ type ∈ (table.addObjects objects).types, type.Conventional := by
  induction objects generalizing table with
  | nil => exact types
  | cons object rest ih =>
      rw [List.forall_mem_cons] at fields
      rw [SymbolTable.addObjects_cons]
      refine ih ?_ fields.2
      intro type member
      rcases List.mem_append.mp member with old | new
      · exact types type old
      · rw [List.mem_singleton.mp new]
        exact ⟨table.uniqueName_plain (Naming.typeName_plain _), fields.1, by simp⟩

theorem assemble_conventional {known : String → Bool} {shapes : List (String × DeclarationShape)}
    (sound : ∀ shape ∈ shapes, shape.2.Sound known) :
    ∀ type ∈ (assemble shapes).types, type.Conventional :=
  addObjects_conventional (declaredTypes_conventional _ _ sound)
    (sectionObjects_conventional _ _ sound)

/-! ## Constraints -/

theorem compileLength_wellFormed {predicate : Predicate} {location : Location}
    {argument : Option Node} {directive : Directive}
    (isLength : predicate = .minLength ∨ predicate = .maxLength)
    (done : compileLength predicate location argument = .ok directive) : directive.WellFormed := by
  unfold compileLength at done
  split at done
  · split at done
    next nonnegative =>
      cases done
      rcases isLength with rfl | rfl <;> exact nonnegative
    · obtain ⟨shown, _, done⟩ := bind_eq_ok done
      exact absurd done fail_ne_ok
  · obtain ⟨shown, _, done⟩ := bind_eq_ok done
    exact absurd done fail_ne_ok

theorem compileRegex_wellFormed {rules : ConstraintRules} {location : Location}
    {argument : Option Node} {directive : Directive}
    (done : compileRegex rules location argument = .ok directive) :
    directive.WellFormed := by
  unfold compileRegex at done
  split at done
  · split at done
    · obtain ⟨_, _, done⟩ := bind_eq_ok done
      cases done
      trivial
    · cases done
      trivial
  · obtain ⟨shown, _, done⟩ := bind_eq_ok done
    exact absurd done fail_ne_ok

theorem compilePredicate_wellFormed {rules : ConstraintRules} {location : Location}
    {argument : Option Node} {predicate : Predicate} {directive : Directive}
    (done : compilePredicate rules location argument predicate = .ok directive) :
    directive.WellFormed := by
  cases predicate with
  | isAlpha | isNumeric =>
      cases done
      trivial
  | minLength => exact compileLength_wellFormed (.inl rfl) done
  | maxLength => exact compileLength_wellFormed (.inr rfl) done
  | regex => exact compileRegex_wellFormed done

theorem compileEntry_wellFormed {rules : ConstraintRules} {path : PropertyPath} {entry : Node}
    {log : Log} {directive : Option Directive}
    (done : ((compileEntry rules path entry).run log).1 = .ok directive) :
    ∀ one ∈ directive, one.WellFormed := by
  cases entry with
  | absent | scalar | sequence =>
      simp only [compileEntry, Logged.gives_ofExcept _ log] at done
      exact absurd done failAt_ne_ok
  | mapping line entries =>
      rw [compileEntry] at done
      split at done
      · obtain ⟨compiled, between, first, done⟩ := Logged.run_bind_eq_ok done
        cases done
        rintro _ ⟨⟩
        exact compilePredicate_wellFormed first
      · obtain ⟨shown, between, _, done⟩ := Logged.run_bind_eq_ok done
        split at done
        · exact absurd done fail_ne_ok
        · obtain ⟨_, _, _, done⟩ := Logged.run_bind_eq_ok done
          cases done
          simp

theorem compileEntries_wellFormed {rules : ConstraintRules} {path : PropertyPath}
    {entries : List Node} {log : Log} {directives : List Directive}
    (done : ((compileEntries rules path entries).run log).1 = .ok directives) :
    ∀ directive ∈ directives, directive.WellFormed := by
  induction entries generalizing log directives with
  | nil =>
      cases done
      simp
  | cons entry rest ih =>
      obtain ⟨directive, between, first, done⟩ := Logged.run_bind_eq_ok done
      obtain ⟨others, after, second, done⟩ := Logged.run_bind_eq_ok done
      cases done
      rw [List.forall_mem_append]
      exact ⟨by simpa using compileEntry_wellFormed first, ih second⟩

/-- The constraints of a property are as schemas can state them. -/
theorem compileConstraints_wellFormed {rules : ConstraintRules} {path : PropertyPath}
    {node : Option Node} {log : Log} {directives : List Directive}
    (done : ((compileConstraints rules path node).run log).1 = .ok directives) :
    ∀ directive ∈ directives, directive.WellFormed := by
  unfold compileConstraints at done
  split at done
  · cases done
    simp
  · cases done
    simp
  · exact compileEntries_wellFormed done
  · exact absurd done failAt_ne_ok

/-! ## Attaching constraints -/

/-- Where a type stands after setting constraints, one stood before, which is the same but for the
constraints of its fields. -/
theorem getElem?_setConstraints {graph : TypeGraph} {owner : Nat} {fieldName : String}
    {constraints : List Directive} {id : Nat} {type : NamedType}
    (here : (graph.setConstraints owner fieldName constraints).types[id]? = some type) :
    ∃ before, graph.types[id]? = some before ∧
      (type = before ∨
        ∃ synthesized fields, before.body = .object synthesized fields ∧
          type = { before with
            body := .object synthesized (fields.map fun field =>
              if field.name == fieldName then { field with constraints } else field) }) := by
  rw [TypeGraph.setConstraints, List.getElem?_modify] at here
  obtain ⟨before, found, same⟩ := Option.map_eq_some_iff.mp here
  refine ⟨before, found, ?_⟩
  split at same
  · obtain ⟨name, sourceName, body⟩ := before
    cases body with
    | object synthesized fields => exact .inr ⟨synthesized, fields, rfl, same.symm⟩
    | enumeration values => exact .inl same.symm
    | aliasOf target => exact .inl same.symm
  · exact .inl same.symm

theorem setConstraints_conventional {graph : TypeGraph}
    (types : ∀ type ∈ graph.types, type.Conventional) (owner : Nat) (fieldName : String)
    {constraints : List Directive} (wellFormed : ∀ directive ∈ constraints, directive.WellFormed) :
    ∀ type ∈ (graph.setConstraints owner fieldName constraints).types, type.Conventional := by
  intro type member
  obtain ⟨id, here⟩ := List.mem_iff_getElem?.mp member
  obtain ⟨before, found, rfl | ⟨synthesized, fields, isObject, rfl⟩⟩ := getElem?_setConstraints here
  · exact types type (List.mem_of_getElem? found)
  · have conventional := types before (List.mem_of_getElem? found)
    have old : ∀ field ∈ fields, field.Conventional := by
      have all := conventional.fields
      rwa [NamedType.fields, isObject] at all
    refine ⟨conventional.name, ?_, by simp⟩
    simp only [NamedType.fields, List.forall_mem_map]
    intro field isField
    split
    · exact ⟨(old field isField).name, (old field isField).usable, wellFormed⟩
    · exact old field isField

theorem keepsAliases_setConstraints (graph : TypeGraph) (owner : Nat) (fieldName : String)
    (constraints : List Directive) :
    KeepsAliases (graph.setConstraints owner fieldName constraints).types graph.types id := by
  intro index target found
  obtain ⟨type, here, isTarget⟩ := Option.bind_eq_some_iff.mp found
  obtain ⟨before, stood, rfl | ⟨synthesized, fields, _, rfl⟩⟩ := getElem?_setConstraints here
  · exact ⟨target, Option.bind_eq_some_iff.mpr ⟨type, stood, isTarget⟩, fun next leaf => leaf⟩
  · cases isTarget

/-! ## Graphs of documents -/

/-- Graphs as backends get them. -/
structure TypeGraph.Compiled (graph : TypeGraph) : Prop where
  closed : graph.Closed
  acyclic : Acyclic graph.types
  conventional : ∀ type ∈ graph.types, type.Conventional

/-- Attaching the constraints of a field changes nothing that backends rely on. -/
theorem TypeGraph.Compiled.attach {rules : ConstraintRules} {graph compiled : TypeGraph}
    {pending : List Pending} (start : graph.Compiled) {log : Log}
    (done : ((Schema.attach rules graph pending).run log).1 = .ok compiled) :
    compiled.Compiled := by
  induction pending generalizing graph log with
  | nil =>
      cases done
      exact start
  | cons first rest ih =>
      obtain ⟨constraints, between, compiling, done⟩ := Logged.run_bind_eq_ok done
      refine ih ⟨?_, ?_, ?_⟩ done
      · exact start.closed.setConstraints first.owner first.fieldName constraints
      · exact (keepsAliases_setConstraints graph first.owner first.fieldName constraints).acyclic
          start.acyclic
      · exact setConstraints_conventional start.conventional
          _ _ (compileConstraints_wellFormed compiling)

theorem compiled_of_analyze {document : String} {entries : Entries} {graph : TypeGraph}
    {pending : List Pending} (done : (analyze document entries).outcome.1 = .ok (graph, pending)) :
    graph.Compiled := by
  obtain ⟨shapes, reads, acyclic, rfl, _⟩ := analyze_eq_ok_iff.mp done
  exact ⟨reads.closed document, acyclic, assemble_conventional reads.sound⟩

end Schema

open Schema

/-- What backends can rely on holds of the graph of every document that compiles. -/
theorem Compiler.compiled_of_compile {compiler : Compiler} {name : String}
    {root : Option Document.Node} {graph : TypeGraph}
    (done : (compiler.compile name root).outcome.1 = .ok graph) : graph.Compiled := by
  obtain ⟨entries, plain, pending, analysed, done⟩ := compile_eq_ok done
  obtain ⟨attached, between, attaching, done⟩ := Logged.run_bind_eq_ok done
  cases done
  exact (compiled_of_analyze analysed).attach attaching

end SchemaCompiler
