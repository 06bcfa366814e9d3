import SchemaCompiler.Proofs.CompiledGraph
import SchemaCompiler.Proofs.DeclarationOrder
import SchemaCompiler.Proofs.Fault

/-!
# The faults of compiling and rendering

A tree is compiled and rendered in stages, and each stage is accounted for. Finding the declarations
can end in a fault of the path, which is a setting (`SectionPath.Raises`). Analysis and constraints
fail as one of the declarations does, so their faults come from values in the tree. Rendering shows
the integers in constraints again, and these come from the tree as well; apart from them it shows
only the package, which is a setting too.
-/

namespace SchemaCompiler

namespace Schema

open Document (Node Entries Scalar)

section Tree

variable {root : Node} {name : String} {checksRegex : Bool} {location : Location}

/-! ## Constraints -/

/-- Directives that have only integers from a tree. -/
def Directive.Draws (root : Node) (directive : Directive) : Prop :=
  ∀ value, directive.argument = .int value → ∃ line, root.Inside (.scalar line (.int value))

/-- Graphs whose constraints have only integers from a tree. -/
def TypeGraph.Draws (root : Node) (graph : TypeGraph) : Prop :=
  ∀ type ∈ graph.types, ∀ field ∈ type.fields, ∀ directive ∈ field.constraints, directive.Draws root

theorem Directive.Draws.trans {outer : Node} {directive : Directive} (inside : outer.Inside root)
    (draws : directive.Draws root) : directive.Draws outer := by
  intro value same
  obtain ⟨line, stands⟩ := draws value same
  exact ⟨line, inside.trans stands⟩

theorem describeArgument_yields {argument : Option Node}
    (inside : ∀ node ∈ argument, root.Inside node) :
    Outcome (FailsIn root name checksRegex) (fun _ => True) (describeArgument argument) := by
  unfold describeArgument
  split
  · exact .ok trivial
  · exact .ok trivial
  · exact (showScalar_yields (inside _ rfl)).bind fun _ _ => .ok trivial
  · exact .ok trivial

theorem inside_of_scalar {argument : Option Node} (inside : ∀ node ∈ argument, root.Inside node)
    {scalar : Scalar} (found : argument.bind Node.scalar? = some scalar) :
    ∃ line, root.Inside (.scalar line scalar) := by
  obtain ⟨node, isNode, isScalar⟩ := Option.bind_eq_some_iff.mp found
  cases node with
  | scalar line value =>
      cases isScalar
      exact ⟨line, inside _ isNode⟩
  | sequence | mapping | absent => cases isScalar

theorem compileLength_yields {argument : Option Node} (inside : ∀ node ∈ argument, root.Inside node)
    (here : location.In root name) (predicate : Predicate) :
    Outcome (FailsIn root name checksRegex) (Directive.Draws root)
      (compileLength predicate location argument) := by
  unfold compileLength
  split
  next length found =>
    split
    · refine .ok fun value same => ?_
      cases same
      exact inside_of_scalar inside found
    · exact (describeArgument_yields inside).bind fun _ _ => fail_yields here _
  next => exact (describeArgument_yields inside).bind fun _ _ => fail_yields here _

theorem checkRegex_yields {line : Int} {text : String} (checked : checksRegex = true)
    (inside : root.Inside (.scalar line (.text text))) (here : location.In root name) :
    Outcome (FailsIn root name checksRegex) (fun _ => True) (checkRegex location text) := by
  unfold checkRegex
  split
  · exact .ok trivial
  · exact fail_yields here _
  next fault found => exact .error (.value (.pattern checked inside found))

theorem compileRegex_yields {argument : Option Node} (inside : ∀ node ∈ argument, root.Inside node)
    (here : location.In root name) (rules : ConstraintRules) :
    Outcome (FailsIn root name rules.checkRegex) (Directive.Draws root)
      (compileRegex rules location argument) := by
  have noInteger (text : String) :
      Directive.Draws root { predicate := .regex, argument := .text text } := by
    intro value same
    cases same
  unfold compileRegex
  split
  next text found =>
    obtain ⟨line, stands⟩ := inside_of_scalar inside found
    split
    next checked =>
      exact (checkRegex_yields checked stands here).bind fun _ _ => .ok (noInteger text)
    next => exact .ok (noInteger text)
  next => exact (describeArgument_yields inside).bind fun _ _ => fail_yields here _

theorem compilePredicate_yields {argument : Option Node}
    (inside : ∀ node ∈ argument, root.Inside node) (here : location.In root name)
    (rules : ConstraintRules) (predicate : Predicate) :
    Outcome (FailsIn root name rules.checkRegex) (Directive.Draws root)
      (compilePredicate rules location argument predicate) := by
  cases predicate with
  | isAlpha | isNumeric =>
      refine .ok fun value same => ?_
      cases same
  | minLength => exact compileLength_yields inside here .minLength
  | maxLength => exact compileLength_yields inside here .maxLength
  | regex => exact compileRegex_yields inside here rules

theorem compileEntry_yields {node : Node} (inside : root.Inside node) (rules : ConstraintRules)
    (path : PropertyPath) :
    Logged.Yields (FailsIn root path.declaration rules.checkRegex)
      (fun directive => ∀ one ∈ directive, one.Draws root) (compileEntry rules path node) := by
  have here : Location.In root path.declaration (path.location node) := .ofNode inside _ _
  cases node with
  | absent | scalar | sequence => exact .ofExcept (failAt_yields inside here _)
  | mapping line entries =>
      rw [compileEntry]
      split
      · refine Logged.Yields.bind (.ofExcept (compilePredicate_yields ?_ here rules _))
          fun directive draws => ?_
        · exact fun node found => inside.entries.get? found
        · refine .pure ?_
          rintro _ ⟨⟩
          exact draws
      · refine Logged.Yields.bind (.ofExcept (showEntry_yields inside.entries "pattern"))
          fun shown _ => ?_
        split
        · exact .ofExcept (fail_yields here _)
        · exact (Logged.Yields.note _).bind fun _ _ => .pure (by simp)

theorem compileEntries_yields {nodes : List Node} (inside : ∀ node ∈ nodes, root.Inside node)
    (rules : ConstraintRules) (path : PropertyPath) :
    Logged.Yields (FailsIn root path.declaration rules.checkRegex)
      (fun directives => ∀ one ∈ directives, one.Draws root) (compileEntries rules path nodes) := by
  induction nodes with
  | nil => exact .pure (by simp)
  | cons node rest ih =>
      rw [List.forall_mem_cons] at inside
      refine (compileEntry_yields inside.1 rules path).bind fun directive draws => ?_
      refine (ih inside.2).bind fun directives othersDraw => .pure ?_
      rw [List.forall_mem_append]
      exact ⟨by simpa using draws, othersDraw⟩

theorem compileConstraints_yields {node : Node} (inside : root.Inside node)
    (rules : ConstraintRules) (path : PropertyPath) :
    Logged.Yields (FailsIn root path.declaration rules.checkRegex)
      (fun directives => ∀ one ∈ directives, one.Draws root)
        (compileConstraints rules path (some node)) := by
  have here : Location.In root path.declaration (path.location node) := .ofNode inside _ _
  cases node with
  | scalar line value =>
      cases value with
      | null => exact .pure (by simp)
      | bool | int | float | text => exact .ofExcept (failAt_yields inside here _)
  | sequence line items =>
      exact compileEntries_yields (fun node member => .item inside member) rules path
  | mapping | absent => exact .ofExcept (failAt_yields inside here _)

theorem TypeGraph.Draws.setConstraints {graph : TypeGraph} (draws : graph.Draws root) (owner : Nat)
    (fieldName : String) {constraints : List Directive}
    (drawn : ∀ directive ∈ constraints, directive.Draws root) :
    (graph.setConstraints owner fieldName constraints).Draws root := by
  intro type member
  obtain ⟨id, here⟩ := List.mem_iff_getElem?.mp member
  obtain ⟨before, found, rfl | ⟨synthesized, fields, isObject, rfl⟩⟩ := getElem?_setConstraints here
  · exact draws type (List.mem_of_getElem? found)
  · have old := draws before (List.mem_of_getElem? found)
    rw [NamedType.fields, isObject] at old
    simp only [NamedType.fields, List.forall_mem_map]
    intro field isField
    split
    · exact drawn
    · exact old field isField

theorem attach_yields {entries : Entries} (inside : entries.Inside root) {graph : TypeGraph}
    {pending : List Pending} (draws : graph.Draws root) (defers : DefersAmong entries pending)
    (rules : ConstraintRules) :
    Logged.Yields (FailsAmong entries rules.checkRegex) (TypeGraph.Draws root)
      (attach rules graph pending) := by
  induction pending generalizing graph with
  | nil => exact .pure draws
  | cons first rest ih =>
      obtain ⟨⟨entry, member, own, stands⟩, others⟩ := List.forall_mem_cons.mp defers
      have compiled := compileConstraints_yields stands rules first.path
      rw [own] at compiled
      refine (compiled.allow fun _ fails => ⟨entry, member, fails⟩).bind fun constraints drawn => ?_
      have outside := fun directive isDirective =>
        (drawn directive isDirective).trans (inside entry member)
      exact ih (draws.setConstraints first.owner first.fieldName outside) others

/-! ## Graphs without constraints -/

theorem FieldShapes.fields_unconstrained (number : String → Nat) (start : Nat)
    (fields : FieldShapes) :
    ∀ field ∈ fields.fields number start, field.constraints = [] := by
  cases fields with
  | nil => simp [FieldShapes.fields]
  | cons head type rest =>
      rw [FieldShapes.fields, List.forall_mem_cons]
      exact ⟨rfl, rest.fields_unconstrained number _⟩

mutual

theorem Shape.objects_unconstrained (number : String → Nat) (start : Nat) (shape : Shape) :
    ∀ object ∈ shape.objects number start, ∀ field ∈ object.2, field.constraints = [] := by
  match shape with
  | .scalar _ => simp [Shape.objects]
  | .any => simp [Shape.objects]
  | .declared _ => simp [Shape.objects]
  | .array items => exact Shape.objects_unconstrained number start items
  | .inline baseName fields =>
      rw [Shape.objects, List.forall_mem_cons]
      exact ⟨fields.fields_unconstrained number _,
        FieldShapes.objects_unconstrained number _ fields⟩

theorem FieldShapes.objects_unconstrained (number : String → Nat) (start : Nat)
    (fields : FieldShapes) :
    ∀ object ∈ fields.objects number start, ∀ field ∈ object.2, field.constraints = [] := by
  match fields with
  | .nil => simp [FieldShapes.objects]
  | .cons head type rest =>
      rw [FieldShapes.objects, List.forall_mem_append]
      exact ⟨Shape.objects_unconstrained number _ type,
        FieldShapes.objects_unconstrained number _ rest⟩

end

/-- Constraints are attached only after the types of a section have been assembled. -/
theorem assemble_unconstrained {shapes : List (String × DeclarationShape)} :
    ∀ type ∈ (assemble shapes).types, ∀ field ∈ type.fields, field.constraints = [] := by
  intro type member
  obtain ⟨id, here⟩ := List.mem_iff_getElem?.mp member
  obtain ⟨before, name, shape, after, parts, rfl | ⟨index, lt, rfl⟩⟩ :=
    exists_place (List.getElem?_eq_some_iff.mp here).1
  · rw [getElem?_assemble_declared parts] at here
    cases here
    cases shape with
    | object fields => exact fields.fields_unconstrained _ _
    | enumeration | aliasOf => simp [NamedType.fields, DeclarationShape.body]
  · rw [← shape.length_objects (SymbolTable.directory (shapes.map (·.1))).number
      (shapes.length + sectionSize before)] at lt
    obtain ⟨typeName, found⟩ := getElem?_assemble_object parts (List.getElem?_eq_getElem lt)
    rw [here] at found
    cases found
    have isObject := List.getElem_mem lt
    cases shape with
    | object fields => exact fields.objects_unconstrained _ _ _ isObject
    | enumeration => cases isObject
    | aliasOf target => exact target.objects_unconstrained _ _ _ isObject

/-- Only declared types are aliases. -/
theorem sourceName_mem_of_alias {shapes : List (String × DeclarationShape)} {type : NamedType}
    (member : type ∈ (assemble shapes).types) (isAlias : type.target?.isSome) :
    type.sourceName ∈ shapes.map (·.1) := by
  obtain ⟨id, here⟩ := List.mem_iff_getElem?.mp member
  obtain ⟨before, name, shape, after, parts, rfl | ⟨index, lt, rfl⟩⟩ :=
    exists_place (List.getElem?_eq_some_iff.mp here).1
  · rw [getElem?_assemble_declared parts] at here
    cases here
    simp [parts]
  · rw [← shape.length_objects (SymbolTable.directory (shapes.map (·.1))).number
      (shapes.length + sectionSize before)] at lt
    obtain ⟨typeName, found⟩ := getElem?_assemble_object parts (List.getElem?_eq_getElem lt)
    rw [here] at found
    cases found
    cases isAlias

/-! ## Compiling a section -/

theorem analyze_yields (entries : Entries) (root : Node) (document : String) :
    Outcome (FailsAmong entries checksRegex)
      (fun analysed => analysed.1.Draws root ∧ DefersAmong entries analysed.2)
      (analyze document entries).outcome.1 := by
  rw [(analyze_gives document entries).outcome_eq]
  refine (collected_yields entries).known.bind fun _ collectedRead => ?_
  obtain ⟨_, collects, _⟩ := collected_eq_ok_iff.mp collectedRead.1
  refine (sectionShapes_yields entries _).known.bind fun shapes shapesRead => ?_
  have reads : ReadsAs entries shapes := ⟨collects.distinct, collects.apart, shapesRead.1⟩
  refine ((checkAliasCycles_yields _ _).mapError ?_).bind fun _ _ => ?_
  · rintro error ⟨type, member, isAlias, names⟩
    refine .ofName ?_ names
    rw [← reads.names]
    exact sourceName_mem_of_alias member isAlias
  -- nothing is left unresolved in what was read
  rw [(reads.closed document).verify]
  refine .ok
    ⟨fun type member field isField directive isDirective =>
      ?_, defersAmong_sectionPending shapesRead.2 _ _⟩
  rw [assemble_unconstrained type member field isField] at isDirective
  cases isDirective

theorem attachAll_yields {entries : Entries} (inside : entries.Inside root) {graph : TypeGraph}
    {pending : List Pending} (draws : graph.Draws root) (defers : DefersAmong entries pending)
    (rules : ConstraintRules) :
    Logged.Yields (FailsAmong entries rules.checkRegex) (TypeGraph.Draws root)
      (attachAll rules graph pending) := by
  refine (attach_yields inside draws defers rules).bind fun compiled drawn => ?_
  exact (Logged.Yields.note _).bind fun _ _ => .pure drawn

/-- A section fails as one of its declarations does. -/
theorem compileSection_yields {entries : Entries} (inside : entries.Inside root) (document : String)
    (rules : ConstraintRules) :
    Outcome (FailsAmong entries rules.checkRegex) (TypeGraph.Draws root) (do
      let analysed ← (analyze document entries).outcome.1
      (attachAll rules analysed.1 analysed.2).outcome.1) :=
  (analyze_yields entries root document).bind fun _ known =>
    attachAll_yields inside known.1 known.2 rules []

/-! ## Finding the declarations -/

/-- The faults that a path to the declarations can end in: it is no list, or a step of it is no
text. -/
inductive SectionPath.Raises : SectionPath → Fault → Prop
  | missing : Raises .missing .pathMissing
  | mapping : Raises .mapping .pathNotSliceable
  | set : Raises .set .pathNotOrdered
  | other (type : String) : Raises (.other type) (.pathNotIterable type)
  | step {steps : List PathStep} {index : Nat} {type : String} :
      steps[index]? = some (.other type) → Raises (.steps steps) (.pathStepNotText index type)

/-- Following steps behind others ends inside the tree, unless one of the steps is no text. -/
theorem findSteps_yields (complete : Complete root) {node : Node} (inside : root.Inside node)
    (before steps : List PathStep) {passed : List String} (count : passed.length = before.length) :
    Yields (SectionPath.Raises (.steps (before ++ steps))) (fun found => root.Inside found.2)
      (findSteps passed node steps) := by
  induction steps generalizing before passed node with
  | nil => exact .ok inside
  | cons step rest ih =>
      cases step with
      | other type =>
          rw [findSteps, count]
          exact .ofFault (.step (by simp))
      | key name =>
          cases node with
          | mapping line entries =>
              rw [findSteps]
              split
              next child found =>
                have longer : (passed ++ [name]).length =
                  (before ++ [PathStep.key name]).length := by simp [count]
                have further := ih (inside.entries.get? found) _ longer
                rwa [List.append_assoc] at further
              next => exact .fail _ _
          | scalar | sequence => exact .fail _ _
          | absent => exact absurd inside complete

theorem findSection_yields (complete : Complete root) (path : SectionPath) :
    Yields path.Raises (fun found => found.2.Inside root) (findSection (some root) path) := by
  unfold findSection
  cases root with
  | mapping line entries =>
      cases path with
      | missing => exact .ofFault .missing
      | mapping => exact .ofFault .mapping
      | set => exact .ofFault .set
      | other type => exact .ofFault (.other type)
      | steps steps =>
          have followed : Yields (SectionPath.Raises (.steps steps))
              (fun found => (Node.mapping line entries).Inside found.2)
              (findSteps [] (.mapping line entries) steps) :=
              findSteps_yields complete .self [] steps rfl
          refine followed.bind fun found inside => ?_
          obtain ⟨keys, node⟩ := found
          cases node with
          | mapping => exact .ok inside.entries
          | scalar | sequence => exact .fail _ _
          | absent => exact absurd inside complete
  | scalar | sequence | absent =>
      cases path with
      | missing => exact .ofFault .missing
      | steps | mapping | set | other => exact .fail _ _

end Tree

end Schema

/-! ## Rendering -/

namespace Target

open Schema (Fault Field NamedType TypeExpr TypeGraph Yields)

/-- The faults that rendering a graph of a tree can end in: those of integers in the tree, and that
of a package that cannot be shown. Only Kotlin shows it. -/
inductive Style.Raises (style : Style) (root : Document.Node) : Fault → Prop
  | integer {line : Int} {value : Int} :
      root.Inside (.scalar line (.int value)) → Number.decimal? value = none →
      style.Raises root .integerTooLong
  | package : style.package = none → style.language = .kotlin → style.Raises root .integerTooLong

section Rendering

variable {style : Style} {root : Document.Node} {allowed : Fault → Prop}

theorem Language.typeText_yields (language : Language) (types : List NamedType) (type : TypeExpr) :
    Yields allowed (fun _ => True) (language.typeText types type) := by
  induction type with
  | scalar kind => exact .ok trivial
  | any => exact .ok trivial
  | array items ih => exact ih.map fun _ _ => trivial
  | named id =>
      rw [Language.typeText]
      split
      · exact .ok trivial
      · exact .fail _ _
  | unresolved name pointer => exact .fail _ _
  | missing => exact .fail _ _

theorem generate_yields {graph : TypeGraph} (draws : graph.Draws root) (comment : String) :
    Yields (style.Raises root) (fun _ => True) (generate style graph comment) := by
  refine generate_outcome ⟨fun _ _ => trivial, ?_, ?_, ?_⟩ comment
  · intro language _ _ use _
    exact language.typeText_yields graph.types use.2
  · intro type member field isField directive isDirective unshown
    obtain ⟨value, same, long⟩ := Schema.plain?_eq_none unshown
    obtain ⟨line, inside⟩ := draws type member field isField directive isDirective value same
    exact .integer inside long
  · intro kotlin missing
    exact .package missing kotlin

end Rendering

end Target

end SchemaCompiler
