import SchemaCompiler.Proofs.PythonUnit

/-!
# Imports are exact and closed

The unit of a type imports what the type needs and nothing else (`ImportsExactly`), and every import
from the package is one from a unit of the same result that defines the name. Objects import the
types of their fields for type checkers only, aliases what they end in at run time, and the markers
of constraints come with a directive.
-/

namespace SchemaCompiler

namespace Target.Python

open Schema (NamedType TypeExpr TypeGraph)

/-- Is an import one from the package? -/
def ImportedName.isLocal (item : ImportedName) : Bool := isLocalModule item.module

/-- The file of the module in the package that an import is from. -/
def ImportedName.file (item : ImportedName) : String :=
  String.ofList (item.module.toList.drop 1) ++ ".py"

/-- The import of the class of constraints. -/
def constraintImport : ImportedName :=
  { module := ".validate", name := "Constraint", binding := "Constraint", guarded := false }

/-- The import of what attaches constraints to a field. -/
def constrainedImport : ImportedName :=
  { module := ".validate", name := "constrained", binding := "_constrained", guarded := false }

/-- The import of what makes a field. -/
def fieldImport : ImportedName :=
  { module := "dataclasses", name := "field", binding := "_field", guarded := false }

/-- The text of the unit of a type imports what the type needs. -/
structure ImportsExactly (style : Style) (types : List NamedType) (type : NamedType)
    (body : String) : Prop where
  /-- For type checkers: the named types that fields end in, without the type itself. -/
  checked : ∀ item, item ∈ importsOf body ∧ item.guarded = true ↔
    ∃ field ∈ type.fields, ∃ target, leafType? types field.type = some target ∧
      target.name ≠ type.name ∧ item = typeImport true target.name
  /-- Each of them once. -/
  once : (((importsOf body).filter (·.guarded)).map (·.name)).Nodup
  /-- From the package at run time: the named type that an alias ends in, and the markers of
  constraints. -/
  runTime : ∀ item, item ∈ importsOf body ∧ item.guarded = false ∧ item.isLocal = true ↔
    (∃ aliased target, type.target? = some aliased ∧ leafType? types aliased = some target ∧
      item = typeImport false target.name) ∨
    HasDirective style type ∧ (item = constraintImport ∨ item = constrainedImport)
  any : (∃ item ∈ importsOf body, item.module = "typing" ∧ item.name = "Any") ↔ UsesAny type
  markers : ∀ item ∈ [constraintImport, constrainedImport, fieldImport],
    (item ∈ importsOf body ↔ HasDirective style type)

/-- The names that the unit of the markers defines. -/
def markerNames : List String := ["CONSTRAINTS", "Constraint", "constrained"]

/-- A unit provides an import: it is written to the file of the module and defines the name, as the
unit of the type with this name or as the unit of the markers. -/
structure Provides (unit : OutputUnit) (item : ImportedName) : Prop where
  file : unit.file .python = item.file
  defines : item.name ∈ definedNames unit.body
  named : unit.name = item.name ∨ unit.name = markerUnit ∧ item.name ∈ markerNames

/-! ## Units of types -/

theorem isLocal_typeImport (guarded : Bool) (name : String) :
    (typeImport guarded name).isLocal = true := by
  simp [typeImport, ImportedName.isLocal, isLocalModule]

theorem file_typeImport (guarded : Bool) (name : String) :
    (typeImport guarded name).file = Language.python.fileName name := by
  simp [typeImport, ImportedName.file, Language.fileName]

/-- No type is imported as a marker is: the module of a type is named for it. -/
theorem typeImport_not_marker (guarded : Bool) (name : String) :
    typeImport guarded name ∉ [constraintImport, constrainedImport, fieldImport] := by
  have apart : ∀ item ∈ [constraintImport, constrainedImport, fieldImport],
      typeImport item.guarded item.name ≠ item := by decide
  intro member
  exact apart _ member rfl

/-- The markers are read as they are to be imported. -/
theorem importedAs_markers :
    markerImports.map (fun pair => importedAs false pair.1 pair.2) =
      [fieldImport, constraintImport, constrainedImport] := by
  decide

/-- What the pairs that units import are read as: only one is the type without limits, and only the
markers are from the package. -/
theorem importedAs_known : ∀ pair ∈ ("typing", "Any") :: markerImports ++ ownPairs,
    (pair.1 = "typing" ∧ (importedAs false pair.1 pair.2).name = "Any" → pair = ("typing", "Any")) ∧
    (importedAs false pair.1 pair.2 ∈ [constraintImport, constrainedImport, fieldImport] →
      pair ∈ markerImports) ∧
    (isLocalModule pair.1 = true →
      pair ∈ markerImports ∧
        (importedAs false pair.1 pair.2 = constraintImport ∨
          importedAs false pair.1 pair.2 = constrainedImport)) := by
  decide

theorem mem_runTimeNames {types : List NamedType} {type : NamedType} {name : String} :
    name ∈ runTimeNames types type ↔
      ∃ aliased target, type.target? = some aliased ∧ leafType? types aliased = some target ∧
        target.name = name := by
  simp only [runTimeNames, mem_referencedNames, Option.mem_toList, exists_and_left]

theorem mem_checkedNames {types : List NamedType} {type : NamedType} {name : String} :
    name ∈ checkedNames types type ↔
      ∃ field ∈ type.fields, ∃ target, leafType? types field.type = some target ∧
        target.name ≠ type.name ∧ target.name = name := by
  simp only [checkedNames, List.mem_filter, mem_referencedNames, List.mem_map, bne_iff_ne]
  constructor
  · rintro ⟨⟨_, ⟨field, isField, rfl⟩, target, found, rfl⟩, other⟩
    exact ⟨field, isField, target, found, other, rfl⟩
  · rintro ⟨field, isField, target, found, other, rfl⟩
    exact ⟨⟨_, ⟨field, isField, rfl⟩, target, found, rfl⟩, other⟩

section Exact

variable {style : Style} {types : List NamedType} (plain : ∀ type ∈ types, Naming.IsPlain type.name)
  (python : style.language = .python) {type : NamedType} {pairs : List (String × String)}
    {rest : List String} (written : Written style type pairs rest) (comment : String)
include plain python written

/-- A marker is imported as one of the pairs. -/
theorem marker_written {item : ImportedName}
    (marker : item ∈ [constraintImport, constrainedImport, fieldImport]) :
    item ∈ importsOf (style.header comment ++ unlines (typeUnitLines types type pairs rest)) ↔
      HasDirective style type := by
  have asPair : item ∈ markerImports.map fun pair => importedAs false pair.1 pair.2 := by
    rw [importedAs_markers]
    simp only [List.mem_cons, List.not_mem_nil, or_false] at marker ⊢
    tauto
  obtain ⟨pair, isMarker, rfl⟩ := List.mem_map.mp asPair
  rw [mem_importsOf_written plain written comment python, ← written.markers pair isMarker]
  constructor
  · rintro (future | ⟨other, isPair, same⟩ | ⟨name, _, same⟩ | ⟨name, _, same⟩)
    · rw [future] at marker
      exact absurd marker (by decide)
    · rw [same] at marker
      have isOther := (importedAs_known other (written.known other isPair)).2.1 marker
      rw [written.markers pair isMarker]
      exact (written.markers other isOther).mp isPair
    · rw [same] at marker
      exact absurd marker (typeImport_not_marker false name)
    · rw [same] at marker
      exact absurd marker (typeImport_not_marker true name)
  · exact fun isPair => .inr (.inl ⟨pair, isPair, rfl⟩)

theorem checked_written (item : ImportedName) :
    item ∈ importsOf (style.header comment ++ unlines (typeUnitLines types type pairs rest)) ∧
        item.guarded = true ↔
      ∃ field ∈ type.fields, ∃ target, leafType? types field.type = some target ∧
        target.name ≠ type.name ∧ item = typeImport true target.name := by
  rw [mem_importsOf_written plain written comment python]
  constructor
  · -- of the four kinds of imports only the last is for type checkers
    rintro ⟨rfl | ⟨pair, _, rfl⟩ | ⟨name, _, rfl⟩ | ⟨name, isName, rfl⟩, guarded⟩
    · cases guarded
    · cases guarded
    · cases guarded
    · obtain ⟨field, isField, target, found, other, rfl⟩ := mem_checkedNames.mp isName
      exact ⟨field, isField, target, found, other, rfl⟩
  · rintro ⟨field, isField, target, found, other, rfl⟩
    have isName := mem_checkedNames.mpr ⟨field, isField, target, found, other, rfl⟩
    exact ⟨.inr (.inr (.inr ⟨_, isName, rfl⟩)), rfl⟩

theorem runTime_written (item : ImportedName) :
    item ∈ importsOf (style.header comment ++ unlines (typeUnitLines types type pairs rest)) ∧
        item.guarded = false ∧ item.isLocal = true ↔
      (∃ aliased target, type.target? = some aliased ∧ leafType? types aliased = some target ∧
        item = typeImport false target.name) ∨
      HasDirective style type ∧ (item = constraintImport ∨ item = constrainedImport) := by
  constructor
  · rintro ⟨member, unguarded, isLocal⟩
    rcases (mem_importsOf_written plain written comment python).mp member with
      rfl | ⟨pair, isPair, rfl⟩ | ⟨name, isName, rfl⟩ | ⟨name, _, rfl⟩
    · exact absurd isLocal (by decide)
    · obtain ⟨marker, asMarker⟩ := (importedAs_known pair (written.known pair isPair)).2.2 isLocal
      exact .inr ⟨(written.markers pair marker).mp isPair, asMarker⟩
    · obtain ⟨aliased, target, isTarget, found, rfl⟩ := mem_runTimeNames.mp isName
      exact .inl ⟨aliased, target, isTarget, found, rfl⟩
    · cases unguarded
  · rintro (⟨aliased, target, isTarget, found, rfl⟩ | ⟨directive, rfl | rfl⟩)
    · have isName := mem_runTimeNames.mpr ⟨aliased, target, isTarget, found, rfl⟩
      refine ⟨?_, rfl, isLocal_typeImport false target.name⟩
      exact (mem_importsOf_written plain written comment python).mpr
        (.inr (.inr (.inl ⟨_, isName, rfl⟩)))
    · exact ⟨(marker_written plain python written comment (by decide)).mpr directive,
        rfl, by decide⟩
    · exact ⟨(marker_written plain python written comment (by decide)).mpr directive,
        rfl, by decide⟩

theorem any_written :
    (∃ item ∈ importsOf (style.header comment ++ unlines (typeUnitLines types type pairs rest)),
      item.module = "typing" ∧ item.name = "Any") ↔ UsesAny type := by
  rw [← written.any]
  constructor
  · rintro ⟨item, member, module, name⟩
    -- a type is imported from a module of the package, so none is imported from this one
    have typed (guarded : Bool) (name : String) : (typeImport guarded name).module ≠ "typing" := by
      intro same
      have isLocal := isLocal_typeImport guarded name
      rw [ImportedName.isLocal, same] at isLocal
      exact absurd isLocal (by decide)
    rcases (mem_importsOf_written plain written comment python).mp member with
      rfl | ⟨pair, isPair, rfl⟩ | ⟨other, _, rfl⟩ | ⟨other, _, rfl⟩
    · exact absurd module (by decide)
    · have isAny := (importedAs_known pair (written.known pair isPair)).1 ⟨module, name⟩
      exact isAny ▸ isPair
    · exact absurd module (typed false other)
    · exact absurd module (typed true other)
  · intro isPair
    refine ⟨importedAs false "typing" "Any", ?_, rfl, by decide⟩
    exact (mem_importsOf_written plain written comment python).mpr (.inr (.inl ⟨_, isPair, rfl⟩))

/-- The unit of a type imports what the type needs. -/
theorem importsExactly_written :
    ImportsExactly style types type
      (style.header comment ++ unlines (typeUnitLines types type pairs rest)) where
  checked := checked_written plain python written comment
  once := checked_once_written plain written comment python
  runTime := runTime_written plain python written comment
  any := any_written plain python written comment
  markers := fun _ marker => marker_written plain python written comment marker

end Exact

/-- What the unit of a type imports from the package is a type or, with a directive, a marker. -/
theorem ImportsExactly.local_cases {style : Style} {types : List NamedType} {type : NamedType}
    {body : String} (exact : ImportsExactly style types type body) {item : ImportedName}
    (member : item ∈ importsOf body) (isLocal : item.isLocal = true) :
    (∃ target ∈ types, item = typeImport item.guarded target.name) ∨
      HasDirective style type ∧ (item = constraintImport ∨ item = constrainedImport) := by
  cases guarded : item.guarded with
  | true =>
      obtain ⟨field, _, target, found, _, rfl⟩ := (exact.checked item).mp ⟨member, guarded⟩
      exact .inl ⟨target, mem_of_leafType? found, rfl⟩
  | false =>
      rcases (exact.runTime item).mp ⟨member, guarded, isLocal⟩ with ⟨_, target, _, found, rfl⟩ |
        marker
      · exact .inl ⟨target, mem_of_leafType? found, rfl⟩
      · exact .inr marker

/-- Directives are written only if constraints are generated. -/
theorem HasDirective.validations {style : Style} {type : NamedType}
    (has : HasDirective style type) :
    style.validations = true := by
  obtain ⟨field, _, directives, done, nonempty⟩ := has
  by_contra off
  rw [Style.directives, if_neg off] at done
  cases done
  exact nonempty rfl

/-! ## Shared units -/

/-- The text of a shared unit. -/
def sharedText (style : Style) (lines : List String) : String :=
  style.header sharedComment ++ unlines lines

theorem validationLines_read :
    ∃ lines, validationLines.map String.toList = lines ∧
      (∀ line ∈ lines, '\n' ∉ line ∧ '\r' ∉ line) ∧
      ∀ item ∈ importsIn false (lines ++ [[]]), item.isLocal = true →
        item.module = markerModule ∧ item.name ∈ markerNames := by
  apply Exists.intro
  constructor
  · simp only [validationLines]
    repeat apply map_toList_cons
    rfl
  · decide +kernel

theorem markerLines_read :
    ∃ lines, markerLines.map String.toList = lines ∧
      (∀ line ∈ lines, '\n' ∉ line ∧ '\r' ∉ line) ∧
      (∀ item ∈ importsIn false (lines ++ [[]]), item.isLocal = false) ∧
      ∀ name ∈ markerNames, ∃ line ∈ lines, definedBy? line = some name := by
  apply Exists.intro
  constructor
  · simp only [markerLines]
    repeat apply map_toList_cons
    rfl
  · decide +kernel

/-- The unit that checks constraints imports from the package what the unit of the markers
defines. -/
theorem local_imports_validation {style : Style} (python : style.language = .python) :
    ∀ item ∈ importsOf (sharedText style validationLines), item.isLocal = true →
      item.module = markerModule ∧ item.name ∈ markerNames := by
  obtain ⟨lines, spelled, single, imports⟩ := validationLines_read
  rw [← spelled, List.forall_mem_map] at single
  rw [sharedText, importsOf_header python _ single, spelled]
  exact imports

/-- The unit of the markers imports nothing from the package. -/
theorem local_imports_marker {style : Style} (python : style.language = .python) :
    ∀ item ∈ importsOf (sharedText style markerLines), item.isLocal = false := by
  obtain ⟨lines, spelled, single, imports, _⟩ := markerLines_read
  rw [← spelled, List.forall_mem_map] at single
  rw [sharedText, importsOf_header python _ single, spelled]
  exact imports

theorem markerNames_defined (style : Style) :
    ∀ name ∈ markerNames, name ∈ definedNames (sharedText style markerLines) := by
  obtain ⟨lines, spelled, single, _, defined⟩ := markerLines_read
  rw [← spelled, List.forall_mem_map] at single
  intro name member
  obtain ⟨_, here, defines⟩ := defined name member
  rw [← spelled] at here
  obtain ⟨line, isLine, rfl⟩ := List.mem_map.mp here
  exact mem_definedNames style sharedComment single isLine defines

/-! ## Packages -/

section Package

variable {style : Style} {graph : TypeGraph} {comment : String} {ofTypes shared : List OutputUnit}
  (generated : Generated style graph comment ofTypes shared) (python : style.language = .python)
include generated python

/-- The shared units are there if constraints are generated. -/
theorem shared_eq_python :
    shared = if style.validations then
        [{ name := validationUnit, body := sharedText style validationLines, shared := true },
         { name := markerUnit, body := sharedText style markerLines, shared := true }]
      else [] := by
  have isShared := generated.shared_eq
  unfold sharedUnits sharedLines at isShared
  rw [python] at isShared
  split at isShared
  next on =>
    cases isShared
    rw [if_pos on]
    rfl
  next off =>
    cases isShared
    rw [if_neg off]

/-- The units of the types import what the types need, and define them. -/
theorem forall₂_importsExactly (compiled : graph.Compiled) :
    List.Forall₂ (fun type unit => (unit.name = type.name ∧ type.name ∈ definedNames unit.body) ∧
      ImportsExactly style graph.types type unit.body) graph.types ofTypes := by
  have plain : ∀ type ∈ graph.types, Naming.IsPlain type.name :=
    fun type member => (compiled.conventional type member).name
  refine ((List.forall₂_and_left _ _).mpr ⟨compiled.conventional, generated.rendered⟩).imp ?_
  rintro type _ ⟨conventional, body, rendered, rfl⟩
  obtain ⟨pairs, rest, written, rfl⟩ := renderType_written plain python conventional rendered
  exact ⟨⟨rfl, mem_definedNames_written plain written comment⟩,
    importsExactly_written plain python written comment⟩

theorem exists_marker (validations : style.validations = true) :
    ∃ unit ∈ shared, unit.name = markerUnit ∧ unit.body = sharedText style markerLines := by
  rw [shared_eq_python generated python, if_pos validations]
  exact ⟨_, List.mem_cons_of_mem _ List.mem_cons_self, rfl, rfl⟩

theorem of_mem_shared_python {unit : OutputUnit} (member : unit ∈ shared) :
    style.validations = true ∧
      (unit.name = validationUnit ∧ unit.body = sharedText style validationLines ∨
        unit.name = markerUnit ∧ unit.body = sharedText style markerLines) := by
  rw [shared_eq_python generated python] at member
  split at member
  next on =>
    simp only [List.mem_cons, List.not_mem_nil, or_false] at member
    rcases member with rfl | rfl
    · exact ⟨on, .inl ⟨rfl, rfl⟩⟩
    · exact ⟨on, .inr ⟨rfl, rfl⟩⟩
  next => cases member

theorem provides_marker (validations : style.validations = true) {item : ImportedName}
    (module : item.module = markerModule) (name : item.name ∈ markerNames) :
    ∃ other ∈ ofTypes ++ shared, Provides other item := by
  obtain ⟨other, isOther, isNamed, body⟩ := exists_marker generated python validations
  refine ⟨other, List.mem_append_right _ isOther, ?_, ?_, .inr ⟨isNamed, name⟩⟩
  · rw [OutputUnit.file, isNamed, ImportedName.file, module]
    decide
  · rw [body]
    exact markerNames_defined style item.name name

/-- Every import from the package is provided by a unit of the package. -/
theorem exists_provides (compiled : graph.Compiled) {unit : OutputUnit}
    (member : unit ∈ ofTypes ++ shared) {item : ImportedName}
    (imported : item ∈ importsOf unit.body) (isLocal : item.isLocal = true) :
    ∃ other ∈ ofTypes ++ shared, Provides other item := by
  have exact := forall₂_importsExactly generated python compiled
  rcases List.mem_append.mp member with ofType | isShared
  · obtain ⟨type, _, _, needs⟩ := exists_left_of_mem exact ofType
    rcases needs.local_cases imported isLocal with ⟨target, isTarget, isType⟩ | ⟨directive, marker⟩
    · obtain ⟨other, isOther, ⟨named, defines⟩, _⟩ := exists_right_of_mem exact isTarget
      refine ⟨other, List.mem_append_left _ isOther, ?_⟩
      rw [isType]
      exact ⟨by rw [OutputUnit.file, named, file_typeImport], defines, .inl named⟩
    · have ofMarkers : item.module = markerModule ∧ item.name ∈ markerNames := by
        rcases marker with rfl | rfl <;> decide
      exact provides_marker generated python directive.validations ofMarkers.1 ofMarkers.2
  · obtain ⟨validations, ⟨_, body⟩ | ⟨_, body⟩⟩ := of_mem_shared_python generated python isShared
    · rw [body] at imported
      obtain ⟨module, name⟩ := local_imports_validation python item imported isLocal
      exact provides_marker generated python validations module name
    · rw [body] at imported
      rw [local_imports_marker python item imported] at isLocal
      cases isLocal

end Package

end Target.Python

open Target Python

namespace Compiler

/-- Imports are exact and closed: the unit of each type of a document imports what the type needs,
and whatever a unit imports from the package is provided by a unit that is generated with it. This
is so whatever has been gathered for the types that were rendered before. -/
theorem generate_imports_closed {compiler : Compiler} (python : compiler.language = .python)
    (gathered : Gathered) {name : String} {root : Option Document.Node} {units : List OutputUnit}
    (done : (compiler.generateFrom gathered name root).outcome.1 = .ok units) :
    ∃ graph ofTypes shared, (compiler.compile name root).outcome.1 = .ok graph ∧
      units = ofTypes ++ shared ∧
      List.Forall₂ (fun type unit => unit.name = type.name ∧
        ImportsExactly (compiler.settings.style .python) graph.types type unit.body)
          graph.types ofTypes ∧
      ∀ unit ∈ units, ∀ item ∈ importsOf unit.body, item.isLocal = true →
        ∃ other ∈ units, Provides other item := by
  rw [compiler.generateFrom_eq] at done
  obtain ⟨graph, ofTypes, shared, compiles, rfl, generated⟩ := generate_eq_ok done
  rw [python] at generated
  have compiled := compiled_of_compile compiles
  refine ⟨graph, ofTypes, shared, compiles, rfl, ?_, ?_⟩
  · refine (forall₂_importsExactly generated rfl compiled).imp ?_
    rintro type unit ⟨⟨named, _⟩, exact⟩
    exact ⟨named, exact⟩
  · intro unit member item imported isLocal
    exact exists_provides generated rfl compiled member imported isLocal

/-- Owners and their dogs, who lead to each other through the aliases of lists. -/
def kennels : Document.Node :=
  .mapping 1 [("kennels", .mapping 1 [
    ("owner", .mapping 2 [("type", .scalar 2 (.text "object")), ("properties", .mapping 3 [
      ("name", .mapping 3 [("type", .scalar 3 (.text "string")), ("validate", .sequence 4 [
        .mapping 4 [("pattern", .scalar 4 (.text "minLength")), ("value", .scalar 4 (.int 1))]])]),
      ("partner", .mapping 5 [("type", .scalar 5 (.text "owner"))]),
      ("packs", .mapping 6 [("type", .scalar 6 (.text "packs"))])])]),
    ("dog", .mapping 7 [("type", .scalar 7 (.text "object")), ("properties", .mapping 8 [
      ("owner", .mapping 8 [("type", .scalar 8 (.text "owner"))]),
      ("marks", .mapping 9 [("type", .scalar 9 (.text "array"))])])]),
    ("packs", .mapping 10 [("type", .scalar 10 (.text "array")), ("items", .mapping 10 [
      ("type", .scalar 10 (.text "dogs"))])]),
    ("dogs", .mapping 11 [("type", .scalar 11 (.text "array")), ("items", .mapping 11 [
      ("type", .scalar 11 (.text "dog"))])])])]

/-- The compiler for the kennels. -/
def kennelCompiler : Compiler :=
  { settings := { schemasPath := some (.list [.text "kennels"]) }, language := .python }

/-- What the types of another document have left behind. -/
def leftBehind : Gathered where
  imports := [("typing", "Any"), ("dataclasses", "field as _field")]
  types := ["Owner", "Cattery"]

theorem kennels_imports_closed :
    ∃ units,
      (kennelCompiler.generateFrom leftBehind "kennels" (some kennels)).outcome.1 = .ok units ∧
      units.map (·.name) = ["Owner", "Dog", "Packs", "Dogs", "Validation", "Validate"] ∧
      ∃ graph ofTypes shared,
        (kennelCompiler.compile "kennels" (some kennels)).outcome.1 = .ok graph ∧
        units = ofTypes ++ shared ∧
        List.Forall₂ (fun type unit => unit.name = type.name ∧
          ImportsExactly (kennelCompiler.settings.style .python) graph.types type unit.body)
            graph.types ofTypes ∧
        ∀ unit ∈ units, ∀ item ∈ importsOf unit.body, item.isLocal = true →
          ∃ other ∈ units, Provides other item := by
  have names :
      (kennelCompiler.generateFrom leftBehind "kennels" (some kennels)).outcome.1.toOption.map
      (·.map (·.name)) = some ["Owner", "Dog", "Packs", "Dogs", "Validation", "Validate"] := by
    decide +kernel
  obtain ⟨units, found, named⟩ := Option.map_eq_some_iff.mp names
  have done := Schema.eq_ok_of_toOption found
  exact ⟨units, done, named, generate_imports_closed rfl leftBehind done⟩

end Compiler

end SchemaCompiler
