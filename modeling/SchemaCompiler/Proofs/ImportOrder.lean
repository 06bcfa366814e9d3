import Mathlib.Order.WellFounded
import SchemaCompiler.Proofs.Grounded
import SchemaCompiler.Proofs.ImportClosure

/-!
# Run-time imports lead to no cycle

A package can be loaded: what its units import from it at run time comes to an end. Only aliases
have types imported then, and they lead to no cycle; what objects hold is imported for type checkers
only, so that cycles through fields are none here; and the unit of the markers imports nothing.
-/

namespace SchemaCompiler

namespace Target.Python

open Schema (Grounded NamedType TypeExpr TypeGraph grounded_of_closed)

/-- The files of the package that a text imports from when it is run: outside blocks for type
checkers. -/
def runTimeFiles (body : String) : List String :=
  ((importsOf body).filter fun item => !item.guarded && item.isLocal).map (·.file)

/-- Units of a package of which the left one imports from the file of the right one, at run time. -/
structure ImportsAtRunTime (units : List OutputUnit) (left right : OutputUnit) : Prop where
  left_mem : left ∈ units
  right_mem : right ∈ units
  imported : right.file .python ∈ runTimeFiles left.body

theorem ImportsAtRunTime.exists_item {units : List OutputUnit} {left right : OutputUnit}
    (imports : ImportsAtRunTime units left right) :
    ∃ item ∈ importsOf left.body, item.guarded = false ∧ item.isLocal = true ∧
      right.file .python = item.file := by
  obtain ⟨item, kept, file⟩ := List.mem_map.mp imports.imported
  obtain ⟨member, atRunTime⟩ := List.mem_filter.mp kept
  rw [Bool.and_eq_true, Bool.not_eq_true'] at atRunTime
  exact ⟨item, member, atRunTime.1, atRunTime.2, file.symm⟩

/-- An alias imports the unit of the type that it ends in. -/
theorem importsAtRunTime_alias {style : Style} {types : List NamedType} {type target : NamedType}
    {aliased : TypeExpr} {units : List OutputUnit} {unit other : OutputUnit} (member : unit ∈ units)
    (exact : ImportsExactly style types type unit.body) (isAlias : type.target? = some aliased)
    (found : leafType? types aliased = some target) (otherMember : other ∈ units)
    (named : other.name = target.name) : ImportsAtRunTime units unit other where
  left_mem := member
  right_mem := otherMember
  imported := by
    obtain ⟨imported, unguarded, isLocal⟩ :=
      (exact.runTime _).mpr (.inl ⟨aliased, target, isAlias, found, rfl⟩)
    refine List.mem_map.mpr ⟨_, List.mem_filter.mpr ⟨imported, ?_⟩, ?_⟩
    · simp [unguarded, isLocal]
    · rw [file_typeImport, OutputUnit.file, named]

/-- Loading a unit ends: so does loading every unit that it imports at run time. -/
abbrev Loads (units : List OutputUnit) (unit : OutputUnit) : Prop :=
  Acc (fun right left => ImportsAtRunTime units left right) unit

/-- The unit of the markers imports nothing from the package. -/
theorem loads_marker {style : Style} (python : style.language = .python) (units : List OutputUnit)
    {unit : OutputUnit} (body : unit.body = sharedText style markerLines) : Loads units unit := by
  refine .intro _ fun right imports => ?_
  obtain ⟨item, member, _, isLocal, _⟩ := imports.exists_item
  rw [body] at member
  rw [local_imports_marker python item member] at isLocal
  cases isLocal

section Package

variable {style : Style} {graph : TypeGraph} {comment : String} {ofTypes shared : List OutputUnit}
  (generated : Generated style graph comment ofTypes shared) (python : style.language = .python)
include generated python

/-- A file is that of one unit only. -/
theorem unit_unique {unit other : OutputUnit} (member : unit ∈ ofTypes ++ shared)
    (otherMember : other ∈ ofTypes ++ shared) (same : unit.file .python = other.file .python) :
    unit = other := by
  have files := generated.files
  rw [python] at files
  exact List.inj_on_of_nodup_map files member otherMember same

/-- What is imported from the module of the markers is their unit. -/
theorem loads_of_markerModule (validations : style.validations = true) {unit : OutputUnit}
    (member : unit ∈ ofTypes ++ shared) {item : ImportedName} (module : item.module = markerModule)
    (file : unit.file .python = item.file) : Loads (ofTypes ++ shared) unit := by
  obtain ⟨marker, isMarker, named, body⟩ := exists_marker generated python validations
  have same : unit.file .python = marker.file .python := by
    rw [file, ImportedName.file, module, OutputUnit.file, named]
    decide
  rw [unit_unique generated python member (List.mem_append_right _ isMarker) same]
  exact loads_marker python _ body

theorem loads_shared {unit : OutputUnit} (member : unit ∈ shared) :
    Loads (ofTypes ++ shared) unit := by
  obtain ⟨validations, ⟨_, body⟩ | ⟨_, body⟩⟩ := of_mem_shared_python generated python member
  · refine .intro _ fun right imports => ?_
    obtain ⟨item, imported, _, isLocal, file⟩ := imports.exists_item
    rw [body] at imported
    obtain ⟨module, _⟩ := local_imports_validation python item imported isLocal
    exact loads_of_markerModule generated python validations imports.right_mem module file
  · exact loads_marker python _ body

variable (compiled : graph.Compiled)
include compiled

/-- Loading the unit of a type ends if loading that of the type which an alias ends in does. -/
theorem loads_step {type : NamedType} {unit : OutputUnit}
    (exact : ImportsExactly style graph.types type unit.body)
    (onward : ∀ aliased target, type.target? = some aliased →
      leafType? graph.types aliased = some target →
      ∀ other : OutputUnit, ImportsExactly style graph.types target other.body →
        Loads (ofTypes ++ shared) other) :
    Loads (ofTypes ++ shared) unit := by
  refine .intro _ fun right imports => ?_
  obtain ⟨item, imported, unguarded, isLocal, file⟩ := imports.exists_item
  rcases (exact.runTime item).mp ⟨imported, unguarded, isLocal⟩ with
    ⟨aliased, target, isAlias, found, rfl⟩ | ⟨directive, marker⟩
  · -- the file is that of the unit of the target, and of no other
    obtain ⟨other, isOther, ⟨named, _⟩, otherExact⟩ := exists_right_of_mem
      (forall₂_importsExactly generated python compiled) (mem_of_leafType? found)
    have same : right.file .python = other.file .python := by
      rw [file, file_typeImport, OutputUnit.file, named]
    rw [unit_unique generated python imports.right_mem (List.mem_append_left _ isOther) same]
    exact onward aliased target isAlias found other otherExact
  · have module : item.module = markerModule := by rcases marker with rfl | rfl <;> decide
    exact loads_of_markerModule generated python directive.validations imports.right_mem module file

/-- Loading the unit of the type that a grounded type ends in ends. -/
theorem loads_of_grounded {type : TypeExpr} (grounded : Grounded graph.types type)
    {leaf : NamedType} (found : leafType? graph.types type = some leaf) {unit : OutputUnit}
    (exact : ImportsExactly style graph.types leaf unit.body) : Loads (ofTypes ++ shared) unit := by
  -- an alias leads on to what its target ends in; objects and enumerations have no target
  induction grounded generalizing leaf unit with
  | scalar kind => cases found
  | any => cases found
  | array _ ih => exact ih found exact
  | object here isObject =>
      cases here.symm.trans found
      refine loads_step generated python compiled exact fun aliased target isAlias => ?_
      rw [NamedType.target?, isObject] at isAlias
      cases isAlias
  | enumeration here isEnum =>
      cases here.symm.trans found
      refine loads_step generated python compiled exact fun aliased target isAlias => ?_
      rw [NamedType.target?, isEnum] at isAlias
      cases isAlias
  | aliasOf here isBody _ ih =>
      cases here.symm.trans found
      refine loads_step generated python compiled exact fun aliased target isAlias leads _ => ?_
      rw [NamedType.target?, isBody] at isAlias
      cases isAlias
      exact ih leads

theorem loads_ofType {unit : OutputUnit} (member : unit ∈ ofTypes) :
    Loads (ofTypes ++ shared) unit := by
  obtain ⟨type, isType, _, exact⟩ := exists_left_of_mem
    (forall₂_importsExactly generated python compiled) member
  obtain ⟨id, here⟩ := List.getElem?_of_mem isType
  have present : id < graph.types.length := (List.getElem?_eq_some_iff.mp here).1
  have grounded : Grounded graph.types (.named id) :=
    grounded_of_closed compiled.closed compiled.acyclic present
  exact loads_of_grounded generated python compiled grounded here exact

/-- Loading ends from wherever it starts. -/
theorem wellFounded_importsAtRunTime :
    WellFounded fun right left => ImportsAtRunTime (ofTypes ++ shared) left right := by
  refine ⟨fun unit => .intro _ fun right imports => ?_⟩
  rcases List.mem_append.mp imports.right_mem with ofType | isShared
  · exact loads_ofType generated python compiled ofType
  · exact loads_shared generated python isShared

end Package

end Target.Python

open Target Python

namespace Compiler

/-- No unit of a package leads to itself by imports at run time. -/
theorem generate_imports_acyclic {compiler : Compiler} (python : compiler.language = .python)
    {name : String} {root : Option Document.Node} {units : List OutputUnit}
    (done : (compiler.generate name root).outcome.1 = .ok units) (unit : OutputUnit) :
    ¬Relation.TransGen (ImportsAtRunTime units) unit unit := by
  obtain ⟨graph, ofTypes, shared, compiles, rfl, generated⟩ := generate_eq_ok done
  rw [python] at generated
  have loads := wellFounded_importsAtRunTime generated rfl (compiled_of_compile compiles)
  intro cycle
  exact loads.transGen.irrefl.irrefl unit (Relation.transGen_swap.mpr cycle)

/-- Owners hold packs, packs are lists of lists of dogs, and dogs have owners. At run time, the
lists are imported up to the dogs. -/
theorem kennels_imports_acyclic :
    ∃ units, (kennelCompiler.generate "kennels" (some kennels)).outcome.1 = .ok units ∧
      (∃ packs dogs dog, [packs, dogs, dog].map (·.name) = ["Packs", "Dogs", "Dog"] ∧
        ImportsAtRunTime units packs dogs ∧ ImportsAtRunTime units dogs dog) ∧
      ∀ unit, ¬Relation.TransGen (ImportsAtRunTime units) unit unit := by
  have succeeds : (kennelCompiler.generate "kennels" (some kennels)).outcome.1.toOption.isSome =
      true := by
    decide +kernel
  have targets : (kennelCompiler.compile "kennels" (some kennels)).outcome.1.toOption.map
      (·.types.map fun type => (type.name, type.target?)) =
        some [("Owner", none), ("Dog", none), ("Packs", some (.array (.named 3))),
          ("Dogs", some (.array (.named 1)))] := by
    decide +kernel
  obtain ⟨units, found⟩ := Option.isSome_iff_exists.mp succeeds
  have done := Schema.eq_ok_of_toOption found
  refine ⟨units, done, ?_, generate_imports_acyclic rfl done⟩
  obtain ⟨graph, ofTypes, shared, compiles, rfl, generated⟩ := generate_eq_ok done
  have exact := forall₂_importsExactly generated rfl (compiled_of_compile compiles)
  rw [compiles] at targets
  have targets := Option.some.inj targets
  simp only [List.map_eq_cons_iff, List.map_eq_nil_iff, Prod.mk.injEq] at targets
  obtain ⟨owner, _, types, _, dog, _, rfl, ⟨isDog, _⟩, packs, _, rfl, ⟨isPacks, ofDogs⟩,
    dogs, _, rfl,
    ⟨isDogs, ofDog⟩, rfl⟩ := targets
  rw [types] at exact
  obtain _ | ⟨_, _ | ⟨⟨⟨dogUnit, _⟩, _⟩, _ | ⟨⟨⟨packsUnit, _⟩, packsExact⟩,
    _ | ⟨⟨⟨dogsUnit, _⟩, dogsExact⟩, _ | _⟩⟩⟩⟩ := exact
  refine ⟨_, _, _, ?_, importsAtRunTime_alias ?_ packsExact ofDogs rfl ?_ dogsUnit,
    importsAtRunTime_alias ?_ dogsExact ofDog rfl ?_ dogUnit⟩
  · simp [packsUnit, dogsUnit, dogUnit, isPacks, isDogs, isDog]
  all_goals simp

end Compiler

end SchemaCompiler
