import SchemaCompiler.Proofs.Retargeting
import SchemaCompiler.Proofs.Unconstrained

/-!
# Generating without constraints

Constraints show in three places of what is generated: in the members of objects, in the imports
that these need, and in the two shared units. With constraints turned off, the unit of a type is
rendered as if its fields had none (`renderType_silent`), and that is how the document without its
constraints is rendered with them turned on. The names of the units are the same in both cases, so
no check of names or files comes in the way.
-/

namespace SchemaCompiler.Target

open Schema (Failure Field NamedType TypeExpr TypeGraph bind_eq_ok map_eq_ok)

/-- The style with constraints turned off. -/
def Style.silent (style : Style) : Style := { style with validations := false }

/-! ## Types and members -/

section Members

variable (style : Style) (types : List NamedType)

/-- Types are written by their names. -/
theorem typeText_unconstrained (language : Language) (type : TypeExpr) :
    language.typeText (types.map NamedType.unconstrained) type = language.typeText types type := by
  induction type with
  | scalar kind => rfl
  | any => rfl
  | array items ih => rw [Language.typeText, Language.typeText, ih]
  | named id =>
      rw [Language.typeText, Language.typeText, List.getElem?_map]
      cases types[id]? <;> rfl
  | unresolved name pointer => rfl
  | missing => rfl

theorem referencedNames_unconstrained (used : List TypeExpr) :
    Python.referencedNames (types.map NamedType.unconstrained) used =
      Python.referencedNames types used := by
  unfold Python.referencedNames
  congr 1
  funext type
  cases type.leafId? with
  | none => rfl
  | some id =>
      show (types.map NamedType.unconstrained)[id]?.map _ = types[id]?.map _
      rw [List.getElem?_map]
      cases types[id]? <;> rfl

/-- A field without constraints has the directives of one whose constraints are turned off: none. -/
theorem directives_unconstrained (field : Field) :
    style.directives field.unconstrained = style.silent.directives field := by
  show (if style.validations then [].mapM _ else _) = _
  split <;> rfl

theorem python_members_silent (fields : List Field) :
    (fields.map Field.unconstrained).mapM
      (Python.member style (types.map NamedType.unconstrained)) =
      fields.mapM (Python.member style.silent types) := by
  rw [List.mapM_map]
  congr 1
  funext field
  show (Language.python.typeText _ field.type >>= fun _ =>
    style.directives field.unconstrained >>= _) = _
  rw [typeText_unconstrained, directives_unconstrained]
  rfl

theorem kotlin_members_silent (fields : List Field) :
    (fields.map Field.unconstrained).mapM
      (Kotlin.member style (types.map NamedType.unconstrained)) =
      fields.mapM (Kotlin.member style.silent types) := by
  rw [List.mapM_map]
  congr 1
  funext field
  show (Language.kotlin.typeText _ field.type >>= fun _ =>
    style.directives field.unconstrained >>= _) = _
  rw [typeText_unconstrained, directives_unconstrained]
  rfl

/-! ## Units -/

theorem python_typeLines_silent (type : NamedType) :
    Python.typeLines style (types.map NamedType.unconstrained) type.unconstrained =
      Python.typeLines style.silent types type := by
  obtain ⟨name, sourceName, body⟩ := type
  cases body with
  | enumeration values => rfl
  | object synthesized fields =>
      have used : (fields.map Field.unconstrained).map (·.type) = fields.map (·.type) := by
        rw [List.map_map]
        rfl
      show (Python.objectUnit style _ name (fields.map Field.unconstrained)).map _ =
        (Python.objectUnit style.silent types name fields).map _
      unfold Python.objectUnit
      rw [python_members_silent, used]
      simp only [referencedNames_unconstrained]
  | aliasOf target =>
      show (Python.aliasUnit _ name target).map _ = (Python.aliasUnit types name target).map _
      unfold Python.aliasUnit
      rw [typeText_unconstrained, referencedNames_unconstrained]

theorem kotlin_typeLines_silent (type : NamedType) :
    Kotlin.typeLines style (types.map NamedType.unconstrained) type.unconstrained =
      Kotlin.typeLines style.silent types type := by
  have definition : Kotlin.definitionLines style (types.map NamedType.unconstrained)
      type.unconstrained =
      Kotlin.definitionLines style.silent types type := by
    obtain ⟨name, sourceName, body⟩ := type
    cases body with
    | enumeration values => rfl
    | object synthesized fields =>
        show Except.map _ ((fields.map Field.unconstrained).mapM (Kotlin.member style _)) =
          Except.map _ (fields.mapM (Kotlin.member style.silent types))
        rw [kotlin_members_silent]
        rfl
    | aliasOf target =>
        show (Language.kotlin.typeText _ target).map _ =
          (Language.kotlin.typeText types target).map _
        rw [typeText_unconstrained]
        rfl
  unfold Kotlin.typeLines
  rw [definition]
  rfl

/-- The unit of a type without constraints is the one with constraints turned off. -/
theorem renderType_silent (header : String) (type : NamedType) :
    renderType style (types.map NamedType.unconstrained) header type.unconstrained =
      renderType style.silent types header type := by
  unfold renderType
  rw [python_typeLines_silent, kotlin_typeLines_silent]
  rfl

end Members

/-! ## Graphs -/

section Graph

variable {style : Style} {graph : TypeGraph} {comment : String} {ofTypes shared : List OutputUnit}

/-- A unit of a type that is generated for Kotlin names its package. -/
theorem package_ne_none {types : List NamedType} {header body : String} {type : NamedType}
    (written : renderType style types header type = .ok body) (kotlin : style.language = .kotlin) :
    style.package ≠ none := by
  intro missing
  unfold renderType at written
  rw [kotlin] at written
  obtain ⟨lines, isLines, _⟩ := bind_eq_ok written
  obtain ⟨definition, _, isLines⟩ := bind_eq_ok isLines
  obtain ⟨package, isPackage, _⟩ := bind_eq_ok isLines
  rw [Kotlin.packageLines, Style.packageText, missing] at isPackage
  cases isPackage

/-- A type that is rendered with constraints is rendered without them. -/
theorem exists_renderType_silent (closed : graph.Closed) {type : NamedType}
    (member : type ∈ graph.types) {header body : String}
    (written : renderType style graph.types header type = .ok body) :
    ∃ other, renderType style.silent graph.types header type = .ok other := by
  have uses (language : Language) : ∀ use ∈ type.uses,
      Outcome (fun _ : Failure => False) (fun _ => True) (language.typeText graph.types use.2) := by
    intro use isUse
    obtain ⟨text, isText⟩ :=
      language.typeText_eq_ok (Schema.ClosedTypes.closed closed type member use isUse)
    rw [isText]
    exact .ok trivial
  have directives : ∀ field ∈ type.fields,
      Outcome (fun _ : Failure => False) (fun _ => True) (style.silent.directives field) :=
    fun field _ => .ok trivial
  have rendered : Outcome (fun _ : Failure => False) (fun _ => True)
      (renderType style.silent graph.types header type) := by
    unfold renderType
    cases language : style.silent.language with
    | python =>
        exact (Python.typeLines_outcome (uses .python) directives).bind fun _ _ => .ok trivial
    | kotlin =>
        have named : style.package ≠ none := package_ne_none written language
        exact (Kotlin.typeLines_outcome (uses .kotlin) directives fun missing =>
          absurd missing named).bind fun _ _ => .ok trivial
  cases ended : renderType style.silent graph.types header type with
  | error failure => exact (rendered.failure failure ended).elim
  | ok other => exact ⟨other, rfl⟩

/-- Units with the same labels are written to the same files. -/
theorem map_file_eq {units others : List OutputUnit}
    (labels : units.map (·.label) = others.map (·.label)) (language : Language) :
    units.map (·.file language) = others.map (·.file language) := by
  have files := congrArg (List.map fun label => language.fileName label.1) labels
  rw [List.map_map, List.map_map] at files
  exact files

/-- Every graph that is generated with constraints is generated without them. The units of the types
are then those of the graph without constraints, with the same shared units behind them. -/
theorem Generated.silent (generated : Generated style graph comment ofTypes shared)
    (closed : graph.Closed) :
    ∃ bare, bare.map (·.label) = ofTypes.map (·.label) ∧
      Generated style.silent graph comment bare [] ∧
      Generated style graph.unconstrained comment bare shared := by
  have rendered : ∃ bare, List.Forall₂ (fun type unit => ∃ body,
      renderType style.silent graph.types (style.header comment) type = .ok body ∧
      unit = ({ name := type.name, body } : OutputUnit)) graph.types bare := by
    refine exists_forall₂ fun type member => ?_
    obtain ⟨_, _, body, written, _⟩ := exists_right_of_mem generated.rendered member
    obtain ⟨other, isOther⟩ := exists_renderType_silent closed member written
    exact ⟨_, other, isOther, rfl⟩
  obtain ⟨bare, rendered⟩ := rendered
  have labels : bare.map (·.label) = ofTypes.map (·.label) := by
    rw [map_label_rendered generated.rendered, map_label_rendered rendered]
  -- files are named after labels, so files that differ with constraints differ without them
  have files (language : Language) : (bare ++ shared).map (·.file language) =
      (ofTypes ++ shared).map (·.file language) := by
    rw [List.map_append, List.map_append, map_file_eq labels]
  refine ⟨bare, labels, ⟨rendered, rfl, fun on => Bool.noConfusion on, ?_⟩, ?_,
    generated.shared_eq, ?_, ?_⟩
  · have distinct := generated.files
    rw [← files] at distinct
    rw [List.append_nil]
    exact distinct.sublist ((List.sublist_append_left bare shared).map _)
  · refine List.forall₂_map_left_iff.mpr (rendered.imp ?_)
    rintro type _ ⟨body, isBody, rfl⟩
    exact ⟨body, (renderType_silent style graph.types _ type).trans isBody, rfl⟩
  · intro validations other isOther
    obtain ⟨type, member, rfl⟩ := List.mem_map.mp isOther
    exact generated.free validations type member
  · rw [files]
    exact generated.files

end Graph

end SchemaCompiler.Target

namespace SchemaCompiler

open Schema Target

/-- The same settings with another value for whether constraints are generated. -/
def Settings.withValidations (settings : Settings) (value : Data.Value) : Settings :=
  { settings with generateValidations := value }

namespace Compiler

/-- The units of a graph that a document compiles to are generated from the document. -/
theorem generate_of_generated {compiler : Compiler} {name : String} {root : Option Document.Node}
    {graph : TypeGraph} {ofTypes shared : List OutputUnit}
    (compiles : (compiler.compile name root).outcome.1 = .ok graph)
    (generated : Generated (compiler.settings.style compiler.language) graph
      (compiler.comment name) ofTypes shared) :
    (compiler.generate name root).outcome.1 = .ok (ofTypes ++ shared) := by
  rw [(compiler.generate_gives name root).outcome_eq, compiles]
  exact mapError_eq_ok_iff.mpr generated.generate_eq

/-- Turning constraints off leaves a document that generates units with the units of its types
alone, in the same order. They are, to the character, those that are generated with constraints
turned on once the constraints are taken out of the document. -/
theorem validations_off_erases_constraints {settings : Settings} {commandLine name : String}
    {compiler : Compiler} {root : Option Document.Node} {units : List OutputUnit}
    {value : Data.Value} (made : make settings commandLine = .ok compiler)
    (on : settings.generateValidations.isTrue = true)
    (done : (compiler.generate name root).outcome.1 = .ok units) (isOff : value.isTrue = false) :
    ∃ silent off bare, make (settings.withValidations value) commandLine = .ok silent ∧
      (silent.generate name root).outcome.1 = .ok off ∧
      (compiler.generate name (withoutConstraints settings.sectionPath root)).outcome.1 = .ok bare ∧
      off.map (·.label) = (units.filter (!·.shared)).map (·.label) ∧
      (units.filter (·.shared)).map (·.name) = [validationUnit, markerUnit] ∧
      off = bare.filter (!·.shared) := by
  obtain ⟨language, valid, rfl⟩ := map_eq_ok made
  obtain ⟨graph, ofTypes, shared, compiles, rfl, generated⟩ := generate_eq_ok done
  obtain ⟨bare, labels, silent, unconstrained⟩ :=
    generated.silent (compiled_of_compile compiles).closed
  have style : (settings.withValidations value).style language =
      (settings.style language).silent := by
    rw [Settings.style, Settings.style, Target.Style.silent, ← isOff]
    rfl
  refine ⟨{ settings := settings.withValidations value, language, commandLine }, bare,
    bare ++ shared, ?_, ?_, ?_, ?_,
    ?_, ?_⟩
  · exact congrArg (Except.map _) valid
  · rw [← style] at silent
    rw [← List.append_nil bare]
    exact generate_of_generated compiles silent
  · exact generate_of_generated (compile_withoutConstraints compiles) unconstrained
  · rw [labels, generated.filter_types]
  · have named := congrArg (List.map Prod.fst) (map_label_shared generated.shared_eq)
    rw [show (settings.style language).validations = true from on, List.map_map] at named
    rw [generated.filter_shared]
    exact named
  · rw [unconstrained.filter_types]

/-- A document with constraints on one property, and on one of the items of another, which is called
like them. Other entries stand on the object itself, where they constrain nothing. -/
def parcels (constraints other : List (String × Document.Node)) : Document.Node :=
  .mapping 1 [("D", .mapping 1 [
    ("parcel", .mapping 2 ([("type", .scalar 2 (.text "object")), ("properties", .mapping 3 [
      ("validate", .mapping 4 ([("type", .scalar 4 (.text "array")), ("items", .mapping 5 [
        ("type", .scalar 5 (.text "object")), ("properties", .mapping 6 [
          ("code", .mapping 6 (
            [("required", .scalar 6 (.bool true)), ("type", .scalar 6 (.text "string"))] ++
              constraints))])])])),
      ("label", .mapping 7 (constraints ++ [("type", .scalar 7 (.text "string"))]))])] ++ other))])]

/-- A regular expression, as a constraint. -/
def lettersOnly : List (String × Document.Node) :=
  [("validate", .sequence 4 [
    .mapping 4 [("pattern", .scalar 4 (.text "regex")), ("value", .scalar 4 (.text "[a-z]+$"))]])]

theorem parcels_without_constraints :
    ∃ off bare,
      ((forLanguage (oneKey.withValidations (.bool false)) "" .kotlin).generate "a.yaml"
        (some (parcels lettersOnly lettersOnly))).outcome.1 = .ok off ∧
      ((forLanguage oneKey "" .kotlin).generate "a.yaml"
        (some (parcels [] lettersOnly))).outcome.1 = .ok bare ∧
      off.map (·.label) = [("Parcel", false), ("ValidateItem", false)] ∧
      off = bare.filter (!·.shared) := by
  have labels : ((forLanguage oneKey "" .kotlin).generate "a.yaml"
      (some (parcels lettersOnly lettersOnly))).outcome.1.toOption.map (·.map (·.label)) =
      some [("Parcel", false), ("ValidateItem", false), ("Validation", true),
        ("Validate", true)] := by
    decide +kernel
  obtain ⟨units, found, labelled⟩ := Option.map_eq_some_iff.mp labels
  obtain ⟨silent, off, bare, made, isOff, isBare, same, _, erased⟩ :=
    validations_off_erases_constraints
      (show make (oneKey.forLanguage .kotlin) "" = .ok _ from rfl) rfl
      (eq_ok_of_toOption found) (show (Data.Value.bool false).isTrue = false from rfl)
  cases made
  refine ⟨off, bare, isOff, isBare, ?_, erased⟩
  -- the units that are not shared can be told by their labels
  have kept := congrArg (List.filter (!·.2)) labelled
  rw [List.filter_map] at kept
  exact same.trans kept

end Compiler

end SchemaCompiler
