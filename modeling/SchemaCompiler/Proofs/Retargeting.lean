import SchemaCompiler.Proofs.ClosedGraph
import SchemaCompiler.Proofs.CompiledGraph
import SchemaCompiler.Proofs.ConstraintRules

/-!
# The same document in both languages

A document for which Python units are generated has Kotlin units too, with the same names, from the
same graph. The two compilers part in three places. Python has the regular expressions checked,
which can only refuse a document. Both languages show the arguments of the same constraints, and
Kotlin shows whatever Python does. And the files of Kotlin units are named after the units as they
are, so that no two units of a compiled document share a file.
-/

namespace SchemaCompiler.Target

open Schema (Directive Failure Field NamedType TypeGraph bind_eq_ok map_eq_ok)

/-! ## The names of the units -/

/-- What a unit is called, and whether it is shared. -/
def OutputUnit.label (unit : OutputUnit) : String × Bool := (unit.name, unit.shared)

/-- The labels of the units of types, which are the same in every language. -/
def unitLabels (validations : Bool) (types : List NamedType) : List (String × Bool) :=
  types.map (fun type => (type.name, false)) ++
    if validations then [(validationUnit, true), (markerUnit, true)] else []

variable {style : Style} {graph : TypeGraph} {comment : String} {ofTypes shared : List OutputUnit}

theorem map_label_ofTypes {types : List NamedType} {units : List OutputUnit}
    (rendered : List.Forall₂ (fun type unit => unit.label = (type.name, false)) types units) :
    units.map (·.label) = types.map (fun type => (type.name, false)) := by
  induction rendered with
  | nil => rfl
  | cons first _ ih => rw [List.map_cons, List.map_cons, first, ih]

theorem map_label_rendered {types items : List NamedType} {header : String}
    {units : List OutputUnit}
    (rendered :
      List.Forall₂
        (fun type unit => ∃ body, renderType style types header type = .ok body ∧
          unit = { name := type.name, body }) items units) :
    units.map (·.label) = items.map (fun type => (type.name, false)) := by
  refine map_label_ofTypes (rendered.imp ?_)
  rintro type _ ⟨body, _, rfl⟩
  rfl

theorem map_label_shared
    (done : (if style.validations then sharedUnits style else .ok []) = .ok shared) :
    shared.map (·.label) =
      if style.validations then [(validationUnit, true), (markerUnit, true)] else [] := by
  split at done
  next validations =>
    obtain ⟨validation, _, done⟩ := bind_eq_ok done
    obtain ⟨marker, _, done⟩ := bind_eq_ok done
    cases done
    rw [if_pos validations]
    rfl
  next validations =>
    cases done
    rw [if_neg validations]
    rfl

/-- Generated units have the labels of the types, whatever the language. -/
theorem Generated.map_label (generated : Generated style graph comment ofTypes shared) :
    (ofTypes ++ shared).map (·.label) = unitLabels style.validations graph.types := by
  rw [List.map_append, map_label_rendered generated.rendered,
    map_label_shared generated.shared_eq, unitLabels]

/-- No two units are written to one Kotlin file: the names of types differ, and are not those of
shared units. -/
theorem nodup_kotlin_files {validations : Bool} {types : List NamedType} {units : List OutputUnit}
    (labels : units.map (·.label) = unitLabels validations types)
    (distinct : (types.map (·.name)).Nodup)
    (free : validations = true → ∀ type ∈ types, type.name ∉ reservedNames) :
    (units.map (·.file .kotlin)).Nodup := by
  have names : (units.map (·.name)).Nodup := by
    have same : units.map (·.name) = (unitLabels validations types).map (·.1) := by
      rw [← labels, List.map_map]
      rfl
    rw [same, unitLabels, List.map_append, List.map_map]
    cases validations with
    | false =>
        rw [if_neg Bool.false_ne_true, List.map_nil, List.append_nil]
        exact distinct
    | true =>
        refine List.Nodup.append distinct (by decide) ?_
        intro name ofType isShared
        obtain ⟨type, member, rfl⟩ := List.mem_map.mp ofType
        refine free rfl type member ?_
        exact (show ∀ name ∈ [validationUnit, markerUnit], name ∈ reservedNames by decide)
          _ isShared
  have injective : Function.Injective fun name : String => name ++ ".kt" := by
    intro one other same
    simpa using same
  have mapped := names.map injective
  rw [List.map_map] at mapped
  exact mapped

/-! ## Rendering in Kotlin -/

/-- Rendering a closed graph in Kotlin fails where a constraint, the package or the reserved names
make it, and nowhere else: every type can be written, and the files differ. -/
theorem kotlin_generate_outcome {allowed : Failure → Prop} (kotlin : style.language = .kotlin)
    (closed : graph.Closed)
    (directives : ∀ type ∈ graph.types, ∀ field ∈ type.fields, Outcome allowed (fun _ => True)
      (style.directives field)) (unshown : style.package = none → allowed (.fault .integerTooLong))
    (reserved : style.validations = true →
      Outcome allowed (fun _ => True) (checkReserved graph.types))
    (comment : String) : Outcome allowed (fun _ => True) (generate style graph comment) := by
  have written (type : NamedType) (member : type ∈ graph.types) :
      Outcome allowed (fun _ => True)
        (renderType style graph.types (style.header comment) type) := by
    have uses : ∀ use ∈ type.uses, Outcome allowed (fun _ => True)
        (Language.kotlin.typeText graph.types use.2) := by
      intro use isUse
      obtain ⟨text, isText⟩ :=
        Language.kotlin.typeText_eq_ok (Schema.ClosedTypes.closed closed type member use isUse)
      rw [isText]
      exact .ok trivial
    unfold renderType
    rw [kotlin]
    exact (Kotlin.typeLines_outcome uses (directives type member) unshown).bind fun _ _ =>
      .ok trivial
  have typeUnits : Outcome allowed (fun _ => True) (graph.types.mapM fun type => do
      return ({ name := type.name
                body := ← renderType style graph.types (style.header comment) type } :
        OutputUnit)) :=
    .mapM_failures fun type member => (written type member).bind fun _ _ => .ok trivial
  rw [generate_eq]
  refine typeUnits.known.bind fun units known => ?_
  have ofTypes : units.map (·.label) = graph.types.map (fun type => (type.name, false)) := by
    refine map_label_ofTypes ((forall₂_of_mapM_eq_ok known.1).imp fun type unit done => ?_)
    obtain ⟨body, _, done⟩ := bind_eq_ok done
    cases done
    rfl
  have files (shared : List OutputUnit)
      (labels : (units ++ shared).map (·.label) = unitLabels style.validations graph.types)
      (free : style.validations = true → ∀ type ∈ graph.types, type.name ∉ reservedNames) :
      Outcome allowed (fun _ => True) (do
        checkFiles style.language [] (units ++ shared)
        return units ++ shared) := by
    have passes : checkFiles style.language [] (units ++ shared) = .ok () := by
      rw [kotlin]
      exact checkFiles_eq_ok_iff.mpr
        ⟨nodup_kotlin_files labels (Schema.ClosedTypes.distinct closed) free, by simp⟩
    rw [passes]
    exact .ok trivial
  split
  next validations =>
    refine (reserved validations).known.bind fun _ passed => ?_
    refine (sharedUnits_outcome fun _ => unshown).known.bind fun shared made => files shared ?_ ?_
    · have labels := map_label_shared ((if_pos validations).trans made.1)
      rw [List.map_append, ofTypes, labels, unitLabels]
    · exact fun _ => checkReserved_eq_ok_iff.mp passed.1
  next validations =>
    refine files [] ?_ fun on => absurd on validations
    rw [List.append_nil, ofTypes, unitLabels, if_neg validations, List.append_nil]

/-- An argument that Python writes can be shown. -/
theorem plain?_ne_none_of_python {directive : Directive} {text : String}
    (written : directiveText .python directive = .ok text) : directive.argument.plain? ≠ none := by
  obtain ⟨predicate, argument⟩ := directive
  intro unshown
  unfold directiveText at written
  dsimp only at written unshown
  split at written
  · cases unshown
  · cases unshown
  · cases unshown
  · rw [unshown] at written
    cases written

/-- The constraints that a field has in Python can be written in Kotlin. -/
theorem kotlin_directives_of_python {python kotlin : Style} {field : Field} {texts : List String}
    (written : python.directives field = .ok texts) (isPython : python.language = .python)
    (same : kotlin.validations = python.validations) :
    Outcome (fun _ => False) (fun _ => True) (kotlin.directives field) := by
  unfold Style.directives at written ⊢
  rw [same]
  split at written
  next validations =>
    rw [isPython] at written
    rw [if_pos validations]
    refine .mapM_failures fun directive member => directiveText_outcome _ ?_
    obtain ⟨text, _, isText⟩ := exists_right_of_mem (forall₂_of_mapM_eq_ok written) member
    exact plain?_ne_none_of_python isText
  next validations =>
    rw [if_neg validations]
    exact .ok trivial

/-- The unit of a type has the directives of all of its fields in it. -/
theorem directives_of_pythonUnit {types : List NamedType} {header body : String} {type : NamedType}
    (python : style.language = .python) (written : renderType style types header type = .ok body) :
    ∀ field ∈ type.fields, ∃ texts, style.directives field = .ok texts := by
  unfold renderType at written
  rw [python] at written
  obtain ⟨lines, isLines, _⟩ := bind_eq_ok written
  obtain ⟨name, sourceName, definition⟩ := type
  cases definition with
  | object synthesized fields =>
      intro field isField
      obtain ⟨unit, isUnit, _⟩ := map_eq_ok isLines
      obtain ⟨members, areMembers, _⟩ := bind_eq_ok isUnit
      obtain ⟨member, _, isMember⟩ := exists_right_of_mem (forall₂_of_mapM_eq_ok areMembers) isField
      obtain ⟨text, _, isMember⟩ := bind_eq_ok isMember
      obtain ⟨texts, areTexts, _⟩ := bind_eq_ok isMember
      exact ⟨texts, areTexts⟩
  | enumeration values => exact List.forall_mem_nil _
  | aliasOf target => exact List.forall_mem_nil _

end SchemaCompiler.Target

namespace SchemaCompiler

open Schema Target

/-- The same settings for a language. -/
def Settings.forLanguage (settings : Settings) (language : Language) : Settings :=
  { settings with language := .text language.name }

/-- Settings that are valid for one language are valid for the other. -/
theorem Settings.validate_forLanguage (settings : Settings) (language other : Language) :
    (settings.forLanguage other).validate = (settings.forLanguage language).validate.map fun _ =>
      other := by
  have known (language : Language) : (settings.forLanguage language).language? = some language := by
    cases language <;> rfl
  unfold validate
  rw [known, known]
  dsimp only [forLanguage]
  cases settings.validateValue with
  | some value => rfl
  | none =>
      cases required "schemas_path" settings.schemasPath with
      | error fault => rfl
      | ok path =>
          show (if path.isTrue then _ else _) = Except.map _ (if path.isTrue then _ else _)
          split <;> rfl

namespace Compiler

variable {settings : Settings} {commandLine name : String} {root : Option Document.Node}

/-- The compiler of settings for a language. -/
def forLanguage (settings : Settings) (commandLine : String) (language : Language) : Compiler :=
  { settings := settings.forLanguage language, language, commandLine }

theorem make_forLanguage {language : Language} {compiler : Compiler}
    (made : make (settings.forLanguage language) commandLine = .ok compiler) (other : Language) :
    compiler = forLanguage settings commandLine language ∧
      make (settings.forLanguage other) commandLine =
        .ok (forLanguage settings commandLine other) := by
  obtain ⟨chosen, valid, rfl⟩ := map_eq_ok made
  have same := settings.validate_forLanguage language language
  rw [valid] at same
  have same : chosen = language := Except.ok.inj same
  subst same
  refine ⟨rfl, ?_⟩
  rw [make, settings.validate_forLanguage chosen other, valid]
  rfl

/-- The graph that is rendered in Python is the graph that is rendered in Kotlin. -/
theorem compile_kotlin_of_python {graph : TypeGraph}
    (done : ((forLanguage settings commandLine .python).compile name root).outcome.1 = .ok graph) :
    ((forLanguage settings commandLine .kotlin).compile name root).outcome.1 = .ok graph := by
  rw [(compile_gives _ name root).outcome_eq, mapError_eq_ok_iff] at done ⊢
  obtain ⟨found, isFound, done⟩ := bind_eq_ok done
  obtain ⟨analysed, isAnalysed, done⟩ := bind_eq_ok done
  have path : (forLanguage settings commandLine .kotlin).settings.sectionPath =
      (forLanguage settings commandLine .python).settings.sectionPath := rfl
  rw [path, isFound]
  show ((analyze name found.2).outcome.1 >>= _) = _
  rw [isAnalysed]
  have unchecked :
      ((forLanguage settings commandLine .kotlin).settings.constraintRules .kotlin).AtMost
      ((forLanguage settings commandLine .python).settings.constraintRules .python) :=
      ⟨id, fun _ => rfl⟩
  exact (attachAll_follows unchecked analysed.1 analysed.2 [] graph done).outcome_eq

/-- What goes wrong with a document that compiles, other than a fault, is a reserved name. -/
theorem reservedName_of_kotlin {compiler : Compiler} (kotlin : compiler.language = .kotlin)
    {graph : TypeGraph} (compiles : (compiler.compile name root).outcome.1 = .ok graph)
    {error : Error} (failed : (compiler.generate name root).outcome.1 = .error (.error error)) :
    ∃ type ∈ graph.types, type.name ∈ reservedNames ∧ error.cause = .reservedName type.name := by
  have outcome : Outcome (fun failure => ∀ error, failure = .error error →
        ∃ type ∈ graph.types, type.name ∈ reservedNames ∧ error.cause = .reservedName type.name)
          (fun _ => True)
      (Target.generate (compiler.settings.style compiler.language) graph
        (compiler.comment name)) := by
    refine kotlin_generate_outcome kotlin (compiled_of_compile compiles).closed ?_ ?_ ?_ _
    -- an argument or a package that cannot be shown is a fault, and no error
    · intro type _ field _
      refine Style.directives_outcome fun directive _ _ => ?_
      intro error same
      cases same
    · intro _ error same
      cases same
    · intro _
      refine checkReserved_outcome fun type member reserved => ?_
      intro error same
      cases same
      exact ⟨type, member, reserved, rfl⟩
  rw [(compiler.generate_gives name root).outcome_eq, compiles] at failed
  have failed :
      (Target.generate (compiler.settings.style compiler.language) graph
        (compiler.comment name)).mapError (·.within name) = .error (.error error) := failed
  cases ended : Target.generate (compiler.settings.style compiler.language) graph
    (compiler.comment name) with
  | ok units =>
      rw [ended] at failed
      cases failed
  | error failure =>
      rw [ended] at failed
      cases failure with
      | fault fault => cases failed
      | error inner =>
          cases failed
          exact outcome.failure _ ended inner rfl

/-- A document and settings for which Python units are generated have Kotlin units too, as long as
the name of the package is a text: the same units by name, of the same graph. And a document that
compiles has no error in Kotlin but that of a reserved name, so none of two units in one file. -/
theorem kotlin_accepts_what_python_accepts {settings : Settings} {package : String}
    (named : settings.packageName = .text package) (commandLine name : String)
    (root : Option Document.Node) :
    (∀ python units, make (settings.forLanguage .python) commandLine = .ok python →
      (python.generate name root).outcome.1 = .ok units →
      ∃ kotlin others graph, make (settings.forLanguage .kotlin) commandLine = .ok kotlin ∧
        (kotlin.generate name root).outcome.1 = .ok others ∧
        others.map (·.label) = units.map (·.label) ∧
        (python.compile name root).outcome.1 = .ok graph ∧
        (kotlin.compile name root).outcome.1 = .ok graph) ∧
    (∀ kotlin graph error, make (settings.forLanguage .kotlin) commandLine = .ok kotlin →
      (kotlin.compile name root).outcome.1 = .ok graph →
      (kotlin.generate name root).outcome.1 = .error (.error error) →
      ∃ type ∈ graph.types, type.name ∈ reservedNames ∧ error.cause = .reservedName type.name) := by
  constructor
  · intro python units made done
    obtain ⟨rfl, other⟩ := make_forLanguage made .kotlin
    obtain ⟨graph, ofTypes, shared, compiles, rfl, generated⟩ := generate_eq_ok done
    have again := compile_kotlin_of_python compiles
    have outcome : Outcome (fun _ => False) (fun _ => True) (Target.generate
        ((settings.forLanguage .kotlin).style .kotlin) graph
        ((forLanguage settings commandLine .kotlin).comment name)) := by
      refine kotlin_generate_outcome rfl (compiled_of_compile compiles).closed ?_ ?_ ?_ _
      · intro type member field isField
        obtain ⟨_, _, body, written, _⟩ := exists_right_of_mem generated.rendered member
        obtain ⟨texts, areTexts⟩ := directives_of_pythonUnit rfl written field isField
        exact kotlin_directives_of_python areTexts rfl rfl
      · intro missing
        have shown : settings.packageName.plain? = none := missing
        rw [named] at shown
        cases shown
      · intro validations
        rw [checkReserved_eq_ok_iff.mpr (generated.free validations)]
        exact .ok trivial
    cases rendered : Target.generate ((settings.forLanguage .kotlin).style .kotlin) graph
        ((forLanguage settings commandLine .kotlin).comment name) with
    | error failure => exact (outcome.failure failure rendered).elim
    | ok others =>
        refine ⟨_, others, graph, other, ?_, ?_, compiles, again⟩
        · rw [(generate_gives _ name root).outcome_eq, again]
          exact mapError_eq_ok_iff.mpr rendered
        · obtain ⟨_, _, rfl, generatedHere⟩ := Target.generate_eq_ok rendered
          rw [generatedHere.map_label, generated.map_label]
          rfl
  · intro kotlin graph error made compiles failed
    obtain ⟨rfl, _⟩ := make_forLanguage made .kotlin
    exact reservedName_of_kotlin rfl compiles failed

/-- A document with an object that has a regular expression and a reference to itself. -/
def patterned (object : String) : Document.Node :=
  .mapping 1 [("D", .mapping 1 [
    (object, .mapping 2 [("type", .scalar 2 (.text "object")), ("properties", .mapping 3 [
      ("code", .mapping 3 [("type", .scalar 3 (.text "string")), ("validate", .sequence 4 [
        .mapping 4
          [("pattern", .scalar 4 (.text "regex")), ("value", .scalar 4 (.text "[a-z]+$"))]])]),
      ("next", .mapping 5 [("$ref", .scalar 5 (.text ("#/" ++ object)))])])])])]

/-- Settings with a path of one key. -/
def oneKey : Settings := { schemasPath := some (.list [.text "D"]) }

theorem patterned_in_both_languages :
    (∃ kotlin others, make (oneKey.forLanguage .kotlin) "" = .ok kotlin ∧
      (kotlin.generate "a.yaml" (some (patterned "part"))).outcome.1 = .ok others ∧
      others.map (·.label) = [("Part", false), ("Validation", true), ("Validate", true)]) ∧
    ∃ graph,
      ((forLanguage oneKey "" .kotlin).compile "a.yaml" (some (patterned "validate"))).outcome.1 =
        .ok graph ∧
      ∃ type ∈ graph.types, type.name ∈ reservedNames := by
  have retarget :=
    kotlin_accepts_what_python_accepts (show oneKey.packageName = .text "generated" from rfl) ""
    "a.yaml"
  constructor
  · have labels :
        ((forLanguage oneKey "" .python).generate "a.yaml"
          (some (patterned "part"))).outcome.1.toOption.map
        (·.map (·.label)) = some [("Part", false), ("Validation", true), ("Validate", true)] := by
          decide +kernel
    obtain ⟨units, found, labelled⟩ := Option.map_eq_some_iff.mp labels
    obtain ⟨kotlin, others, _, made, done, same, _⟩ :=
      (retarget (some (patterned "part"))).1 _ units rfl (eq_ok_of_toOption found)
    exact ⟨kotlin, others, made, done, same.trans labelled⟩
  · have compiles :
        ((forLanguage oneKey "" .kotlin).compile "a.yaml"
          (some (patterned "validate"))).outcome.1.toOption.isSome :=
      by decide +kernel
    have failed :
        ((forLanguage oneKey "" .kotlin).generate "a.yaml"
          (some (patterned "validate"))).outcome.1 =
        .error (.error
          { cause := .reservedName "Validate"
            location := { document := some "a.yaml", declaration := some "validate" } }) := by
              decide +kernel
    obtain ⟨graph, found⟩ := Option.isSome_iff_exists.mp compiles
    obtain ⟨type, member, reserved, _⟩ :=
      (retarget (some (patterned "validate"))).2 _ graph _ rfl (eq_ok_of_toOption found) failed
    exact ⟨graph, eq_ok_of_toOption found, type, member, reserved⟩

end Compiler

end SchemaCompiler
