import SchemaCompiler.Proofs.ImportGathering

/-!
# What rendering can end in

Rendering a graph writes the types that it uses, shows the arguments of its constraints and the
package, and checks the names of the units. It fails where one of these cannot be done and nowhere
else. So the failures of `Target.generate` are covered as soon as those of the parts are (`Covers`),
whatever they are in the case at hand.
-/

namespace SchemaCompiler.Target

open Schema (Error Failure Field NamedType TypeGraph)

/-- Failures among which are all those of the parts of a rendering. -/
structure Covers (allowed : Failure → Prop) (style : Style) (types : List NamedType) : Prop where
  taken : ∀ error : Error, error.cause.kind = .duplicateName → allowed (.error error)
  written : ∀ (language : Language), ∀ type ∈ types, ∀ use ∈ type.uses,
    Outcome allowed (fun _ => True) (language.typeText types use.2)
  shown : ∀ type ∈ types, ∀ field ∈ type.fields, ∀ directive ∈ field.constraints,
    directive.argument.plain? = none → allowed (.fault .integerTooLong)
  package : style.language = .kotlin → style.package = none → allowed (.fault .integerTooLong)

variable {allowed : Failure → Prop} {style : Style} {types : List NamedType} {type : NamedType}

/-! ## Parts -/

theorem directiveText_outcome (language : Language) {directive : Schema.Directive}
    (shown : directive.argument.plain? = none → allowed (.fault .integerTooLong)) :
    Outcome allowed (fun _ => True) (directiveText language directive) := by
  unfold directiveText
  dsimp only
  split
  · exact .ok trivial
  · exact .ok trivial
  · exact .ok trivial
  · split
    next unshown => exact .error (shown unshown)
    next => split <;> exact .ok trivial

theorem Style.directives_outcome {field : Field}
    (shown : ∀ directive ∈ field.constraints, directive.argument.plain? = none →
      allowed (.fault .integerTooLong)) :
    Outcome allowed (fun _ => True) (style.directives field) :=
  .ite (.mapM_failures fun directive member =>
    directiveText_outcome style.language (shown directive member))
    (.ok trivial)

theorem Kotlin.packageLines_outcome
    (unshown : style.package = none → allowed (.fault .integerTooLong)) :
    Outcome allowed (fun _ => True) (Kotlin.packageLines style) := by
  unfold Kotlin.packageLines Style.packageText
  split
  · exact .ok trivial
  next missing => exact .error (unshown missing)

/-! ## Units -/

/-- Both languages write the members of an object from its fields. -/
theorem members_outcome {α : Type} {language : Language} {name sourceName : String}
    {synthesized : Bool} {fields : List Field} (write : Field → String → List String → α)
    (written : ∀ use ∈ NamedType.uses ⟨name, sourceName, .object synthesized fields⟩,
      Outcome allowed (fun _ => True) (language.typeText types use.2))
    (directives : ∀ field ∈ fields, Outcome allowed (fun _ => True) (style.directives field)) :
    Outcome allowed (fun _ => True) (fields.mapM fun field => do
      let type ← language.typeText types field.type
      let directives ← style.directives field
      return write field type directives) := by
  refine .mapM_failures fun field isField => ?_
  have type := written (some field.sourceName, field.type) (List.mem_map_of_mem isField)
  exact type.bind fun _ _ => (directives field isField).bind fun _ _ => .ok trivial

theorem Covers.directives (covers : Covers allowed style types) (member : type ∈ types) :
    ∀ field ∈ type.fields, Outcome allowed (fun _ => True) (style.directives field) :=
  fun field isField => Style.directives_outcome (covers.shown type member field isField)

theorem Python.typeLines_outcome
    (written : ∀ use ∈ type.uses, Outcome allowed (fun _ => True)
      (Language.python.typeText types use.2))
    (directives : ∀ field ∈ type.fields, Outcome allowed (fun _ => True) (style.directives field)) :
    Outcome allowed (fun _ => True) (Python.typeLines style types type) := by
  obtain ⟨name, sourceName, body⟩ := type
  cases body with
  | object synthesized fields =>
      have members : Outcome allowed (fun _ => True) (fields.mapM (Python.member style types)) :=
        members_outcome (fun field type directives =>
          ({ name := Language.python.memberName field.name, type,
             optional := field.optional, directives } :
            Python.Member)) written directives
      have unit : Outcome allowed (fun _ => True) (Python.objectUnit style types name fields) :=
        members.bind fun _ _ => .ok trivial
      exact unit.map fun _ _ => trivial
  | enumeration values => exact .ok trivial
  | aliasOf target =>
      have text := written (none, target) (List.mem_singleton.mpr rfl)
      have unit : Outcome allowed (fun _ => True) (Python.aliasUnit types name target) :=
        text.bind fun _ _ => .ok trivial
      exact unit.map fun _ _ => trivial

theorem Kotlin.typeLines_outcome
    (written : ∀ use ∈ type.uses, Outcome allowed (fun _ => True)
      (Language.kotlin.typeText types use.2))
    (directives : ∀ field ∈ type.fields, Outcome allowed (fun _ => True) (style.directives field))
    (unshown : style.package = none → allowed (.fault .integerTooLong)) :
    Outcome allowed (fun _ => True) (Kotlin.typeLines style types type) := by
  have definition : Outcome allowed (fun _ => True) (Kotlin.definitionLines style types type) := by
    obtain ⟨name, sourceName, body⟩ := type
    cases body with
    | object synthesized fields =>
        have members : Outcome allowed (fun _ => True) (fields.mapM (Kotlin.member style types)) :=
          members_outcome (fun field type directives =>
            ({ name := Language.kotlin.memberName field.name, type,
               optional := field.optional, directives } :
              Kotlin.Member)) written directives
        exact members.map fun _ _ => trivial
    | enumeration values => exact .ok trivial
    | aliasOf target =>
        have text := written (none, target) (List.mem_singleton.mpr rfl)
        exact text.map fun _ _ => trivial
  exact definition.bind fun _ _ => (Kotlin.packageLines_outcome unshown).bind fun _ _ => .ok trivial

theorem Covers.renderType (covers : Covers allowed style types) (member : type ∈ types)
    (header : String) :
    Outcome allowed (fun _ => True) (renderType style types header type) := by
  unfold Target.renderType
  cases language : style.language with
  | python =>
      have lines := Python.typeLines_outcome (covers.written .python type member)
        (covers.directives member)
      exact lines.bind fun _ _ => .ok trivial
  | kotlin =>
      have lines := Kotlin.typeLines_outcome (covers.written .kotlin type member)
        (covers.directives member) (covers.package language)
      exact lines.bind fun _ _ => .ok trivial

theorem sharedUnits_outcome
    (unshown : style.language = .kotlin → style.package = none → allowed (.fault .integerTooLong)) :
    Outcome allowed (fun _ => True) (sharedUnits style) := by
  have lines (python kotlin : List String) :
      Outcome allowed (fun _ => True) (sharedLines style python kotlin) := by
    unfold sharedLines
    split
    · exact .ok trivial
    next language => exact (Kotlin.packageLines_outcome (unshown language)).map fun _ _ => trivial
  exact (lines _ _).bind fun _ _ => (lines _ _).bind fun _ _ => .ok trivial

/-! ## Names -/

theorem checkReserved_outcome
    (taken : ∀ type ∈ types, type.name ∈ reservedNames →
      allowed
        (.error
          { cause := .reservedName type.name,
            location := { declaration := some type.sourceName } })) :
    Outcome allowed (fun _ => True) (checkReserved types) := by
  induction types with
  | nil => exact .ok trivial
  | cons type rest ih =>
      rw [List.forall_mem_cons] at taken
      exact .byCases (fun reserved => .error (taken.1 (List.contains_iff_mem.mp reserved))) fun _ =>
        ih taken.2

theorem checkFiles_outcome
    (taken : ∀ error : Error, error.cause.kind = .duplicateName → allowed (.error error))
    (language : Language) (seen : List (String × String)) (units : List OutputUnit) :
    Outcome allowed (fun _ => True) (checkFiles language seen units) := by
  induction units generalizing seen with
  | nil => exact .ok trivial
  | cons unit rest ih =>
      unfold checkFiles
      dsimp only
      split
      · exact .error (taken _ rfl)
      · exact ih _

/-- Generating the units of a graph ends in no failures but those of its parts. -/
theorem generate_outcome {graph : TypeGraph} (covers : Covers allowed style graph.types)
    (comment : String) :
    Outcome allowed (fun _ => True) (generate style graph comment) := by
  have typeUnits : Outcome allowed (fun _ => True) (graph.types.mapM fun type => do
      return ({ name := type.name
                body := ← Target.renderType style graph.types (style.header comment) type } :
                OutputUnit)) :=
    .mapM_failures fun type member => (covers.renderType member _).bind fun _ _ => .ok trivial
  rw [generate_eq]
  refine typeUnits.bind fun units _ => ?_
  have files (units shared : List OutputUnit) : Outcome allowed (fun _ => True) (do
      checkFiles style.language [] (units ++ shared)
      return units ++ shared) :=
    (checkFiles_outcome covers.taken style.language [] (units ++ shared)).bind fun _ _ =>
      .ok trivial
  split
  · refine (checkReserved_outcome fun _ _ _ => covers.taken _ rfl).bind fun _ _ => ?_
    exact (sharedUnits_outcome covers.package).bind fun shared _ => files units shared
  · exact files units []

end SchemaCompiler.Target
