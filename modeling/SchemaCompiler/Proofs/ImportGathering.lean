import SchemaCompiler.Proofs.Operation
import SchemaCompiler.Proofs.Outcome
import SchemaCompiler.Target.Generation

/-!
# What units import, and what is gathered

Imports are gathered in two sets while the types of a unit are written, and the sets are left from
the unit before. But an object or an alias empties them first, every type adds what it needs and
nothing else (`run_translate`), and what is made of a set depends on its members only
(`ImportBlock.make_congr`). So the unit of a type is told from the type alone (`objectUnit`,
`aliasUnit`), whatever has been gathered before (`generateFrom_eq`).
-/

namespace SchemaCompiler.Target

open Schema (Failure Field NamedType TypeExpr TypeGraph)

namespace Python

/-! ## Units told from their types -/

/-- The names of the named types that types end in. -/
def referencedNames (types : List NamedType) (used : List TypeExpr) : List String :=
  used.filterMap fun type => (type.leafId?.bind fun id => types[id]?).map (·.name)

/-- What a type without limits needs. -/
def anyImports (used : List TypeExpr) : List (String × String) :=
  if used.any (·.leaf == .any) then [("typing", "Any")] else []

/-- The member for a field. -/
def member (style : Style) (types : List NamedType) (field : Field) : Except Failure Member := do
  let type ← Language.python.typeText types field.type
  let directives ← style.directives field
  return { name := Language.python.memberName field.name, type,
           optional := field.optional, directives }

/-- The unit of an object. -/
def objectUnit (style : Style) (types : List NamedType) (name : String) (fields : List Field) :
    Except Failure ObjectUnit := do
  let members ← fields.mapM (member style types)
  let used := fields.map (·.type)
  let referenced := typeImports ((referencedNames types used).filter (· != name))
  let imports :=
    [("dataclasses", "dataclass")] ++ anyImports used ++
    (if members.any (!·.directives.isEmpty) then markerImports else []) ++
    (if referenced.isEmpty then [] else [("typing", "TYPE_CHECKING")])
  return { className := name, imports := ImportBlock.make imports [],
           typeImports := referenced, members }

/-- The unit of an alias. -/
def aliasUnit (types : List NamedType) (name : String) (target : TypeExpr) :
    Except Failure AliasUnit := do
  let text ← Language.python.typeText types target
  let imports := ("typing", "TypeAlias") :: anyImports [target]
  return {
    className := name
    imports := ImportBlock.make imports (typeImports (referencedNames types [target]))
    target := text }

/-- The lines of the unit of a named type. -/
def typeLines (style : Style) (types : List NamedType) (type : NamedType) :
    Except Failure (List String) :=
  match type.body with
  | .object _ fields => (objectUnit style types type.name fields).map ObjectUnit.lines
  | .enumeration values => .ok (enumLines type.name values)
  | .aliasOf target => (aliasUnit types type.name target).map AliasUnit.lines

/-- The names of the types that an object with some fields imports. -/
def objectNames (types : List NamedType) (name : String) (fields : List Field) : List String :=
  (referencedNames types (fields.map (·.type))).filter (· != name)

/-- The pairs of modules and names that an object with some members imports. -/
def objectPairs (types : List NamedType) (name : String) (fields : List Field)
    (members : List Member) :
    List (String × String) :=
  [("dataclasses", "dataclass")] ++ anyImports (fields.map (·.type)) ++
  (if members.any (!·.directives.isEmpty) then markerImports else []) ++
  (if (typeImports (objectNames types name fields)).isEmpty then []
    else [("typing", "TYPE_CHECKING")])

/-- The unit of an object is made from its members. -/
theorem objectUnit_eq (style : Style) (types : List NamedType) (name : String)
    (fields : List Field) :
    objectUnit style types name fields = (fields.mapM (member style types)).map fun members =>
      { className := name
        imports := ImportBlock.make (objectPairs types name fields members) []
        typeImports := typeImports (objectNames types name fields)
        members } := by
  unfold objectUnit
  cases fields.mapM (member style types) <;> rfl

/-! ## Sorting and grouping -/

theorem mem_sorted {texts : List String} {text : String} : text ∈ sorted texts ↔ text ∈ texts := by
  rw [sorted, List.mem_eraseDups, List.mem_mergeSort]

theorem textLe_iff {a b : String} : textLe a b = true ↔ a ≤ b := by
  rw [textLe, Bool.not_eq_true', decide_eq_false_iff_not, String.not_lt]

theorem pairwise_mergeSort_by (key : String → String) (texts : List String) :
    (texts.mergeSort fun a b => textLe (key a) (key b)).Pairwise fun a b => key a ≤ key b := by
  refine List.Pairwise.imp textLe_iff.mp (List.pairwise_mergeSort ?_ ?_ texts)
  · intro a b c first second
    exact textLe_iff.mpr (String.le_trans (textLe_iff.mp first) (textLe_iff.mp second))
  · intro a b
    rw [Bool.or_eq_true, textLe_iff, textLe_iff]
    exact String.le_total (key a) (key b)

/-- Texts that are sorted, each once, are given by which they are. -/
theorem sorted_congr {first second : List String} (same : ∀ text, text ∈ first ↔ text ∈ second) :
    sorted first = sorted second := by
  have ordered (texts : List String) : (sorted texts).Pairwise (· ≤ ·) :=
    (pairwise_mergeSort_by id texts).sublist (eraseDups_sublist _)
  refine List.Perm.eq_of_pairwise (fun a b _ _ => String.le_antisymm) (ordered first)
    (ordered second) ?_
  refine (List.perm_ext_iff_of_nodup (nodup_eraseDups _) (nodup_eraseDups _)).mpr fun text => ?_
  exact mem_sorted.trans ((same text).trans mem_sorted.symm)

theorem groupImports_congr {first second : List (String × String)}
    (same : ∀ pair, pair ∈ first ↔ pair ∈ second) : groupImports first = groupImports second := by
  have modules : sorted (first.map (·.1)) = sorted (second.map (·.1)) := by
    refine sorted_congr fun module => ?_
    simp only [List.mem_map, same]
  have names (module : String) : sorted ((first.filter (·.1 == module)).map (·.2)) =
      sorted ((second.filter (·.1 == module)).map (·.2)) := by
    refine sorted_congr fun name => ?_
    simp only [List.mem_map, List.mem_filter, same]
  unfold groupImports
  rw [modules]
  exact List.map_congr_left fun module _ => by rw [names module]

theorem ImportBlock.make_congr {first second : List (String × String)}
    (same : ∀ pair, pair ∈ first ↔ pair ∈ second) (types : List Import) :
    ImportBlock.make first types = ImportBlock.make second types := by
  unfold ImportBlock.make
  rw [groupImports_congr same]

theorem typeImports_congr {first second : List String}
    (same : ∀ name, name ∈ first ↔ name ∈ second) :
    typeImports first = typeImports second := by
  unfold typeImports
  rw [sorted_congr same]

/-! ## What is added to the sets -/

/-- After some steps there is in the sets what was there before, and what the steps needed. -/
structure Adds (before needs after : Gathered) : Prop where
  imports : ∀ pair, pair ∈ after.imports ↔ pair ∈ before.imports ∨ pair ∈ needs.imports
  types : ∀ name, name ∈ after.types ↔ name ∈ before.types ∨ name ∈ needs.types

variable {before between after needs further : Gathered}

theorem Adds.nothing (before : Gathered) : Adds before {} before :=
  ⟨fun pair => by simp, fun name => by simp⟩

theorem Adds.trans (first : Adds before needs between) (second : Adds between further after) :
    Adds before ⟨needs.imports ++ further.imports, needs.types ++ further.types⟩ after where
  imports pair := by rw [second.imports, first.imports, or_assoc, List.mem_append]
  types name := by rw [second.types, first.types, or_assoc, List.mem_append]

theorem Adds.congr (adds : Adds before needs after)
    (imports : ∀ pair, pair ∈ needs.imports ↔ pair ∈ further.imports)
    (types : ∀ name, name ∈ needs.types ↔ name ∈ further.types) : Adds before further after where
  imports pair := by rw [adds.imports, imports]
  types name := by rw [adds.types, types]

theorem run_reset (before : Gathered) : reset.run.run before = (.ok (), {}) := rfl

theorem run_discardType (name : String) (before : Gathered) : (discardType name).run.run before =
    (.ok (), { before with types := before.types.filter (· != name) }) := rfl

theorem run_addImports (items : List (String × String)) (before : Gathered) :
    ∃ after, (addImports items).run.run before = (.ok (), after) ∧
      Adds before { imports := items } after := by
  refine ⟨_, rfl, fun pair => ?_, fun name => by simp⟩
  show pair ∈ items.foldr List.insert before.imports ↔ pair ∈ before.imports ∨ pair ∈ items
  induction items with
  | nil => simp
  | cons item rest ih =>
      rw [List.foldr_cons, List.mem_insert_iff, ih, List.mem_cons]
      exact or_left_comm

theorem run_addType (name : String) (before : Gathered) :
    ∃ after, (addType name).run.run before = (.ok (), after) ∧
      Adds before { types := [name] } after := by
  refine ⟨_, rfl, fun pair => by simp, fun other => ?_⟩
  show other ∈ before.types.insert name ↔ _
  rw [List.mem_insert_iff, List.mem_singleton, or_comm]

/-- Writing a type adds what it ends in, and gives its text or fails as it does. -/
theorem run_translate (types : List NamedType) (type : TypeExpr) (before : Gathered) :
    ∃ after, (translate types type).run.run before = (Language.python.typeText types type, after) ∧
      Adds before ⟨anyImports [type], referencedNames types [type]⟩ after := by
  induction type with
  | scalar kind => exact ⟨before, rfl, .nothing before⟩
  | any =>
      obtain ⟨after, ran, adds⟩ := run_addImports [("typing", "Any")] before
      exact ⟨after, run_bind_ok ran, adds⟩
  | array items ih =>
      obtain ⟨after, ran, adds⟩ := ih
      refine ⟨after, ?_, adds⟩
      rw [Language.typeText]
      cases text : Language.python.typeText types items with
      | error failure => exact run_bind_error (text ▸ ran)
      | ok text' => exact run_bind_ok (text ▸ ran)
  | named id =>
      rw [translate, Language.typeText]
      cases found : types[id]? with
      | none =>
          refine ⟨before, rfl, (Adds.nothing before).congr (by simp [anyImports, TypeExpr.leaf]) ?_⟩
          simp [referencedNames, TypeExpr.leafId?, TypeExpr.leaf, found]
      | some type =>
          obtain ⟨after, ran, adds⟩ := run_addType type.name before
          refine ⟨after, run_bind_ok ran, adds.congr (by simp [anyImports, TypeExpr.leaf]) ?_⟩
          simp [referencedNames, TypeExpr.leafId?, TypeExpr.leaf, found]
  | unresolved name pointer => exact ⟨before, rfl, .nothing before⟩
  | missing => exact ⟨before, rfl, .nothing before⟩

/-- What members need: what their types end in, and the markers if one has constraints. -/
def memberNeeds (types : List NamedType) (fields : List Field) (members : List Member) :
    Gathered where
  imports := anyImports (fields.map (·.type)) ++
    if members.any (!·.directives.isEmpty) then markerImports else []
  types := referencedNames types (fields.map (·.type))

theorem run_gatherMember (style : Style) (types : List NamedType) (field : Field)
    (before : Gathered) :
    ∃ after, (gatherMember style types field).run.run before = (member style types field, after) ∧
      ∀ made, member style types field = .ok made →
        Adds before (memberNeeds types [field] [made]) after := by
  obtain ⟨between, ran, adds⟩ := run_translate types field.type before
  unfold gatherMember member
  cases written : Language.python.typeText types field.type with
  | error failure => exact ⟨between, run_bind_error (written ▸ ran), fun made done => by cases done⟩
  | ok type =>
      rw [run_bind_ok (written ▸ ran)]
      cases listed : style.directives field with
      | error failure =>
          exact ⟨between, run_bind_error (run_ofExcept _ _), fun made done => by cases done⟩
      | ok directives =>
          rw [run_bind_ok (run_ofExcept (.ok directives) between)]
          obtain ⟨after, marked, more⟩ :=
            run_addImports (if directives.isEmpty then [] else markerImports) between
          refine ⟨after, run_bind_ok marked, fun made done => ?_⟩
          cases done
          refine (adds.trans more).congr (fun pair => ?_) (by simp [memberNeeds])
          cases empty : directives.isEmpty <;> simp [memberNeeds, empty]

/-- One member more needs what it needs alone. -/
theorem Adds.memberNeeds_cons {types : List NamedType} {field : Field} {rest : List Field}
    {made : Member} {members : List Member}
    (first : Adds before (memberNeeds types [field] [made]) between)
    (second : Adds between (memberNeeds types rest members) after) :
    Adds before (memberNeeds types (field :: rest) (made :: members)) after := by
  refine (first.trans second).congr (fun pair => ?_) fun name => ?_
  · simp only [memberNeeds, anyImports, List.map_cons, List.map_nil, List.any_cons, List.any_nil,
      Bool.or_false, List.mem_append, List.mem_ite_nil_right, Bool.or_eq_true, or_and_right]
    exact or_or_or_comm
  · simp only [memberNeeds, referencedNames, List.map_cons, List.map_nil]
    rw [← List.filterMap_append, List.singleton_append]

theorem run_gatherMembers (style : Style) (types : List NamedType) (fields : List Field)
    (before : Gathered) :
    ∃ after, (fields.mapM (gatherMember style types)).run.run before =
        (fields.mapM (member style types), after) ∧
      ∀ members, fields.mapM (member style types) = .ok members →
        Adds before (memberNeeds types fields members) after := by
  induction fields generalizing before with
  | nil =>
      refine ⟨before, rfl, fun members done => ?_⟩
      cases done
      exact .nothing before
  | cons field rest ih =>
      obtain ⟨between, ran, adds⟩ := run_gatherMember style types field before
      rw [List.mapM_cons, List.mapM_cons]
      cases one : member style types field with
      | error failure =>
          exact ⟨between, run_bind_error (one ▸ ran), fun members done => by cases done⟩
      | ok made =>
          obtain ⟨after, others, more⟩ := ih between
          rw [run_bind_ok (one ▸ ran)]
          cases all : rest.mapM (member style types) with
          | error failure =>
              exact ⟨after, run_bind_error (all ▸ others), fun members done => by cases done⟩
          | ok members =>
              refine ⟨after, run_bind_ok (all ▸ others), fun both done => ?_⟩
              cases done
              exact (adds made one).memberNeeds_cons (more members all)

/-! ## The same from every state -/

/-- The computation gives one result, whatever has been gathered before. -/
def Always {α : Type} (computation : Gather α) (result : Except Failure α) : Prop :=
  ∀ before, (computation.run.run before).1 = result

section Always

variable {α β : Type} {computation : Gather α} {result : Except Failure α}

theorem Always.ofExcept (result : Except Failure α) :
    Always (MonadExcept.ofExcept result) result := by
  intro before
  cases result <;> rfl

theorem Always.bind {next : α → Gather β} {then_ : α → Except Failure β}
    (first : Always computation result) (second : ∀ value, Always (next value) (then_ value)) :
    Always (computation >>= next) (result >>= then_) := by
  intro before
  have ends := first before
  rw [run_bind]
  rw [ends]
  cases result with
  | error failure => rfl
  | ok value => exact second value _

theorem Always.mapM {one : α → Gather β} {each : α → Except Failure β}
    (same : ∀ item, Always (one item) (each item)) (items : List α) :
    Always (items.mapM one) (items.mapM each) := by
  induction items with
  | nil => exact fun before => rfl
  | cons item rest ih =>
      rw [List.mapM_cons, List.mapM_cons]
      exact (same item).bind fun _ => ih.bind fun _ => fun _ => rfl

end Always

theorem always_gatherObject (style : Style) (types : List NamedType) (name : String)
    (fields : List Field) :
    Always (gatherObject style types name fields) (objectUnit style types name fields) := by
  intro before
  obtain ⟨started, base, begins⟩ := run_addImports [("dataclasses", "dataclass")] {}
  obtain ⟨between, ran, adds⟩ := run_gatherMembers style types fields started
  -- The sets are emptied first, so that what was there before is gone.
  rw [gatherObject, objectUnit_eq, run_bind_ok (run_reset before), run_bind_ok base]
  cases all : fields.mapM (member style types) with
  | error failure => rw [run_bind_error (all ▸ ran)]; rfl
  | ok members =>
      rw [run_bind_ok (all ▸ ran)]
      have names : typeImports (between.types.filter (· != name)) =
          typeImports (objectNames types name fields) := by
        refine typeImports_congr fun other => ?_
        simp [objectNames, (adds members all).types, begins.types, memberNeeds]
      rw [run_bind_ok (run_discardType name between), run_get_bind, names]
      obtain ⟨after, checked, more⟩ := run_addImports
        (if (typeImports (objectNames types name fields)).isEmpty then []
          else [("typing", "TYPE_CHECKING")])
            { between with types := between.types.filter (· != name) }
      rw [run_bind_ok checked, run_get_bind]
      have pairs : ImportBlock.make after.imports [] =
          ImportBlock.make (objectPairs types name fields members) [] := by
        refine ImportBlock.make_congr (fun pair => ?_) []
        simp only [more.imports, (adds members all).imports, begins.imports,
          memberNeeds, objectPairs, List.mem_append, List.not_mem_nil, false_or]
        tauto
      rw [pairs]
      rfl

theorem always_gatherAlias (types : List NamedType) (name : String) (target : TypeExpr) :
    Always (gatherAlias types name target) (aliasUnit types name target) := by
  intro before
  obtain ⟨started, base, begins⟩ := run_addImports [("typing", "TypeAlias")] {}
  obtain ⟨after, ran, adds⟩ := run_translate types target started
  rw [gatherAlias, aliasUnit, run_bind_ok (run_reset before), run_bind_ok base]
  cases written : Language.python.typeText types target with
  | error failure => rw [run_bind_error (written ▸ ran)]; rfl
  | ok text =>
      rw [run_bind_ok (written ▸ ran), run_get_bind]
      have names : typeImports after.types = typeImports (referencedNames types [target]) := by
        refine typeImports_congr fun other => ?_
        simp [adds.types, begins.types]
      have pairs (imports : List Import) : ImportBlock.make after.imports imports =
          ImportBlock.make (("typing", "TypeAlias") :: anyImports [target]) imports := by
        refine ImportBlock.make_congr (fun pair => ?_) imports
        simp [adds.imports, begins.imports]
      rw [names, pairs]
      rfl

theorem always_gatherLines (style : Style) (types : List NamedType) (type : NamedType) :
    Always (gatherLines style types type) (typeLines style types type) := by
  unfold gatherLines typeLines
  cases type.body with
  | object synthesized fields =>
      exact (always_gatherObject style types type.name fields).bind fun _ _ => rfl
  | enumeration values => exact fun before => rfl
  | aliasOf target => exact (always_gatherAlias types type.name target).bind fun _ _ => rfl

end Python

/-- The text of the unit of a named type. -/
def renderType (style : Style) (types : List NamedType) (header : String) (type : NamedType) :
    Except Failure String := do
  let lines ←
    match style.language with
    | .python => Python.typeLines style types type
    | .kotlin => Kotlin.typeLines style types type
  return header ++ unlines lines

open Python (Always)

theorem always_renderNext (style : Style) (types : List NamedType) (header : String)
    (type : NamedType) :
    Always (renderNext style types header type) (renderType style types header type) := by
  unfold renderNext renderType
  cases style.language with
  | python => exact (Python.always_gatherLines style types type).bind fun _ _ => rfl
  | kotlin => exact (Always.ofExcept _).bind fun _ _ => rfl

/-- The units of a graph, each told from its type. -/
def unitsOf (style : Style) (graph : TypeGraph) (comment : String) :
    Except Failure (List OutputUnit) := do
  let header := style.header comment
  let typeUnits ← graph.types.mapM fun type => do
    return ({ name := type.name, body := ← renderType style graph.types header type } : OutputUnit)
  let shared ←
    if style.validations then do
      checkReserved graph.types
      sharedUnits style
    else pure []
  checkFiles style.language [] (typeUnits ++ shared)
  return typeUnits ++ shared

/-- **Units are told from their types.** Whatever has been gathered before, generating gives the
units of the types and the shared ones, or fails where one of them does. -/
theorem generateFrom_eq (gathered : Python.Gathered) (style : Style) (graph : TypeGraph)
    (comment : String) :
    generateFrom gathered style graph comment = unitsOf style graph comment := by
  have units (header : String) : Always
      (graph.types.mapM fun type => do
        return ({ name := type.name, body := ← renderNext style graph.types header type } :
          OutputUnit))
      (graph.types.mapM fun type => do
        return ({ name := type.name, body := ← renderType style graph.types header type } :
          OutputUnit)) :=
    Always.mapM (fun type => (always_renderNext style graph.types _ type).bind fun _ _ => rfl) _
  have files (units : List OutputUnit) : Always
      (do
        MonadExcept.ofExcept (checkFiles style.language [] units)
        return units)
      (do
        checkFiles style.language [] units
        return units) :=
    (Always.ofExcept _).bind fun _ _ => rfl
  unfold generateFrom generateNext unitsOf
  refine (units (style.header comment)).bind (fun typeUnits => ?_) gathered
  dsimp only
  split
  · exact (Always.ofExcept _).bind fun _ => (Always.ofExcept _).bind fun shared => files _
  · exact files _

theorem generate_eq (style : Style) (graph : TypeGraph) (comment : String) :
    generate style graph comment = unitsOf style graph comment :=
  generateFrom_eq {} style graph comment

end SchemaCompiler.Target
