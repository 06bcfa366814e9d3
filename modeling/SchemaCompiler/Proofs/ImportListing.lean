import SchemaCompiler.Proofs.Compilation
import SchemaCompiler.Proofs.PythonUnit

/-!
# Imports do not depend on the order of sets

The names of types that a unit refers to are gathered in a set, and so are its imports. A set can be
gone through in any order, and the order may change from run to run and from unit to unit
(`Enumeration`). Imports of one module are sorted by what is shown, so their order leaves no trace.
Imports of types are sorted by module only: names with one module would stay in the order of the
set. But then two units would be written to one file, which is refused later. So generating gives
the same units, or fails in the same way, whatever the orders are (`generateIn_eq`).
-/

namespace SchemaCompiler

namespace Target

open Schema (Failure Field NamedType TypeExpr TypeGraph map_eq_ok map_map)

/-! ## Orders of sets -/

/-- An order in which sets are gone through. The set is given by what was put into it. -/
structure Enumeration (α : Type) where
  list : List α → List α
  nodup : ∀ items, (list items).Nodup
  mem_list : ∀ items item, item ∈ list items ↔ item ∈ items

theorem Enumeration.perm {α : Type} (first second : Enumeration α) (items : List α) :
    (first.list items).Perm (second.list items) := by
  rw [List.perm_ext_iff_of_nodup (first.nodup items) (second.nodup items)]
  intro item
  rw [first.mem_list, second.mem_list]

/-- The orders of the two sets of a unit: the names that it refers to, and its pairs of modules and
names. -/
structure UnitOrder where
  names : Enumeration String
  pairs : Enumeration (String × String)

namespace Python

/-- Sorting by a key forgets the order, if different texts have different keys. -/
theorem mergeSort_eq_of_perm {key : String → String} {first second : List String}
    (perm : first.Perm second) (apart : ∀ a ∈ first, ∀ b ∈ first, key a = key b → a = b) :
    (first.mergeSort fun a b => textLe (key a) (key b)) = second.mergeSort fun a b =>
      textLe (key a) (key b) := by
  refine List.Perm.eq_of_pairwise ?_ (pairwise_mergeSort_by key first)
    (pairwise_mergeSort_by key second) ?_
  · intro a b inFirst inSecond le ge
    rw [List.mem_mergeSort] at inFirst inSecond
    exact apart a inFirst b (perm.mem_iff.mpr inSecond) (String.le_antisymm le ge)
  · exact (List.mergeSort_perm ..).trans (perm.trans (List.mergeSort_perm ..).symm)

/-- The imports of types from their own modules, as a set of their names is gone through. -/
def localImports (names : List String) : List Import :=
  (names.mergeSort fun a b => textLe (Naming.moduleName a) (Naming.moduleName b)).map fun name =>
    { module := "." ++ Naming.moduleName name, names := [name] }

/-- Types of which those with one module have one name. -/
def ModulesApart (types : List NamedType) : Prop :=
  ∀ first ∈ types, ∀ second ∈ types, Naming.moduleName first.name = Naming.moduleName second.name →
    first.name = second.name

section Units

variable (first second : UnitOrder) {style : Style} {types : List NamedType}

theorem localImports_congr (apart : ModulesApart types) {names : List String}
    (referenced : ∀ name ∈ names, ∃ type ∈ types, type.name = name) :
    localImports (first.names.list names) = localImports (second.names.list names) := by
  unfold localImports
  rw [mergeSort_eq_of_perm (first.names.perm second.names names)]
  intro a inNames b alsoInNames sameModule
  obtain ⟨one, isOne, rfl⟩ := referenced a ((first.names.mem_list _ _).mp inNames)
  obtain ⟨other, isOther, rfl⟩ := referenced b ((first.names.mem_list _ _).mp alsoInNames)
  exact apart one isOne other isOther sameModule

theorem exists_type_of_referenced {used : List TypeExpr} {name : String}
    (member : name ∈ referencedNames types used) : ∃ type ∈ types, type.name = name := by
  obtain ⟨_, _, target, found, rfl⟩ := mem_referencedNames.mp member
  exact ⟨target, mem_of_leafType? found, rfl⟩

/-! ## Units in some order -/

/-- The unit of an object whose sets are gone through in some order. -/
def objectUnitIn (order : UnitOrder) (style : Style) (types : List NamedType) (name : String)
    (fields : List Field) : Except Failure ObjectUnit :=
  (fields.mapM (member style types)).map fun members =>
    { className := name
      imports := ImportBlock.make (order.pairs.list (objectPairs types name fields members)) []
      typeImports := localImports (order.names.list (objectNames types name fields))
      members }

/-- The unit of an alias whose sets are gone through in some order. -/
def aliasUnitIn (order : UnitOrder) (types : List NamedType) (name : String) (target : TypeExpr) :
    Except Failure AliasUnit :=
  (Language.python.typeText types target).map fun text =>
    { className := name
      imports :=
        ImportBlock.make (order.pairs.list (("typing", "TypeAlias") :: anyImports [target]))
        (localImports (order.names.list (referencedNames types [target])))
      target := text }

/-- What is seen of the unit of a named type whose sets are gone through in some order. -/
def viewIn {α : Type} (ofObject : ObjectUnit → α) (ofValues : List String → α)
    (ofAlias : AliasUnit → α) (order : UnitOrder) (style : Style) (types : List NamedType)
    (type : NamedType) : Except Failure α :=
  match type.body with
  | .object _ fields => (objectUnitIn order style types type.name fields).map ofObject
  | .enumeration values => .ok (ofValues values)
  | .aliasOf target => (aliasUnitIn order types type.name target).map ofAlias

/-- The lines of a unit. -/
def typeLinesIn (order : UnitOrder) (style : Style) (types : List NamedType) (type : NamedType) :
    Except Failure (List String) :=
  viewIn ObjectUnit.lines (enumLines type.name) AliasUnit.lines order style types type

/-- The lines of a unit that are assembled from its sets. -/
def importLinesIn : UnitOrder → Style → List NamedType → NamedType → Except Failure (List String) :=
  viewIn (fun unit => unit.imports.lines ++ unit.typeImports.map Import.line) (fun _ => [])
    (·.imports.lines)

theorem objectUnitIn_congr (apart : ModulesApart types) (name : String) (fields : List Field) :
    objectUnitIn first style types name fields = objectUnitIn second style types name fields := by
  have imports : localImports (first.names.list (objectNames types name fields)) =
      localImports (second.names.list (objectNames types name fields)) :=
    localImports_congr first second apart fun _ member =>
      exists_type_of_referenced (List.mem_filter.mp member).1
  unfold objectUnitIn
  congr 1
  funext members
  rw [imports, ImportBlock.make_congr fun pair => (first.pairs.perm second.pairs _).mem_iff]

theorem aliasUnitIn_congr (apart : ModulesApart types) (name : String) (target : TypeExpr) :
    aliasUnitIn first types name target = aliasUnitIn second types name target := by
  have imports : localImports (first.names.list (referencedNames types [target])) =
      localImports (second.names.list (referencedNames types [target])) :=
    localImports_congr first second apart fun _ => exists_type_of_referenced
  unfold aliasUnitIn
  congr 1
  funext text
  rw [imports, ImportBlock.make_congr fun pair => (first.pairs.perm second.pairs _).mem_iff]

section View

variable {α : Type} {ofObject : ObjectUnit → α} {ofValues : List String → α}
    {ofAlias : AliasUnit → α}

theorem viewIn_congr (apart : ModulesApart types) (type : NamedType) :
    viewIn ofObject ofValues ofAlias first style types type =
      viewIn ofObject ofValues ofAlias second style types type := by
  unfold viewIn
  split
  · rw [objectUnitIn_congr first second apart]
  · rfl
  · rw [aliasUnitIn_congr first second apart]

/-- Whether a unit can be written, and why not, has nothing to do with orders, nor with what is
looked at. -/
theorem viewIn_fails_alike {β : Type} {toObject : ObjectUnit → β} {toValues : List String → β}
    {toAlias : AliasUnit → β} (type : NamedType) :
    (viewIn ofObject ofValues ofAlias first style types type).map (fun _ => ()) =
      (viewIn toObject toValues toAlias second style types type).map (fun _ => ()) := by
  unfold viewIn objectUnitIn aliasUnitIn
  split
  · simp only [map_map]
  · rfl
  · simp only [map_map]

end View

end Units

/-- The order in which sets are listed when a unit is written: sorted names, and pairs as they
came. -/
def writtenOrder : UnitOrder where
  names := ⟨sorted, fun _ => nodup_eraseDups _, fun _ _ => mem_sorted⟩
  pairs := ⟨List.eraseDups, nodup_eraseDups, fun _ _ => List.mem_eraseDups⟩

theorem typeLines_eq (style : Style) (types : List NamedType) (type : NamedType) :
    typeLines style types type = typeLinesIn writtenOrder style types type := by
  have pairs (imports : List (String × String)) (further : List Import) :
      ImportBlock.make imports further =
        ImportBlock.make (writtenOrder.pairs.list imports) further :=
    ImportBlock.make_congr (fun pair => (writtenOrder.pairs.mem_list imports pair).symm) further
  unfold typeLines typeLinesIn viewIn
  cases type.body with
  | object synthesized fields =>
      simp only [objectUnit_eq, objectUnitIn, pairs (objectPairs _ _ _ _)]
      rfl
  | enumeration values => rfl
  | aliasOf target =>
      unfold aliasUnit aliasUnitIn
      simp only [pairs (("typing", "TypeAlias") :: _)]
      cases Language.python.typeText types target <;> rfl

end Python

/-! ## Generating in some order -/

/-- The text of the unit of a named type whose sets are gone through in some order. Only Python has
sets. -/
def renderTypeIn (order : UnitOrder) (style : Style) (types : List NamedType) (header : String)
    (type : NamedType) : Except Failure String :=
  (match style.language with
    | .python => Python.typeLinesIn order style types type
    | .kotlin => Kotlin.typeLines style types type).map fun lines => header ++ unlines lines

/-- The unit of a type whose sets are gone through in the order that is its own. -/
def unitIn (orders : NamedType → UnitOrder) (style : Style) (graph : TypeGraph) (comment : String)
    (type : NamedType) : Except Failure OutputUnit :=
  (renderTypeIn (orders type) style graph.types (style.header comment) type).map fun body =>
    { name := type.name, body }

/-- The shared units of a graph, if there are any. -/
def sharedIn (style : Style) (graph : TypeGraph) : Except Failure (List OutputUnit) :=
  if style.validations then checkReserved graph.types >>= fun _ => sharedUnits style else .ok []

/-- The units of the types of a graph with the shared units behind them, unless they are refused. -/
def withShared (style : Style) (graph : TypeGraph) (ofTypes : List OutputUnit) :
    Except Failure (List OutputUnit) := do
  let shared ← sharedIn style graph
  checkFiles style.language [] (ofTypes ++ shared)
  return ofTypes ++ shared

/-- The units of a graph, where the sets of each unit are gone through in an order of their own. -/
def generateIn (orders : NamedType → UnitOrder) (style : Style) (graph : TypeGraph)
    (comment : String) :
    Except Failure (List OutputUnit) := do
  let ofTypes ← graph.types.mapM (unitIn orders style graph comment)
  withShared style graph ofTypes

theorem renderType_eq (style : Style) (types : List NamedType) (header : String)
    (type : NamedType) :
    renderType style types header type =
      renderTypeIn Python.writtenOrder style types header type := by
  unfold renderType renderTypeIn
  cases style.language with
  | python =>
      simp only [← Python.typeLines_eq]
      rfl
  | kotlin => rfl

/-- Generating is generating in the order in which sets are listed. -/
theorem generate_eq_generateIn (style : Style) (graph : TypeGraph) (comment : String) :
    generate style graph comment =
      generateIn (fun _ => Python.writtenOrder) style graph comment := by
  rw [generate_eq, unitsOf]
  unfold generateIn withShared sharedIn
  simp only [renderType_eq]
  cases style.validations with
  | false => rfl
  | true =>
      refine congrArg (Except.bind _) (funext fun ofTypes => ?_)
      cases checkReserved graph.types <;> rfl

/-- Units pass the check of their files, or fail it, by their names. -/
theorem checkFiles_congr {language : Language} {seen : List (String × String)}
    {units others : List OutputUnit} (same : units.map (·.name) = others.map (·.name)) :
    checkFiles language seen units = checkFiles language seen others := by
  induction units generalizing seen others with
  | nil => rw [List.map_eq_nil_iff.mp same.symm]
  | cons unit rest ih =>
      obtain ⟨other, more, rfl, named, restSame⟩ := List.map_eq_cons_iff.mp same.symm
      simp only [checkFiles, named, ih restSame.symm]

/-- What is read from a list in two ways looks alike where it does for each item. -/
theorem mapM_map_congr {ε α β γ δ : Type} {first : α → Except ε β} {second : α → Except ε γ}
    {look : β → δ} {other : γ → δ} {items : List α}
    (each : ∀ item, (first item).map look = (second item).map other) :
    (items.mapM first).map (List.map look) = (items.mapM second).map (List.map other) := by
  have cons {β : Type} (read : α → Except ε β) (look : β → δ) (item : α) (rest : List α) :
      ((item :: rest).mapM read).map (List.map look) = (do
        let value ← (read item).map look
        let values ← (rest.mapM read).map (List.map look)
        return value :: values) := by
    rw [List.mapM_cons]
    cases read item with
    | error failure => rfl
    | ok value => cases rest.mapM read <;> rfl
  induction items with
  | nil => rfl
  | cons item rest ih => rw [cons, cons, each, ih]

theorem withShared_congr {style : Style} {graph : TypeGraph} {units others : List OutputUnit}
    (names : units.map (·.name) = others.map (·.name))
    (same : (units.map (·.file style.language)).Nodup → units = others) :
    withShared style graph units = withShared style graph others := by
  unfold withShared
  cases sharedIn style graph with
  | error failure => rfl
  | ok shared =>
      have checked : checkFiles style.language [] (units ++ shared) =
          checkFiles style.language [] (others ++ shared) := checkFiles_congr (by simp [names])
      show (checkFiles style.language [] (units ++ shared) >>= fun _ =>
        Except.ok (units ++ shared)) =
        (checkFiles style.language [] (others ++ shared) >>= fun _ => Except.ok (others ++ shared))
      cases passed : checkFiles style.language [] (units ++ shared) with
      | error failure =>
          rw [← checked, passed]
          rfl
      | ok done =>
          have files := (checkFiles_eq_ok_iff.mp passed).1
          rw [List.map_append] at files
          rw [← checked, passed, same files.of_append_left]

section Orders

variable (first second : NamedType → UnitOrder) {style : Style} {graph : TypeGraph}
    {comment : String}

theorem unitIn_name_congr (type : NamedType) :
    (unitIn first style graph comment type).map (·.name) =
      (unitIn second style graph comment type).map (·.name) := by
  unfold unitIn renderTypeIn
  cases style.language with
  | python =>
      have alike : (Python.typeLinesIn (first type) style graph.types type).map (fun _ => ()) =
          (Python.typeLinesIn (second type) style graph.types type).map (fun _ => ()) :=
        Python.viewIn_fails_alike (first type) (second type) type
      simpa only [map_map] using congrArg (Except.map fun _ => type.name) alike
  | kotlin => rfl

theorem unitIn_congr (apart : style.language = .python → Python.ModulesApart graph.types)
    (type : NamedType) :
    unitIn first style graph comment type = unitIn second style graph comment type := by
  unfold unitIn renderTypeIn
  cases isLanguage : style.language with
  | python =>
      simp only [Python.typeLinesIn, Python.viewIn_congr (first type) (second type)
        (apart isLanguage)]
  | kotlin => rfl

/-- Types whose units are written to different files have different modules. -/
theorem modulesApart_of_files {types : List NamedType} {units : List OutputUnit}
    (named : List.Forall₂ (fun type unit => unit.name = type.name) types units)
    (files : (units.map (·.file .python)).Nodup) : Python.ModulesApart types := by
  have ofTypes : units.map (·.file .python) = types.map fun type =>
      Language.python.fileName type.name := by
    clear files
    induction named with
    | nil => rfl
    | cons same _ ih => rw [List.map_cons, List.map_cons, ih, OutputUnit.file, same]
  rw [ofTypes] at files
  intro one isOne other isOther sameModule
  have sameFile : Language.python.fileName one.name = Language.python.fileName other.name :=
    congrArg (· ++ ".py") sameModule
  rw [List.inj_on_of_nodup_map files isOne isOther sameFile]

theorem name_unitIn {orders : NamedType → UnitOrder} {type : NamedType} {unit : OutputUnit}
    (made : unitIn orders style graph comment type = .ok unit) : unit.name = type.name := by
  obtain ⟨body, _, rfl⟩ := map_eq_ok made
  rfl

/-- Units are generated alike, and refused alike, in whatever orders their sets are gone through. -/
theorem generateIn_eq :
    generateIn first style graph comment = generateIn second style graph comment := by
  have names : (graph.types.mapM (unitIn first style graph comment)).map (List.map (·.name)) =
      (graph.types.mapM (unitIn second style graph comment)).map (List.map (·.name)) :=
    mapM_map_congr (unitIn_name_congr first second)
  unfold generateIn
  cases ofFirst : graph.types.mapM (unitIn first style graph comment) with
  | error failure =>
      cases ofSecond : graph.types.mapM (unitIn second style graph comment) with
      | error other =>
          rw [ofFirst, ofSecond] at names
          cases names
          rfl
      | ok others =>
          rw [ofFirst, ofSecond] at names
          cases names
  | ok units =>
      cases ofSecond : graph.types.mapM (unitIn second style graph comment) with
      | error other =>
          rw [ofFirst, ofSecond] at names
          cases names
      | ok others =>
          rw [ofFirst, ofSecond] at names
          -- where the files of the units are different, so are the modules of the types
          refine withShared_congr (Except.ok.inj names) fun files => ?_
          have apart (python : style.language = .python) : Python.ModulesApart graph.types := by
            rw [python] at files
            exact modulesApart_of_files ((forall₂_of_mapM_eq_ok ofFirst).imp fun _ _ => name_unitIn)
              files
          have each : unitIn first style graph comment = unitIn second style graph comment :=
            funext (unitIn_congr first second apart)
          rw [each, ofSecond] at ofFirst
          exact (Except.ok.inj ofFirst).symm

end Orders

/-- The units of a package all have their lines of imports, in whatever order their sets are gone
through. -/
theorem Generated.importLines {style : Style} {graph : TypeGraph} {comment : String}
    {ofTypes shared : List OutputUnit} (generated : Generated style graph comment ofTypes shared)
    (python : style.language = .python) {type : NamedType} (member : type ∈ graph.types) :
    ∃ lines, ∀ order, Python.importLinesIn order style graph.types type = .ok lines := by
  have files := generated.files
  rw [python, List.map_append] at files
  have apart := modulesApart_of_files
    (generated.rendered.imp fun _ _ ⟨_, _, made⟩ => by rw [made]) files.of_append_left
  obtain ⟨unit, _, body, rendered, _⟩ := exists_right_of_mem generated.rendered member
  rw [renderType_eq, renderTypeIn, python] at rendered
  obtain ⟨text, written, _⟩ := map_eq_ok rendered
  have looked : (Python.importLinesIn Python.writtenOrder style graph.types type).map
      (fun _ => ()) =
      (Python.typeLinesIn Python.writtenOrder style graph.types type).map (fun _ => ()) :=
    Python.viewIn_fails_alike _ _ type
  rw [show Python.typeLinesIn Python.writtenOrder style graph.types type =
    .ok text from written] at looked
  obtain ⟨lines, assembled, _⟩ := map_eq_ok looked
  exact ⟨lines, fun order =>
    (Python.viewIn_congr order Python.writtenOrder apart type).trans assembled⟩

end Target

namespace Compiler

open Schema (Logged NamedType)
open Target (Enumeration OutputUnit UnitOrder)
open Target.Python (importLinesIn objectNames)

/-- The units of a document, where the sets of each unit are gone through in an order of their
own. -/
def generateIn (orders : NamedType → UnitOrder) (compiler : Compiler) (name : String)
    (root : Option Document.Node) : Logged (List OutputUnit) := do
  let graph ← compiler.compile name root
  let style := compiler.settings.style compiler.language
  let units ← within name
    (Logged.ofExcept (Target.generateIn orders style graph (compiler.comment name)))
  Logged.note (.generated name units.length)
  return units

/-- **Output does not depend on the order of sets.** Generating the units of a document gives the
same units, the same failure and the same log, in whatever orders the sets of each unit are gone
through. If units of Python are generated, the lines of their imports are the same as well. -/
theorem generate_independent_of_set_orders (compiler : Compiler) (name : String)
    (root : Option Document.Node) :
    (∀ orders, compiler.generateIn orders name root = compiler.generate name root) ∧
    ∀ units, compiler.language = .python → (compiler.generate name root).outcome.1 = .ok units →
      ∃ graph, (compiler.compile name root).outcome.1 = .ok graph ∧
        ∀ type ∈ graph.types, ∃ lines, ∀ order,
          importLinesIn order (compiler.settings.style .python) graph.types type = .ok lines := by
  refine ⟨fun orders => ?_, fun units python done => ?_⟩
  · unfold generateIn generate generateFrom
    simp only [Target.generateFrom_eq, ← Target.generate_eq, Target.generate_eq_generateIn,
      Target.generateIn_eq orders fun _ => Target.Python.writtenOrder]
  · obtain ⟨graph, ofTypes, shared, compiles, rfl, generated⟩ := generate_eq_ok done
    rw [python] at generated
    exact ⟨graph, compiles, fun type member => generated.importLines rfl member⟩

/-- The order that is opposite to the one in which members came. -/
def backwards {α : Type} [BEq α] [LawfulBEq α] : Enumeration α where
  list items := items.eraseDups.reverse
  nodup items := List.nodup_reverse.mpr (nodup_eraseDups items)
  mem_list items item := by rw [List.mem_reverse, List.mem_eraseDups]

/-- Trips from a station by a train. -/
def trips : Document.Node :=
  .mapping 1 [("trips", .mapping 1 [
    ("trip", .mapping 2 [("type", .scalar 2 (.text "object")), ("properties", .mapping 3 [
      ("start", .mapping 3 [("type", .scalar 3 (.text "station"))]),
      ("by", .mapping 4 [("type", .scalar 4 (.text "train"))])])]),
    ("station", .mapping 5 [("type", .scalar 5 (.text "string"))]),
    ("train", .mapping 6 [("type", .scalar 6 (.text "integer"))])])]

def tripCompiler : Compiler :=
  { settings := { schemasPath := some (.list [.text "trips"]) }, language := .python }

/-- A trip refers to two types, so that their order could be seen. -/
theorem trips_independent_of_set_orders :
    ∃ units graph, (tripCompiler.generate "trips" (some trips)).outcome.1 = .ok units ∧
      (tripCompiler.generateIn (fun _ => ⟨backwards, backwards⟩) "trips" (some trips)).outcome.1 =
        .ok units ∧
      (tripCompiler.compile "trips" (some trips)).outcome.1 = .ok graph ∧
      graph.types.map (fun type => objectNames graph.types type.name type.fields) =
        [["Station", "Train"], [], []] ∧
      ∀ type ∈ graph.types, ∃ lines, ∀ order,
        importLinesIn order (tripCompiler.settings.style .python) graph.types type = .ok lines := by
  have succeeds : (tripCompiler.generate "trips" (some trips)).outcome.1.toOption.isSome =
      true := by
    decide +kernel
  have names : (tripCompiler.compile "trips" (some trips)).outcome.1.toOption.map
      (fun graph => graph.types.map fun type => objectNames graph.types type.name type.fields) =
      some [["Station", "Train"], [], []] := by decide +kernel
  obtain ⟨units, found⟩ := Option.isSome_iff_exists.mp succeeds
  have done := Schema.eq_ok_of_toOption found
  obtain ⟨same, imports⟩ := generate_independent_of_set_orders tripCompiler "trips" (some trips)
  obtain ⟨graph, compiles, lines⟩ := imports units rfl done
  refine ⟨units, graph, done, ?_, compiles, ?_, lines⟩
  · rw [same]
    exact done
  · rw [compiles] at names
    exact Option.some.inj names

end Compiler

end SchemaCompiler
