import Mathlib.Data.List.TakeWhile
import SchemaCompiler.Proofs.CompiledGraph
import SchemaCompiler.Proofs.Generation
import SchemaCompiler.Proofs.ImportReading

/-!
# What Python units import

The imports of a unit are collected from the types it uses, grouped by module and sorted. Here they
are followed from the types to the text: the unit of a type is written from a few parts (`Written`),
and what is read off its text is what these say (`mem_importsOf_written`).
-/

namespace SchemaCompiler.Target.Python

open Schema (Field NamedType TypeExpr bind_eq_ok map_eq_ok)

/-! ## Sorting and grouping -/

/-- Grouping by module keeps the imports. -/
theorem mem_imported_groupImports {imports : List (String × String)} {guarded : Bool}
    {item : ImportedName} :
    item ∈ (groupImports imports).flatMap (Import.imported guarded) ↔
      ∃ pair ∈ imports, item = importedAs guarded pair.1 pair.2 := by
  constructor
  · intro member
    obtain ⟨group, isGroup, here⟩ := List.mem_flatMap.mp member
    obtain ⟨module, _, rfl⟩ := List.mem_map.mp isGroup
    obtain ⟨name, isName, rfl⟩ := List.mem_map.mp here
    rw [mem_sorted] at isName
    obtain ⟨pair, inGroup, rfl⟩ := List.mem_map.mp isName
    obtain ⟨isImport, same⟩ := List.mem_filter.mp inGroup
    cases beq_iff_eq.mp same
    exact ⟨pair, isImport, rfl⟩
  · rintro ⟨pair, isImport, rfl⟩
    have isModule := mem_sorted.mpr (List.mem_map_of_mem (f := (·.1)) isImport)
    refine List.mem_flatMap.mpr ⟨_, List.mem_map_of_mem isModule, List.mem_map_of_mem ?_⟩
    rw [mem_sorted]
    exact List.mem_map_of_mem (List.mem_filter.mpr ⟨isImport, by simp⟩)

/-- Modules and names of which imports can be read. -/
def ReadablePair (pair : String × String) : Prop :=
  ' ' ∉ pair.1.toList ∧ ',' ∉ pair.2.toList ∧ SingleLine pair.1 ∧ SingleLine pair.2

instance (pair : String × String) : Decidable (ReadablePair pair) :=
  inferInstanceAs (Decidable (_ ∧ _ ∧ _ ∧ _))

theorem Import.readable {item : Import} (names : item.names ≠ [])
    (pairs : ∀ name ∈ item.names, ReadablePair (item.module, name)) : item.Readable := by
  obtain ⟨first, rest, isFirst⟩ := List.exists_cons_of_ne_nil names
  obtain ⟨module, _, moduleLine, _⟩ := pairs first (by simp [isFirst])
  have namesLine : SingleLine (", ".intercalate item.names) :=
    SingleLine.intercalate (by decide) fun name member => (pairs name member).2.2.2
  refine ⟨module, names, fun name member => (pairs name member).2.1, ?_⟩
  exact (SingleLine.between (by decide) moduleLine (by decide)).append namesLine

theorem groupImports_readable {imports : List (String × String)}
    (pairs : ∀ pair ∈ imports, ReadablePair pair) :
    ∀ item ∈ groupImports imports, item.Readable := by
  intro item member
  obtain ⟨module, isModule, rfl⟩ := List.mem_map.mp member
  rw [mem_sorted] at isModule
  obtain ⟨⟨_, name⟩, isPair, rfl⟩ := List.mem_map.mp isModule
  refine Import.readable ?_ ?_
  · refine List.ne_nil_of_mem (a := name) ?_
    rw [mem_sorted]
    exact List.mem_map.mpr ⟨_, List.mem_filter.mpr ⟨isPair, by simp⟩, rfl⟩
  · intro name isName
    rw [mem_sorted] at isName
    obtain ⟨⟨module, _⟩, inGroup, rfl⟩ := List.mem_map.mp isName
    obtain ⟨isImport, same⟩ := List.mem_filter.mp inGroup
    cases beq_iff_eq.mp same
    exact pairs _ isImport

/-! ## Imports of types -/

/-- The import of a type from its own module. -/
def typeImport (guarded : Bool) (name : String) : ImportedName :=
  { module := "." ++ Naming.moduleName name, name, binding := name, guarded }

theorem readItem_plain {name : String} (plain : Naming.IsPlain name) :
    readItem name.toList = (name, name) := by
  have spaceless := ne_space_of_plain plain
  have start : name.toList.dropWhile (· == ' ') = name.toList := by
    refine dropWhile_space fun space => ?_
    exact spaceless ' ' (List.mem_of_head? space) rfl
  have all : name.toList.takeWhile (· != ' ') = name.toList := by
    rw [List.takeWhile_eq_self_iff]
    simpa using spaceless
  have none : name.toList.dropWhile (· != ' ') = [] := by
    rw [List.dropWhile_eq_nil_iff]
    simpa using spaceless
  unfold readItem
  dsimp only
  rw [start, all, none, after?_eq_none (by decide), Option.getD_none, String.ofList_toList]

theorem importedAs_plain {name : String} (plain : Naming.IsPlain name) (guarded : Bool)
    (module : String) :
    importedAs guarded module name = { module, name, binding := name, guarded } := by
  rw [importedAs, readItem_plain plain]

theorem typeImports_nil : typeImports [] = [] := by simp [typeImports, sorted]

section TypeImports

variable {names : List String} (plain : ∀ name ∈ names, Naming.IsPlain name)
include plain

theorem readablePair_type {name : String} (member : name ∈ names) :
    ReadablePair ("." ++ Naming.moduleName name, name) := by
  have inModule := Naming.moduleName_plain name
  refine ⟨?_, ?_, SingleLine.append (by decide) (singleLine_of_plain inModule),
    singleLine_of_plain (plain name member)⟩
  · simpa using fun space => ne_space_of_plain inModule ' ' space rfl
  · intro comma
    exact absurd (plain name member ',' comma) (by decide)

theorem typeImports_readable : ∀ item ∈ typeImports names, item.Readable := by
  intro item member
  obtain ⟨name, isName, rfl⟩ := List.mem_map.mp member
  rw [List.mem_mergeSort, mem_sorted] at isName
  refine Import.readable (by simp) ?_
  rw [List.forall_mem_singleton]
  exact readablePair_type plain isName

/-- Each type is imported once. -/
theorem imported_typeImports (guarded : Bool) :
    ∃ order : List String, order.Perm (sorted names) ∧
      (typeImports names).flatMap (Import.imported guarded) = order.map (typeImport guarded) := by
  let inOrder := (sorted names).mergeSort fun a b =>
    textLe (Naming.moduleName a) (Naming.moduleName b)
  refine ⟨inOrder, List.mergeSort_perm .., ?_⟩
  rw [typeImports, List.flatMap_map]
  show inOrder.flatMap (fun name => [importedAs guarded ("." ++ Naming.moduleName name) name]) = _
  rw [← List.map_eq_flatMap]
  refine List.map_congr_left fun name member => ?_
  rw [List.mem_mergeSort, mem_sorted] at member
  exact importedAs_plain (plain name member) guarded _

theorem mem_imported_typeImports (guarded : Bool) {item : ImportedName} :
    item ∈ (typeImports names).flatMap (Import.imported guarded) ↔
      ∃ name ∈ names, item = typeImport guarded name := by
  obtain ⟨order, perm, imported⟩ := imported_typeImports plain guarded
  simp only [imported, List.mem_map, perm.mem_iff, mem_sorted, eq_comm]

end TypeImports

/-! ## Blocks of imports -/

section Block

variable {imports : List (String × String)} {types : List Import}

theorem make_readable (pairs : ∀ pair ∈ imports, ReadablePair pair)
    (readable : ∀ item ∈ types, item.Readable) :
    ∀ item ∈ (ImportBlock.make imports types).standard ++ (ImportBlock.make imports types).package,
      item.Readable := by
  have groups := groupImports_readable pairs
  unfold ImportBlock.make
  simp only [List.forall_mem_append]
  refine ⟨?_, ?_, readable⟩
  · exact fun item member => groups item (List.mem_of_mem_filter member)
  · exact fun item member => groups item (List.mem_of_mem_filter member)

/-- A block has the imports that it was made from. -/
theorem mem_imported_make {item : ImportedName} :
    item ∈ ((ImportBlock.make imports types).standard ++
        (ImportBlock.make imports types).package).flatMap
        (Import.imported false) ↔
      (∃ pair ∈ imports, item = importedAs false pair.1 pair.2) ∨
        item ∈ types.flatMap (Import.imported false) := by
  rw [← mem_imported_groupImports]
  unfold ImportBlock.make
  simp only [List.flatMap_append, List.mem_append, List.mem_flatMap, List.mem_filter]
  constructor
  · rintro (⟨group, ⟨isGroup, _⟩, here⟩ | ⟨group, ⟨isGroup, _⟩, here⟩ | further)
    · exact .inl ⟨group, isGroup, here⟩
    · exact .inl ⟨group, isGroup, here⟩
    · exact .inr further
  · rintro (⟨group, isGroup, here⟩ | further)
    · cases isLocal : isLocalModule group.module with
      | false => exact .inl ⟨group, ⟨isGroup, by simp [isLocal]⟩, here⟩
      | true => exact .inr (.inl ⟨group, ⟨isGroup, isLocal⟩, here⟩)
    · exact .inr (.inr further)

end Block

/-! ## Members -/

theorem memberName_plain {name : String} (plain : Naming.IsPlain name) :
    Naming.IsPlain (Language.python.memberName name) := by
  unfold Language.memberName
  split
  · intro c member
    rw [String.toList_append, List.mem_append] at member
    rcases member with inName | underscore
    · exact plain c inName
    · exact .inr (by simpa using underscore)
  · exact plain

theorem member_eq_ok {style : Style} {types : List NamedType} {field : Field} {made : Member}
    (done : member style types field = .ok made) :
    ∃ type directives, Language.python.typeText types field.type = .ok type ∧
      style.directives field = .ok directives ∧
      made =
        { name := Language.python.memberName field.name, type,
          optional := field.optional, directives } := by
  obtain ⟨type, isType, done⟩ := bind_eq_ok done
  obtain ⟨directives, areDirectives, done⟩ := bind_eq_ok done
  cases done
  exact ⟨type, directives, isType, areDirectives, rfl⟩

theorem singleLine_directives {style : Style} {field : Field} (conventional : field.Conventional)
    {directives : List String} (done : style.directives field = .ok directives) :
    ∀ directive ∈ directives, SingleLine directive := by
  unfold Style.directives at done
  split at done
  · intro text member
    obtain ⟨directive, isDirective, written⟩ :=
      exists_left_of_mem (forall₂_of_mapM_eq_ok done) member
    exact singleLine_directiveText (conventional.constraints directive isDirective) written
  · cases done
    simp

theorem Member.singleLine_line {made : Member} (name : SingleLine made.name)
    (type : SingleLine made.type)
    (directives : ∀ directive ∈ made.directives, SingleLine directive) : SingleLine made.line := by
  have declaration : SingleLine
      (made.name ++ ": " ++ made.type ++ (if made.optional then " | None" else "")) := by
    refine (name.between (by decide) type).append ?_
    split <;> decide
  have metadata : SingleLine ("_constrained(" ++ ", ".intercalate made.directives ++ ")") :=
    .between (by decide) (.intercalate (by decide) directives) (by decide)
  have initial : ∀ value ∈ made.initial?, SingleLine value := by
    unfold Member.initial?
    dsimp only
    split
    · split
      · rintro _ ⟨⟩
        exact .between (by decide) metadata (by decide)
      · rintro _ ⟨⟩
        exact .between (by decide) metadata (by decide)
    · split
      · rintro _ ⟨⟩
        decide
      · simp
  unfold Member.line
  dsimp only
  split
  next value isValue => exact declaration.between (by decide) (initial value isValue)
  next => exact declaration

/-- The line of a member starts with its name and a colon. -/
theorem Member.toList_line (made : Member) :
    ∃ rest, made.line.toList = made.name.toList ++ ':' :: rest := by
  unfold Member.line
  dsimp only
  split <;> simp

/-- The lines of members import nothing. -/
theorem member_line {style : Style} {types : List NamedType}
    (plain : ∀ type ∈ types, Naming.IsPlain type.name) {field : Field}
    (conventional : field.Conventional) {made : Member}
    (done : member style types field = .ok made) :
    SingleLine ("    " ++ made.line) ∧ Quiet ("    " ++ made.line).toList := by
  obtain ⟨type, directives, isType, areDirectives, rfl⟩ := member_eq_ok done
  have name : Naming.IsPlain (Language.python.memberName field.name) := by
    refine memberName_plain ?_
    rw [conventional.name]
    exact Naming.fieldName_plain _
  constructor
  · exact SingleLine.append (by decide) (Member.singleLine_line (singleLine_of_plain name)
      (singleLine_typeText plain isType) (singleLine_directives conventional areDirectives))
  · obtain ⟨rest, written⟩ := Member.toList_line
      { name := Language.python.memberName field.name, type,
        optional := field.optional, directives }
    exact (quiet_named name written).2

/-! ## Units of types -/

/-- The named type that a type ends in, inside all arrays. -/
def leafType? (types : List NamedType) (type : TypeExpr) : Option NamedType :=
  type.leafId?.bind fun id => types[id]?

theorem mem_of_leafType? {types : List NamedType} {type : TypeExpr} {target : NamedType}
    (found : leafType? types type = some target) : target ∈ types := by
  obtain ⟨id, _, here⟩ := Option.bind_eq_some_iff.mp found
  exact List.mem_of_getElem? here

theorem mem_referencedNames {types : List NamedType} {used : List TypeExpr} {name : String} :
    name ∈ referencedNames types used ↔
      ∃ type ∈ used, ∃ target, leafType? types type = some target ∧ target.name = name := by
  simp only [referencedNames, List.mem_filterMap, Option.map_eq_some_iff]
  rfl

/-- The names of the types that a unit imports at run time: what an alias ends in. -/
def runTimeNames (types : List NamedType) (type : NamedType) : List String :=
  referencedNames types type.target?.toList

/-- The names of the types that a unit imports for type checkers: what the fields of an object end
in, without the object itself. -/
def checkedNames (types : List NamedType) (type : NamedType) : List String :=
  (referencedNames types (type.fields.map (·.type))).filter (· != type.name)

/-- Does a type use one without limits? -/
def UsesAny (type : NamedType) : Prop := ∃ use ∈ type.uses, use.2.leaf = .any

/-- Is a directive written for a field of the type? -/
def HasDirective (style : Style) (type : NamedType) : Prop :=
  ∃ field ∈ type.fields, ∃ directives, style.directives field = .ok directives ∧ directives ≠ []

/-- What units import besides types, limits aside: the parts of dataclasses, enumerations and
aliases. -/
def ownPairs : List (String × String) :=
  [("dataclasses", "dataclass"), ("typing", "TYPE_CHECKING"), ("enum", "Enum"),
    ("typing", "TypeAlias")]

/-- The lines of the unit of a type, given what it imports besides types and the lines behind its
imports. -/
def typeUnitLines (types : List NamedType) (type : NamedType) (pairs : List (String × String))
    (rest : List String) : List String :=
  unitLines (ImportBlock.make pairs (typeImports (runTimeNames types type)))
    (typeImports (checkedNames types type)) rest

/-- What the unit of a type is written from: the pairs of modules and names that it imports, and the
lines behind its imports. -/
structure Written (style : Style) (type : NamedType) (pairs : List (String × String))
    (rest : List String) :
    Prop where
  known : ∀ pair ∈ pairs, pair ∈ ("typing", "Any") :: markerImports ++ ownPairs
  any : ("typing", "Any") ∈ pairs ↔ UsesAny type
  markers : ∀ pair ∈ markerImports, (pair ∈ pairs ↔ HasDirective style type)
  others : ∀ line ∈ rest, SingleLine line ∧ Quiet line.toList
  defines : ∃ line ∈ rest, definedBy? line.toList = some type.name

theorem mem_anyImports {used : List TypeExpr} {pair : String × String} :
    pair ∈ anyImports used ↔ pair = ("typing", "Any") ∧ ∃ type ∈ used, type.leaf = .any := by
  unfold anyImports
  split
  next found =>
    have found : ∃ type ∈ used, type.leaf = .any := by simpa using found
    simp [found]
  next missing =>
    have missing : ¬∃ type ∈ used, type.leaf = .any := by simpa using missing
    simp [missing]

theorem ownPairs_apart : ∀ pair ∈ ownPairs, pair ≠ ("typing", "Any") ∧ pair ∉ markerImports :=
  by decide

theorem any_not_marker : ("typing", "Any") ∉ markerImports := by decide

/-- The pairs of a unit are its own, what a type without limits needs, and the markers. -/
theorem Written.of_parts {style : Style} {type : NamedType} (own further : List (String × String))
    {marked : Bool} (rest : List String) (isOwn : ∀ pair ∈ own ++ further, pair ∈ ownPairs)
    (isMarked : marked = true ↔ HasDirective style type)
    (others : ∀ line ∈ rest, SingleLine line ∧ Quiet line.toList)
    (defines : ∃ line ∈ rest, definedBy? line.toList = some type.name) :
    Written style type
      (own ++ anyImports (type.uses.map (·.2)) ++ (if marked then markerImports else []) ++ further)
        rest := by
  have split (pair : String × String) :
      pair ∈ own ++ anyImports (type.uses.map (·.2)) ++
        (if marked then markerImports else []) ++ further ↔
        pair ∈ own ++ further ∨ (pair = ("typing", "Any") ∧ UsesAny type) ∨
          (pair ∈ markerImports ∧ HasDirective style type) := by
    have limits : (∃ used ∈ type.uses.map (·.2), used.leaf = .any) ↔ UsesAny type := by
      simp only [UsesAny, List.mem_map, exists_exists_and_eq_and]
    have marks : pair ∈ (if marked then markerImports else []) ↔
        pair ∈ markerImports ∧ HasDirective style type := by
      rw [← isMarked]
      split <;> simp_all
    rw [List.mem_append, List.mem_append, List.mem_append, mem_anyImports, limits, marks,
      List.mem_append]
    grind
  -- the three sources of pairs have nothing in common, so a pair tells where it comes from
  refine ⟨?_, ?_, ?_, others, defines⟩
  · intro pair member
    rw [List.mem_append, List.mem_cons]
    rcases (split pair).mp member with mine | ⟨isAny, _⟩ | ⟨marker, _⟩
    · exact .inr (isOwn pair mine)
    · exact .inl (.inl isAny)
    · exact .inl (.inr marker)
  · rw [split]
    constructor
    · rintro (mine | ⟨_, uses⟩ | ⟨marker, _⟩)
      · exact absurd rfl (ownPairs_apart _ (isOwn _ mine)).1
      · exact uses
      · exact absurd marker any_not_marker
    · exact fun uses => .inr (.inl ⟨rfl, uses⟩)
  · intro pair marker
    rw [split]
    constructor
    · rintro (mine | ⟨rfl, _⟩ | ⟨_, has⟩)
      · exact absurd marker (ownPairs_apart _ (isOwn _ mine)).2
      · exact absurd marker any_not_marker
      · exact has
    · exact fun has => .inr (.inr ⟨marker, has⟩)

theorem Written.readable_pairs {style : Style} {type : NamedType} {pairs : List (String × String)}
    {rest : List String} (written : Written style type pairs rest) :
    ∀ pair ∈ pairs, ReadablePair pair := by
  have all : ∀ pair ∈ ("typing", "Any") :: markerImports ++ ownPairs, ReadablePair pair := by decide
  exact fun pair member => all pair (written.known pair member)

/-- The line of a class imports nothing and defines its name. -/
theorem class_line {name : String} (plain : Naming.IsPlain name) (rest : String) {c : Char}
    (starts : rest.toList.head? = some c) (ends : isNameChar c = false) (single : SingleLine rest) :
    (SingleLine ("class " ++ name ++ rest) ∧ Quiet ("class " ++ name ++ rest).toList) ∧
      definedBy? ("class " ++ name ++ rest).toList = some name := by
  have written : ("class " ++ name ++ rest).toList =
      "class ".toList ++ (name.toList ++ rest.toList) := by
    simp
  refine ⟨⟨.between (by decide) (singleLine_of_plain plain) single, ?_⟩, ?_⟩
  · exact quiet_of_head (c := 'c') (by simp) (by decide) (by decide) (by decide)
  · obtain ⟨others, isRest⟩ : ∃ others, rest.toList = c :: others := by
      cases characters : rest.toList with
      | nil => simp [characters] at starts
      | cons d others => exact ⟨others, by simp_all⟩
    rw [written, isRest]
    exact definedBy?_class plain ends others

theorem any_directives_iff {style : Style} {types : List NamedType} {fields : List Field}
    {members : List Member}
    (made : List.Forall₂ (fun field one => member style types field = .ok one) fields members) :
    members.any (!·.directives.isEmpty) = true ↔
      ∃ field ∈ fields, ∃ directives, style.directives field = .ok directives ∧
        directives ≠ [] := by
  induction made with
  | nil => simp
  | cons first _ ih =>
      obtain ⟨type, directives, _, areDirectives, rfl⟩ := member_eq_ok first
      rw [List.any_cons, Bool.or_eq_true, ih]
      simp [areDirectives]

/-- The line of a constant imports nothing. -/
theorem constant_line {text : String} (nonempty : Naming.enumConstant text ≠ "") {literal : String}
    (single : SingleLine literal) :
    SingleLine ("    " ++ (Naming.enumConstant text ++ " = " ++ literal)) ∧
      Quiet ("    " ++ (Naming.enumConstant text ++ " = " ++ literal)).toList := by
  obtain ⟨plain, capitals⟩ := Naming.enumConstant_plain text
  obtain ⟨c, rest, characters⟩ : ∃ c rest, (Naming.enumConstant text).toList = c :: rest :=
    List.exists_cons_of_ne_nil (by simpa using nonempty)
  have line : (Naming.enumConstant text ++ " = " ++ literal).toList =
      c :: (rest ++ " = ".toList ++ literal.toList) := by simp [characters]
  constructor
  · exact .append (by decide) ((singleLine_of_plain plain).between (by decide) single)
  · refine quiet_indented ?_ ?_
    · have noSpace := ne_space_of_plain plain c (by simp [characters])
      simpa [line] using noSpace
    · rw [line]
      -- constants have no small letters, so none starts like an import
      intro starts
      have isLetter : 'f' = c := (List.cons_prefix_cons.mp starts).1
      have capital := capitals c (by simp [characters])
      rw [← isLetter] at capital
      exact absurd capital (by decide)

theorem enum_written (style : Style) (types : List NamedType) {type : NamedType}
    (conventional : type.Conventional) {values : List String}
    (isEnum : type.body = .enumeration values) :
    ∃ pairs rest, Written style type pairs rest ∧
      enumLines type.name values = typeUnitLines types type pairs rest := by
  have noFields : type.fields = [] := by rw [NamedType.fields, isEnum]
  have noneChecked : checkedNames types type = [] := by rw [checkedNames, noFields]; rfl
  have noTarget : runTimeNames types type =
    [] := by rw [runTimeNames, NamedType.target?, isEnum]; rfl
  have noUses : type.uses = [] := by rw [NamedType.uses, isEnum]
  have unmarked : false = true ↔ HasDirective style type := by simp [HasDirective, noFields]
  have classLine := class_line conventional.name "(str, Enum):" rfl (by decide) (by decide)
  -- the unit has its import written out, as the block with this pair has it
  have block : (ImportBlock.make [("enum", "Enum")] []).lines = ["from enum import Enum"] := by
    decide +kernel
  let literal := Language.python.literals.literal
  let rest := ["", "", "class " ++ type.name ++ "(str, Enum):"] ++
    indented (values.map fun value => value ++ " = " ++ literal value)
  refine ⟨_, rest, Written.of_parts [("enum", "Enum")] [] rest (by decide) unmarked ?_ ?_, ?_⟩
  · rw [List.forall_mem_append, indented, List.forall_mem_map, List.forall_mem_map]
    constructor
    · simp only [List.forall_mem_cons]
      exact ⟨by decide, by decide, classLine.1, by simp⟩
    · intro value isValue
      obtain ⟨nonempty, text, rfl⟩ := conventional.constants values isEnum value isValue
      exact constant_line nonempty (singleLine_literal .python _)
  · exact ⟨_, by simp [rest], classLine.2⟩
  · rw [typeUnitLines, noTarget, noneChecked, typeImports_nil, noUses]
    show _ = ["from __future__ import annotations", ""] ++
      (ImportBlock.make [("enum", "Enum")] []).lines ++ [] ++ _
    rw [block]
    rfl

section Types

variable {style : Style} {types : List NamedType} (plain : ∀ type ∈ types, Naming.IsPlain type.name)
include plain

theorem object_written {type : NamedType} (conventional : type.Conventional) {synthesized : Bool}
    {fields : List Field} (isObject : type.body = .object synthesized fields) {unit : ObjectUnit}
    (done : objectUnit style types type.name fields = .ok unit) :
    ∃ pairs rest, Written style type pairs rest ∧
      unit.lines = typeUnitLines types type pairs rest := by
  have areFields : type.fields = fields := by rw [NamedType.fields, isObject]
  have noTarget : runTimeNames types type =
    [] := by rw [runTimeNames, NamedType.target?, isObject]; rfl
  have uses : type.uses.map (·.2) = fields.map (·.type) := by
    rw [NamedType.uses, isObject, List.map_map]
    rfl
  obtain ⟨members, made, done⟩ := bind_eq_ok done
  cases done
  have made := forall₂_of_mapM_eq_ok made
  have marked : members.any (!·.directives.isEmpty) = true ↔ HasDirective style type := by
    rw [HasDirective, areFields]
    exact any_directives_iff made
  have lines : ∀ line ∈ members.map Member.line, SingleLine ("    " ++ line) ∧
      Quiet ("    " ++ line).toList := by
    rw [List.forall_mem_map]
    intro one isMember
    obtain ⟨field, isField, written⟩ := exists_left_of_mem made isMember
    exact member_line plain (conventional.fields field (areFields ▸ isField)) written
  have classLine := class_line conventional.name ":" rfl (by decide) (by decide)
  let further := if (typeImports (checkedNames types type)).isEmpty then []
    else [("typing", "TYPE_CHECKING")]
  let rest := ["", "", "@dataclass(kw_only=True)", "class " ++ type.name ++ ":"] ++
    (if members.isEmpty then ["    pass"] else indented (members.map Member.line))
  refine ⟨_, rest, Written.of_parts [("dataclasses", "dataclass")] further rest ?_ marked ?_ ?_, ?_⟩
  · rw [List.forall_mem_append]
    refine ⟨by decide, ?_⟩
    unfold further
    split <;> decide
  · rw [List.forall_mem_append]
    constructor
    · simp only [List.forall_mem_cons]
      exact ⟨by decide, by decide, by decide, classLine.1, by simp⟩
    · split
      · decide
      · rw [indented, List.forall_mem_map]
        exact lines
  · exact ⟨_, by simp [rest], classLine.2⟩
  · rw [uses, typeUnitLines, noTarget, typeImports_nil]
    simp only [checkedNames, areFields, ObjectUnit.lines, unitLines, rest, further,
      List.append_assoc]

theorem alias_written {type : NamedType} (conventional : type.Conventional) {target : TypeExpr}
    (isAlias : type.body = .aliasOf target) {unit : AliasUnit}
    (done : aliasUnit types type.name target = .ok unit) :
    ∃ pairs rest, Written style type pairs rest ∧
      unit.lines = typeUnitLines types type pairs rest := by
  have noFields : type.fields = [] := by rw [NamedType.fields, isAlias]
  have noneChecked : checkedNames types type = [] := by rw [checkedNames, noFields]; rfl
  have isTarget : type.target?.toList = [target] := by rw [NamedType.target?, isAlias]; rfl
  have uses : type.uses.map (·.2) = [target] := by rw [NamedType.uses, isAlias]; rfl
  have unmarked : false = true ↔ HasDirective style type := by simp [HasDirective, noFields]
  obtain ⟨text, written, done⟩ := bind_eq_ok done
  cases done
  have line : (type.name ++ ": TypeAlias = " ++ text).toList =
      type.name.toList ++ (": TypeAlias = ".toList ++ text.toList) := by simp
  let rest := ["", type.name ++ ": TypeAlias = " ++ text]
  refine ⟨_, rest, Written.of_parts [("typing", "TypeAlias")] [] rest (by decide) unmarked ?_ ?_,
    ?_⟩
  · simp only [rest, List.forall_mem_cons]
    refine ⟨by decide, ⟨?_, ?_⟩, by simp⟩
    · exact (singleLine_of_plain conventional.name).between (by decide)
        (singleLine_typeText plain written)
    · exact (quiet_named conventional.name line).1
  · refine ⟨type.name ++ ": TypeAlias = " ++ text, by simp [rest], ?_⟩
    rw [line]
    exact definedBy?_alias conventional.name text.toList
  · rw [uses, typeUnitLines, runTimeNames, isTarget, noneChecked, typeImports_nil]
    simp [AliasUnit.lines, unitLines, rest]

/-- The text of a unit under its header. -/
theorem renderType_written (python : style.language = .python) {type : NamedType}
    (conventional : type.Conventional) {header body : String}
    (done : renderType style types header type = .ok body) :
    ∃ pairs rest, Written style type pairs rest ∧
      body = header ++ unlines (typeUnitLines types type pairs rest) := by
  unfold renderType at done
  rw [python] at done
  obtain ⟨lines, areLines, isBody⟩ := bind_eq_ok done
  cases isBody
  have written : ∃ pairs rest, Written style type pairs rest ∧
      lines = typeUnitLines types type pairs rest := by
    unfold typeLines at areLines
    split at areLines
    next isObject =>
      obtain ⟨unit, isUnit, rfl⟩ := map_eq_ok areLines
      exact object_written plain conventional isObject isUnit
    next isEnum =>
      cases areLines
      exact enum_written style types conventional isEnum
    next isAlias =>
      obtain ⟨unit, isUnit, rfl⟩ := map_eq_ok areLines
      exact alias_written plain conventional isAlias isUnit
  obtain ⟨pairs, rest, written, rfl⟩ := written
  exact ⟨pairs, rest, written, rfl⟩

theorem referencedNames_plain (used : List TypeExpr) :
    ∀ name ∈ referencedNames types used, Naming.IsPlain name := by
  intro name member
  obtain ⟨_, _, target, found, rfl⟩ := mem_referencedNames.mp member
  obtain ⟨id, _, here⟩ := Option.bind_eq_some_iff.mp found
  exact plain target (List.mem_of_getElem? here)

theorem runTimeNames_plain (type : NamedType) :
    ∀ name ∈ runTimeNames types type, Naming.IsPlain name :=
  referencedNames_plain plain _

theorem checkedNames_plain (type : NamedType) :
    ∀ name ∈ checkedNames types type, Naming.IsPlain name :=
  fun name member => referencedNames_plain plain _ name (List.mem_of_mem_filter member)

section Reading

variable {type : NamedType} {pairs : List (String × String)} {rest : List String}
  (written : Written style type pairs rest) (comment : String)
include written

theorem typeUnitLines_readable :
    (∀ item ∈ (ImportBlock.make pairs (typeImports (runTimeNames types type))).standard ++
      (ImportBlock.make pairs (typeImports (runTimeNames types type))).package, item.Readable) ∧
    ∀ item ∈ typeImports (checkedNames types type), item.Readable :=
  ⟨make_readable written.readable_pairs (typeImports_readable (runTimeNames_plain plain type)),
    typeImports_readable (checkedNames_plain plain type)⟩

/-- The imports of the unit of a type are what it was written from: the pairs and the types that it
needs at run time, and for type checkers further types. -/
theorem mem_importsOf_written (python : style.language = .python) {item : ImportedName} :
    item ∈ importsOf (style.header comment ++ unlines (typeUnitLines types type pairs rest)) ↔
      item = importedAs false "__future__" "annotations" ∨
      (∃ pair ∈ pairs, item = importedAs false pair.1 pair.2) ∨
      (∃ name ∈ runTimeNames types type, item = typeImport false name) ∨
      ∃ name ∈ checkedNames types type, item = typeImport true name := by
  obtain ⟨imports, checked⟩ := typeUnitLines_readable plain written
  rw [typeUnitLines, importsOf_unit python comment imports checked written.others, List.mem_append,
    List.mem_append, mem_imported_make, mem_imported_typeImports (runTimeNames_plain plain type),
    mem_imported_typeImports (checkedNames_plain plain type)]
  simp only [futureImport, Import.imported, List.map_cons, List.map_nil,
    List.mem_singleton, or_assoc]

/-- Each type is imported for type checkers once. -/
theorem checked_once_written (python : style.language = .python) :
    (((importsOf (style.header comment ++ unlines (typeUnitLines types type pairs rest))).filter
      (·.guarded)).map (·.name)).Nodup := by
  obtain ⟨imports, checked⟩ := typeUnitLines_readable plain written
  obtain ⟨order, perm, imported⟩ := imported_typeImports (checkedNames_plain plain type) true
  have guarded (flag : Bool) (items : List Import) :
      ∀ item ∈ items.flatMap (Import.imported flag), item.guarded = flag := by
    intro item member
    obtain ⟨one, _, here⟩ := List.mem_flatMap.mp member
    obtain ⟨name, _, rfl⟩ := List.mem_map.mp here
    rfl
  -- only what is written for type checkers passes the filter
  rw [typeUnitLines, importsOf_unit python comment imports checked written.others,
    List.filter_append, List.filter_append, List.filter_eq_nil_iff.mpr, List.filter_eq_nil_iff.mpr,
    List.filter_eq_self.mpr (guarded true _), imported, List.nil_append, List.nil_append,
    List.map_map]
  · have names : order.map ((·.name) ∘ typeImport true) =
      order := by simp [Function.comp_def, typeImport]
    rw [names]
    exact perm.nodup_iff.mpr (nodup_eraseDups _)
  · exact fun item member => by simp [guarded false _ item member]
  · exact fun item member => by simp [guarded false [futureImport] item (by simpa using member)]

/-- The unit of a type defines it. -/
theorem mem_definedNames_written :
    type.name ∈ definedNames
      (style.header comment ++ unlines (typeUnitLines types type pairs rest)) := by
  obtain ⟨imports, checked⟩ := typeUnitLines_readable plain written
  obtain ⟨line, member, defines⟩ := written.defines
  refine mem_definedNames style comment
    (singleLine_unitLines imports checked fun line isLine => (written.others line isLine).1) ?_
      defines
  exact List.mem_append_right _ member

end Reading

end Types

end SchemaCompiler.Target.Python
