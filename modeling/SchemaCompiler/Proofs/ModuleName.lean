import SchemaCompiler.Proofs.Identifier
import SchemaCompiler.Proofs.ImportClosure

/-!
# Which modules can be imported

The module of a type has the name of the type in small letters, with an underscore between words. So
a module can get the name of a keyword although the type has none: the keyword has no underscore,
the type is then a single word, and words that start with a capital go on with small letters or with
capitals (`isWord_of_mem_words`). That leaves two spellings for each keyword
(`moduleName_mem_keywords_iff`). A digit at the start of a type stays at the start of the module.

An import from the package names a module that is none of these exactly if the type that it is for
has an importable name (`generate_imports_legal_iff`). Since units import only what their types use,
types with other names do no harm until a field or an alias ends in them.
-/

namespace SchemaCompiler

namespace Naming

/-! ## Words and the text they are cut from -/

theorem flatten_prepend (c : Char) (pieces : List (List Char)) :
    (prepend c pieces).flatten = c :: pieces.flatten := by
  cases pieces <;> rfl

/-- Cutting a text into parts loses what separates them and nothing else. -/
theorem flatten_parts (joins : Char → List Char → Bool) (text : List Char) :
    (parts joins text).flatten = text.filter Char.isAlphanum := by
  induction text with
  | nil => rfl
  | cons c rest ih =>
      by_cases alphanumeric : c.isAlphanum = true
      · rw [parts, if_pos alphanumeric, List.filter_cons_of_pos alphanumeric, ← ih]
        split
        · exact flatten_prepend c _
        · rfl
      · rw [parts, if_neg alphanumeric, List.filter_cons_of_neg alphanumeric, ih]

theorem flatten_words (text : List Char) : (words text).flatten = text.filter Char.isAlphanum := by
  rw [words_eq_parts, flatten_parts]

/-- A text of letters and digits that is cut into one word is that word. -/
theorem eq_of_words_eq_singleton {text word : List Char} (letters : ∀ c ∈ text, c.isAlphanum = true)
    (one : words text = [word]) : word = text := by
  have whole := flatten_words text
  rw [one, List.filter_eq_self.mpr letters] at whole
  simpa using whole

/-- The forms of words: digits, small letters, capitals, or a capital before small letters. -/
def IsWord (word : List Char) : Prop :=
  (∀ c ∈ word, c.isDigit = true) ∨ (∀ c ∈ word, c.isLower = true) ∨ (∀ c ∈ word, c.isUpper = true) ∨
    ∃ c rest, word = c :: rest ∧ c.isUpper = true ∧ ∀ d ∈ rest, d.isLower = true

theorem isAlphanum_of_sameWord {c d : Char} {after : List Char}
    (same : sameWord c (d :: after) = true) :
    d.isAlphanum = true := by
  show (d.isUpper || d.isLower || d.isDigit) = true
  simp only [sameWord, Bool.or_eq_true, Bool.and_eq_true] at same ⊢
  tauto

/-- The first word of a text that starts with a letter or digit starts with it, and goes on with
what follows. -/
theorem exists_words_cons {c : Char} (letter : c.isAlphanum = true) (rest : List Char) :
    ∃ tail others, words (c :: rest) = (c :: tail) :: others ∧ tail <+: rest := by
  induction rest generalizing c with
  | nil => exact ⟨[], [], by rw [words_cons, if_pos letter]; rfl, List.prefix_rfl⟩
  | cons d after ih =>
      rw [words_cons, if_pos letter]
      split
      next joined =>
        obtain ⟨tail, others, cut, goesOn⟩ := ih (isAlphanum_of_sameWord joined)
        exact ⟨d :: tail, others, by rw [cut]; rfl, List.cons_prefix_cons.mpr ⟨rfl, goesOn⟩⟩
      · exact ⟨[], _, rfl, List.nil_prefix⟩

theorem IsWord.cons {c d : Char} {tail after : List Char} (isWord : IsWord (d :: tail))
    (joined : sameWord c (d :: after) = true) (goesOn : tail <+: after) :
    IsWord (c :: d :: tail) := by
  -- a small letter behind two capitals would have started a word with the second
  have ends : after.head?.any Char.isLower = false → (∀ e ∈ tail, e.isLower = true) →
      tail = [] := by
    intro noSmall small
    cases tail with
    | nil => rfl
    | cons e more =>
        obtain ⟨further, rfl⟩ := goesOn
        simp [small e List.mem_cons_self] at noSmall
  simp only [sameWord, Bool.or_eq_true, Bool.and_eq_true] at joined
  unfold IsWord at *
  grind [not_isUpper_of_isLower, not_isDigit_of_isLower, not_isDigit_of_isUpper]

/-- Texts are cut into words of these forms. -/
theorem isWord_of_mem_words {text word : List Char} (member : word ∈ words text) : IsWord word := by
  induction text generalizing word with
  | nil => cases member
  | cons c rest ih =>
      rw [words_cons] at member
      split at member
      next letter =>
        split at member
        next joined =>
          cases rest with
          | nil => simp [sameWord] at joined
          | cons d after =>
              obtain ⟨tail, others, cut, goesOn⟩ :=
                exists_words_cons (isAlphanum_of_sameWord joined) after
              rw [cut] at member ih
              rcases List.mem_cons.mp member with rfl | later
              · exact (ih List.mem_cons_self).cons joined goesOn
              · exact ih (List.mem_cons_of_mem _ later)
        · rcases List.mem_cons.mp member with rfl | later
          · have kinds : (c.isUpper || c.isLower || c.isDigit) = true := letter
            simp only [Bool.or_eq_true] at kinds
            simp only [IsWord, List.mem_singleton, forall_eq]
            tauto
          · exact ih later
      · exact ih member

/-! ## Module names -/

theorem toUpper_toLower {c : Char} (capital : c.isUpper = true) : c.toLower.toUpper = c := by
  have bounds := isUpper_iff.mp capital
  apply Char.ext
  rw [val_toUpper (isLower_toLower capital), val_toLower capital]
  grind

theorem toLower_of_isLower {c : Char} (small : c.isLower = true) : c.toLower = c :=
  toLower_of_not_isUpper (by simp [not_isUpper_of_isLower small])

theorem upper_lower {text : List Char} (capitals : ∀ c ∈ text, c.isUpper = true) :
    upper (lower text) = text := by
  rw [upper, lower, List.map_map]
  conv_rhs => rw [← List.map_id text]
  exact List.map_congr_left fun c member => toUpper_toLower (capitals c member)

theorem lower_of_small {text : List Char} (small : ∀ c ∈ text, c.isLower = true) :
    lower text = text := by
  conv_rhs => rw [← List.map_id text]
  exact List.map_congr_left fun c member => toLower_of_isLower (small c member)

/-- Two pieces are joined by an underscore. -/
theorem underscore_mem_join {first second : List Char} {rest : List (List Char)} :
    '_' ∈ joinUnderscore (first :: second :: rest) := by
  rw [joinUnderscore, List.intercalate_cons_cons]
  simp

theorem head?_moduleName (text : String) :
    (moduleName text).toList.head? = (leading? text).map Char.toLower := by
  rw [moduleName, String.toList_ofList]
  cases cut : words text.toList with
  | nil =>
      rw [leading?_of_no_words cut]
      rfl
  | cons word rest =>
      obtain ⟨c, tail, rfl, leading⟩ := leading?_of_words cut
      rw [leading]
      cases rest with
      | nil => simp [joinUnderscore, lower]
      | cons next others =>
          rw [List.map_cons, List.map_cons, joinUnderscore, List.intercalate_cons_cons]
          rfl

/-- A module can have its name unless that starts with a digit. -/
theorem isIdentifier_moduleName_iff {text : String} (usable : leading? text ≠ none) :
    isIdentifier (moduleName text) = true ↔ leadsWithDigit text = false := by
  have head := head?_moduleName text
  obtain ⟨c, leading⟩ := Option.ne_none_iff_exists'.mp usable
  have nonempty : moduleName text ≠ "" := by
    intro empty
    rw [empty, leading] at head
    cases head
  rw [isIdentifier_iff (moduleName_plain text) nonempty, head, leadsWithDigit, leading,
    Option.map_some, Option.any_some, Option.any_some, isDigit_toLower]

end Naming

/-! ## Keywords among module names -/

namespace Target.Python

open Naming
open Schema (NamedType TypeExpr TypeGraph)

/-- The keywords in small letters, each with a capital in front and in capitals. -/
def keywordNames : List String :=
  (Language.python.keywords.filter fun keyword =>
    !Language.python.capitalKeywords.contains keyword).flatMap
    fun keyword => [String.ofList (capitalize keyword.toList), String.ofList (upper keyword.toList)]

/-- Can the module of a type with this name be imported? -/
def isImportable (name : String) : Bool := !leadsWithDigit name && !keywordNames.contains name

theorem isImportable_iff {name : String} :
    isImportable name = true ↔ leadsWithDigit name = false ∧ name ∉ keywordNames := by
  simp [isImportable]

theorem keyword_letters : ∀ keyword ∈ Language.python.keywords,
    keyword.toList.all (fun c => c.isUpper || c.isLower) = true := by
  decide

theorem capitalKeywords_capital : ∀ keyword ∈ Language.python.capitalKeywords,
    keyword.toList.head?.any Char.isUpper = true := by
  decide

theorem keywordNames_modules :
    ∀ name ∈ keywordNames, moduleName name ∈ Language.python.keywords := by
  decide

theorem mem_keywordNames {name : String} {keyword : List Char}
    (isKeyword : String.ofList keyword ∈ Language.python.keywords)
    (small : String.ofList keyword ∉ Language.python.capitalKeywords)
    (spelled : name.toList = capitalize keyword ∨ name.toList = upper keyword) :
    name ∈ keywordNames := by
  rw [keywordNames, List.mem_flatMap]
  refine ⟨_, List.mem_filter.mpr ⟨isKeyword, by simpa using small⟩, ?_⟩
  rw [String.toList_ofList, ← String.ofList_toList (s := name)]
  rcases spelled with same | same
  · rw [same]
    exact List.mem_cons_self
  · rw [same]
    exact List.mem_cons_of_mem _ List.mem_cons_self

/-- A letter or digit that is no small letter, and a letter when made small, is a capital. -/
theorem isUpper_of_letter {c : Char} (alphanumeric : c.isAlphanum = true)
    (noSmall : c.isLower = false) (letter : (c.toLower.isUpper || c.toLower.isLower) = true) :
    c.isUpper = true := by
  have noDigit : c.isDigit = false := by
    rw [← isDigit_toLower]
    rcases Bool.or_eq_true_iff.mp letter with capital | small
    · exact not_isDigit_of_isUpper capital
    · exact not_isDigit_of_isLower small
  have kinds : (c.isUpper || c.isLower || c.isDigit) = true := alphanumeric
  simpa [noDigit, noSmall] using kinds

/-- A keyword with a capital is never that of a word in small letters. -/
theorem lower_not_capitalKeyword {c : Char} (capital : c.isUpper = true) (tail : List Char) :
    String.ofList (lower (c :: tail)) ∉ Language.python.capitalKeywords := by
  intro isCapital
  have large := capitalKeywords_capital _ isCapital
  rw [String.toList_ofList] at large
  have large : c.toLower.isUpper = true := large
  rw [not_isUpper_of_isLower (isLower_toLower capital)] at large
  cases large

/-- The words of a text whose module has the name of a keyword: there is one, since keywords have no
underscore. -/
theorem words_of_keyword {name : String} (letters : ∀ c ∈ name.toList, c.isAlphanum = true)
    (keyword : moduleName name ∈ Language.python.keywords) :
    words name.toList = [name.toList] ∧ moduleName name = String.ofList (lower name.toList) := by
  have spelled := List.all_eq_true.mp (keyword_letters _ keyword)
  unfold moduleName at keyword spelled ⊢
  rw [String.toList_ofList] at spelled
  cases cut : words name.toList with
  | nil =>
      rw [cut] at keyword
      exact absurd keyword (by decide)
  | cons word rest =>
      cases rest with
      | nil =>
          obtain rfl := eq_of_words_eq_singleton letters cut
          exact ⟨rfl, by simp [joinUnderscore]⟩
      | cons next others =>
          rw [cut] at spelled
          exact absurd (spelled '_' underscore_mem_join) (by decide)

/-- The module of a type has the name of a keyword exactly if the type has, as a word with a capital
or in capitals. -/
theorem moduleName_mem_keywords_iff {name : String}
    (letters : ∀ c ∈ name.toList, c.isAlphanum = true)
    (start : name.toList.head?.any Char.isLower = false) :
    moduleName name ∈ Language.python.keywords ↔ name ∈ keywordNames := by
  refine ⟨fun keyword => ?_, keywordNames_modules name⟩
  obtain ⟨cut, joined⟩ := words_of_keyword letters keyword
  have spelled := List.all_eq_true.mp (keyword_letters _ keyword)
  have isOwn : name.toList ∈ words name.toList := by rw [cut]; exact List.mem_cons_self
  have isWord := isWord_of_mem_words isOwn
  obtain ⟨c, tail, chars⟩ := List.exists_cons_of_ne_nil (ne_nil_of_mem_words isOwn)
  rw [joined] at keyword spelled
  rw [String.toList_ofList] at spelled
  rw [chars] at keyword spelled letters isWord start
  have noSmall : c.isLower = false := by simpa using start
  have capital :=
    isUpper_of_letter (letters c (by simp)) noSmall (spelled c.toLower (by simp [lower]))
  refine mem_keywordNames keyword (lower_not_capitalKeyword capital tail) ?_
  rw [chars]
  -- the two forms of words with a capital are the two spellings of a keyword
  rcases isWord with digits | small | capitals | ⟨_, _, same, _, small⟩
  · simp [not_isDigit_of_isUpper capital] at digits
  · simp [noSmall] at small
  · right
    exact (upper_lower capitals).symm
  · cases same
    left
    show c :: tail = c.toLower.toUpper :: lower tail
    rw [toUpper_toLower capital, lower_of_small small]

theorem leading?_of_letters {name : String} (letters : ∀ c ∈ name.toList, c.isAlphanum = true) :
    leading? name = name.toList.head? := by
  unfold leading?
  cases chars : name.toList with
  | nil => rfl
  | cons c rest => exact List.find?_cons_of_pos (letters c (by simp [chars]))

/-- The module of a type can be imported exactly if the name of the type is importable. -/
theorem isLegal_moduleName_iff {name : String} (letters : ∀ c ∈ name.toList, c.isAlphanum = true)
    (start : name.toList.head?.any Char.isLower = false) (nonempty : name ≠ "") :
    Language.python.isLegal (moduleName name) = true ↔ isImportable name = true := by
  have usable : leading? name ≠ none := by
    rw [leading?_of_letters letters, Ne, List.head?_eq_none_iff]
    exact fun empty => nonempty (String.toList_eq_nil_iff.mp empty)
  rw [Language.isLegal_iff, isIdentifier_moduleName_iff usable,
    moduleName_mem_keywords_iff letters start,
    isImportable_iff]

/-! ## Imports from the package -/

/-- The name of the module in the package that an import is from. -/
def ImportedName.moduleName (item : ImportedName) : String :=
  String.ofList (item.module.toList.drop 1)

/-- The types that the unit of a type imports: what fields end in, without the type itself, and what
an alias ends in. -/
def usedTypes (types : List NamedType) (type : NamedType) : List NamedType :=
  (type.fields.filterMap fun field => leafType? types field.type).filter (·.name != type.name) ++
    type.target?.toList.filterMap (leafType? types)

theorem moduleName_typeImport (guarded : Bool) (name : String) :
    (typeImport guarded name).moduleName = Naming.moduleName name := by
  simp [typeImport, ImportedName.moduleName]

theorem mem_usedTypes {types : List NamedType} {type target : NamedType} :
    target ∈ usedTypes types type ↔
      (∃ field ∈ type.fields, leafType? types field.type = some target ∧ target.name ≠ type.name) ∨
      ∃ aliased, type.target? = some aliased ∧ leafType? types aliased = some target := by
  simp only [usedTypes, List.mem_append, List.mem_filter, List.mem_filterMap, bne_iff_ne,
    Option.mem_toList]
  constructor
  · rintro (⟨⟨field, isField, found⟩, other⟩ | aliased)
    · exact .inl ⟨field, isField, found, other⟩
    · exact .inr aliased
  · rintro (⟨field, isField, found, other⟩ | aliased)
    · exact .inl ⟨⟨field, isField, found⟩, other⟩
    · exact .inr aliased

theorem mem_of_mem_usedTypes {types : List NamedType} {type target : NamedType}
    (used : target ∈ usedTypes types type) : target ∈ types := by
  rcases mem_usedTypes.mp used with ⟨_, _, found, _⟩ | ⟨_, _, found⟩
  · exact mem_of_leafType? found
  · exact mem_of_leafType? found

section Exact

variable {style : Style} {types : List NamedType} {type : NamedType} {body : String}
  (exact : ImportsExactly style types type body)
include exact

/-- What the unit of a type imports from the package is a type that it uses or a marker. -/
theorem ImportsExactly.used_or_marker {item : ImportedName} (member : item ∈ importsOf body)
    (isLocal : item.isLocal = true) :
    (∃ target ∈ usedTypes types type, item = typeImport item.guarded target.name) ∨
      item ∈ [constraintImport, constrainedImport] := by
  cases guarded : item.guarded with
  | true =>
      obtain ⟨field, isField, target, found, other, rfl⟩ :=
        (exact.checked item).mp ⟨member, guarded⟩
      exact .inl ⟨target, mem_usedTypes.mpr (.inl ⟨field, isField, found, other⟩), rfl⟩
  | false =>
      rcases (exact.runTime item).mp ⟨member, guarded, isLocal⟩ with
        ⟨aliased, target, isTarget, found, rfl⟩ | ⟨_, marker⟩
      · exact .inl ⟨target, mem_usedTypes.mpr (.inr ⟨aliased, isTarget, found⟩), rfl⟩
      · exact .inr (by simpa using marker)

/-- Every type that a type uses is imported. -/
theorem ImportsExactly.exists_import {target : NamedType} (used : target ∈ usedTypes types type) :
    ∃ guarded, typeImport guarded target.name ∈ importsOf body := by
  rcases mem_usedTypes.mp used with ⟨field, isField, found, other⟩ | ⟨aliased, isTarget, found⟩
  · exact ⟨true, ((exact.checked _).mpr ⟨field, isField, target, found, other, rfl⟩).1⟩
  · exact ⟨false, ((exact.runTime _).mpr (.inl ⟨aliased, target, isTarget, found, rfl⟩)).1⟩

end Exact

/-- The markers are in a module that can be imported. -/
theorem marker_importable {item : ImportedName} (module : item.module = markerModule)
    (name : item.name ∈ markerNames) :
    Language.python.isLegal item.moduleName = true ∧ isImportable item.name = true := by
  rw [ImportedName.moduleName, module]
  refine ⟨by decide, ?_⟩
  have all : ∀ name ∈ markerNames, isImportable name = true := by decide
  exact all _ name

end Target.Python

namespace Schema

/-- The names of types consist of letters and digits. -/
theorem NamedType.FollowsSource.letters {type : NamedType} (follows : type.FollowsSource) :
    ∀ c ∈ type.name.toList, c.isAlphanum = true := by
  have base := Naming.isAlphanum_of_mem_typeName type.sourceName
  rcases follows.name with same | ⟨number, same⟩
  · rw [same]
    exact base
  · rw [same, SymbolTable.numbered, String.toList_append, String.toList_ofList,
      List.forall_mem_append]
    refine ⟨base, fun c isDigit => ?_⟩
    have digit := Nat.isDigit_of_mem_toDigits (by decide) (by decide) isDigit
    simp [Char.isAlphanum, digit]

theorem NamedType.FollowsSource.name_ne_empty {type : NamedType} (follows : type.FollowsSource) :
    type.name ≠ "" := by
  intro empty
  have head := follows.head?
  rw [← Naming.head?_typeName, empty] at head
  have none := List.head?_eq_none_iff.mp head.symm
  exact follows.usable (String.toList_eq_nil_iff.mp none)

end Schema

namespace Compiler

open Naming Schema Target Python

section Modules

variable {compiler : Compiler} {name : String} {root : Option Document.Node} {graph : TypeGraph}
  (compiles : (compiler.compile name root).outcome.1 = .ok graph) {style : Style} {comment : String}
  {ofTypes shared : List OutputUnit} (generated : Generated style graph comment ofTypes shared)
  (python : style.language = .python)
include compiles

theorem isLegal_typeImport_iff {type : NamedType} (member : type ∈ graph.types) (guarded : Bool) :
    Language.python.isLegal (typeImport guarded type.name).moduleName = true ↔
      isImportable type.name = true := by
  have follows := followsSource_of_compile compiles type member
  rw [moduleName_typeImport]
  exact isLegal_moduleName_iff follows.letters follows.start follows.name_ne_empty

include generated python

/-- What a unit imports from the package is a type that some type uses, or a marker. -/
theorem import_cases {unit : OutputUnit} (member : unit ∈ ofTypes ++ shared) {item : ImportedName}
    (imported : item ∈ importsOf unit.body) (isLocal : item.isLocal = true) :
    (∃ type ∈ graph.types, ∃ target ∈ usedTypes graph.types type,
      item = typeImport item.guarded target.name) ∨
    item.module = markerModule ∧ item.name ∈ markerNames := by
  have compiled := compiled_of_compile compiles
  rcases List.mem_append.mp member with ofType | isShared
  · obtain ⟨type, isType, _, exact⟩ :=
      exists_left_of_mem (forall₂_importsExactly generated python compiled) ofType
    rcases exact.used_or_marker imported isLocal with used | marker
    · exact .inl ⟨type, isType, used⟩
    · have ofMarkers : ∀ item ∈ [constraintImport, constrainedImport],
          item.module = markerModule ∧ item.name ∈ markerNames := by decide
      exact .inr (ofMarkers item marker)
  · obtain ⟨_, ⟨_, body⟩ | ⟨_, body⟩⟩ := of_mem_shared_python generated python isShared
    · rw [body] at imported
      exact .inr (local_imports_validation python item imported isLocal)
    · rw [body] at imported
      rw [local_imports_marker python item imported] at isLocal
      cases isLocal

/-- The module of an import from the package is legal exactly if the imported name is importable. -/
theorem isLegal_import_iff {unit : OutputUnit} (member : unit ∈ ofTypes ++ shared)
    {item : ImportedName} (imported : item ∈ importsOf unit.body) (isLocal : item.isLocal = true) :
    Language.python.isLegal item.moduleName = true ↔ isImportable item.name = true := by
  rcases import_cases compiles generated python member imported isLocal with
    ⟨type, _, target, used, isType⟩ | ⟨module, marker⟩
  · rw [isType]
    exact isLegal_typeImport_iff compiles (mem_of_mem_usedTypes used) item.guarded
  · obtain ⟨legal, importable⟩ := marker_importable module marker
    exact iff_of_true legal importable

/-- Every type that a type uses is imported by a unit. -/
theorem exists_import_of_used {type target : NamedType} (member : type ∈ graph.types)
    (used : target ∈ usedTypes graph.types type) :
    ∃ unit ∈ ofTypes ++ shared, ∃ guarded,
      typeImport guarded target.name ∈ importsOf unit.body := by
  have compiled := compiled_of_compile compiles
  obtain ⟨unit, isUnit, _, exact⟩ :=
    exists_right_of_mem (forall₂_importsExactly generated python compiled) member
  exact ⟨unit, List.mem_append_left _ isUnit, exact.exists_import used⟩

end Modules

/-- Which modules the units of a document can import. The module of an import from the package is an
identifier and no keyword exactly if the imported name starts with no digit and is no keyword with a
capital or in capitals. So all imports from the package are legal exactly if no field and no alias
ends in a type with such a name, the fields that end in their own object aside. -/
theorem generate_imports_legal_iff {compiler : Compiler} (python : compiler.language = .python)
    {name : String} {root : Option Document.Node} {units : List OutputUnit}
    (done : (compiler.generate name root).outcome.1 = .ok units) :
    ∃ graph, (compiler.compile name root).outcome.1 = .ok graph ∧
      (∀ unit ∈ units, ∀ item ∈ importsOf unit.body, item.isLocal = true →
        (Language.python.isLegal item.moduleName = true ↔
          leadsWithDigit item.name = false ∧ item.name ∉ keywordNames)) ∧
      ((∀ unit ∈ units, ∀ item ∈ importsOf unit.body, item.isLocal = true →
          Language.python.isLegal item.moduleName = true) ↔
        ∀ type ∈ graph.types, ∀ target ∈ usedTypes graph.types type,
          leadsWithDigit target.name = false ∧ target.name ∉ keywordNames) := by
  obtain ⟨graph, ofTypes, shared, compiles, rfl, generated⟩ := generate_eq_ok done
  rw [python] at generated
  simp only [← isImportable_iff]
  refine ⟨graph, compiles, fun unit member item imported isLocal =>
    isLegal_import_iff compiles generated rfl member imported isLocal, ?_, ?_⟩
  · intro legal type isType target used
    obtain ⟨unit, member, guarded, imported⟩ :=
      exists_import_of_used compiles generated rfl isType used
    exact (isLegal_typeImport_iff compiles (mem_of_mem_usedTypes used) guarded).mp
      (legal unit member _ imported (isLocal_typeImport guarded target.name))
  · intro importable unit member item imported isLocal
    rcases import_cases compiles generated rfl member imported isLocal with
      ⟨type, isType, target, used, asType⟩ | ⟨module, marker⟩
    · rw [asType, isLegal_typeImport_iff compiles (mem_of_mem_usedTypes used)]
      exact importable type isType target used
    · exact (marker_importable module marker).1

/-- A room for a class, and a list that starts with a digit and is used by nothing. -/
def lessons : Document.Node :=
  .mapping 1 [("D", .mapping 1 [
    ("class", .mapping 2 [("type", .scalar 2 (.text "object")), ("properties", .mapping 3 [
      ("twin", .mapping 3 [("type", .scalar 3 (.text "class"))])])]),
    ("room", .mapping 4 [("type", .scalar 4 (.text "object")), ("properties", .mapping 5 [
      ("lesson", .mapping 5 [("type", .scalar 5 (.text "class"))])])]),
    ("2nd floor", .mapping 6 [("type", .scalar 6 (.text "array")), ("items", .mapping 6 [
      ("type", .scalar 6 (.text "room"))])])])]

theorem lessons_imports_legal_iff :
    ∃ units graph, ((bareCompiler .python).generate "d" (some lessons)).outcome.1 = .ok units ∧
      ((bareCompiler .python).compile "d" (some lessons)).outcome.1 = .ok graph ∧
      units.map (·.name) = ["Class", "Room", "2NdFloor"] ∧
      (∀ unit ∈ units, ∀ item ∈ importsOf unit.body, item.isLocal = true →
        (Language.python.isLegal item.moduleName = true ↔
          leadsWithDigit item.name = false ∧ item.name ∉ keywordNames)) ∧
      ((∀ unit ∈ units, ∀ item ∈ importsOf unit.body, item.isLocal = true →
          Language.python.isLegal item.moduleName = true) ↔
        ∀ type ∈ graph.types, ∀ target ∈ usedTypes graph.types type,
          leadsWithDigit target.name = false ∧ target.name ∉ keywordNames) := by
  have names : ((bareCompiler .python).generate "d" (some lessons)).outcome.1.toOption.map
      (·.map (·.name)) = some ["Class", "Room", "2NdFloor"] := by decide +kernel
  obtain ⟨units, found, named⟩ := Option.map_eq_some_iff.mp names
  have done := eq_ok_of_toOption found
  obtain ⟨graph, compiles, each, all⟩ := generate_imports_legal_iff rfl done
  exact ⟨units, graph, done, compiles, named, each, all⟩

/-- The unit of a room imports its class from a module with the name of a keyword. -/
theorem lessons_import_keyword :
    ∃ units, ((bareCompiler .python).generate "d" (some lessons)).outcome.1 = .ok units ∧
      ∃ unit ∈ units, ∃ item ∈ importsOf unit.body, item.isLocal = true ∧
        item.module = ".class" ∧ item.name = "Class" ∧
        Language.python.isLegal item.moduleName = false := by
  have success : ((bareCompiler .python).generate "d" (some lessons)).outcome.1.toOption.isSome =
      true := by
    decide +kernel
  have uses : ((bareCompiler .python).compile "d" (some lessons)).outcome.1.toOption.map
      (fun graph => graph.types.map fun type => (usedTypes graph.types type).map (·.name)) =
        some [[], ["Class"], ["Room"]] := by decide +kernel
  obtain ⟨units, found⟩ := Option.isSome_iff_exists.mp success
  have done := eq_ok_of_toOption found
  obtain ⟨graph, ofTypes, shared, compiles, rfl, generated⟩ := generate_eq_ok done
  rw [compiles] at uses
  have uses : graph.types.map (fun type => (usedTypes graph.types type).map (·.name)) =
      [[], ["Class"], ["Room"]] := Option.some.inj uses
  have used : ["Class"] ∈ graph.types.map fun type =>
      (usedTypes graph.types type).map (·.name) := by
    rw [uses]
    simp
  obtain ⟨type, isType, named⟩ := List.mem_map.mp used
  have usesClass : "Class" ∈ (usedTypes graph.types type).map (·.name) := by
    rw [named]
    simp
  obtain ⟨target, isUsed, isClass⟩ := List.mem_map.mp usesClass
  obtain ⟨unit, member, guarded, imported⟩ :=
    exists_import_of_used compiles generated rfl isType isUsed
  rw [isClass] at imported
  refine ⟨_, done, unit, member, _, imported, isLocal_typeImport guarded "Class", ?_, rfl, ?_⟩
  · have spelled : "." ++ moduleName "Class" = ".class" := by decide
    exact spelled
  · rw [moduleName_typeImport]
    decide

end Compiler

end SchemaCompiler
