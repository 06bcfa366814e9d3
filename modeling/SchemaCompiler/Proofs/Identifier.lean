import SchemaCompiler.Proofs.CompiledGraph

/-!
# Which generated names are identifiers

A name in generated code starts with the first letter or digit of what the document calls the thing,
as a capital in a type name and as a small letter in a field name. Names consist of letters, digits
and underscores, so a name is an identifier exactly if that first character is no digit. Constants
are always identifiers, since a digit at their start gets an underscore in front.

Keywords are taken care of for members only. The names of types start with no small letter, which
leaves the three keywords of Python that do not either.
-/

namespace SchemaCompiler

namespace Naming

/-! ## The first character of a name -/

/-- The first letter or digit of a text. -/
def leading? (text : String) : Option Char := text.toList.find? Char.isAlphanum

/-- Is the first letter or digit of a text a digit? -/
def leadsWithDigit (text : String) : Bool := (leading? text).any Char.isDigit

theorem head?_parts (joins : Char → List Char → Bool) (text : List Char) :
    (parts joins text).head?.bind List.head? = text.find? Char.isAlphanum := by
  induction text with
  | nil => rfl
  | cons c rest ih =>
      by_cases alphanumeric : c.isAlphanum = true
      · rw [parts, if_pos alphanumeric, List.find?_cons_of_pos alphanumeric]
        split
        · cases parts joins rest <;> rfl
        · rfl
      · rw [parts, if_neg alphanumeric, List.find?_cons_of_neg alphanumeric, ih]

/-- The first word of a text starts with its first letter or digit. -/
theorem leading?_of_words {text : String} {word : List Char} {rest : List (List Char)}
    (cut : words text.toList = word :: rest) :
    ∃ c tail, word = c :: tail ∧ leading? text = some c := by
  have first := head?_parts sameWord text.toList
  rw [← words_eq_parts, cut] at first
  have nonempty : word ≠ [] := ne_nil_of_mem_words (by rw [cut]; exact List.mem_cons_self)
  obtain ⟨c, tail, rfl⟩ := List.exists_cons_of_ne_nil nonempty
  exact ⟨c, tail, rfl, first.symm⟩

theorem leading?_of_no_words {text : String} (cut : words text.toList = []) :
    leading? text = none := by
  have first := head?_parts sameWord text.toList
  rw [← words_eq_parts, cut] at first
  exact first.symm

theorem head?_typeName (text : String) :
    (typeName text).toList.head? = (leading? text).map Char.toUpper := by
  rw [typeName, String.toList_ofList]
  cases cut : words text.toList with
  | nil =>
      rw [leading?_of_no_words cut]
      rfl
  | cons word rest =>
      obtain ⟨c, tail, rfl, leading⟩ := leading?_of_words cut
      rw [leading]
      rfl

theorem head?_fieldName (text : String) :
    (fieldName text).toList.head? = (leading? text).map Char.toLower := by
  unfold fieldName
  cases cut : words text.toList with
  | nil =>
      rw [leading?_of_no_words cut]
      rfl
  | cons word rest =>
      obtain ⟨c, tail, rfl, leading⟩ := leading?_of_words cut
      rw [leading]
      simp [lower]

theorem isDigit_toUpper (c : Char) : c.toUpper.isDigit = c.isDigit := by
  by_cases small : c.isLower = true
  · rw [not_isDigit_of_isUpper (isUpper_toUpper small), not_isDigit_of_isLower small]
  · rw [toUpper_of_not_isLower small]

theorem isDigit_toLower (c : Char) : c.toLower.isDigit = c.isDigit := by
  by_cases capital : c.isUpper = true
  · rw [not_isDigit_of_isLower (isLower_toLower capital), not_isDigit_of_isUpper capital]
  · rw [toLower_of_not_isUpper capital]

/-! ## Identifiers -/

/-- Is a text an identifier: a letter or underscore, and then letters, digits and underscores? -/
def isIdentifier (text : String) : Bool :=
  match text.toList with
  | [] => false
  | first :: rest => (first.isAlpha || first == '_') && rest.all fun c => c.isAlphanum || c == '_'

/-- A text of letters, digits and underscores is an identifier unless it starts with a digit. -/
theorem isIdentifier_iff {text : String} (plain : IsPlain text) (nonempty : text ≠ "") :
    isIdentifier text = true ↔ text.toList.head?.any Char.isDigit = false := by
  have some : text.toList ≠ [] := fun none => nonempty (String.toList_eq_nil_iff.mp none)
  unfold IsPlain at plain
  unfold isIdentifier
  cases chars : text.toList with
  | nil => exact absurd chars some
  | cons first rest =>
      rw [chars, List.forall_mem_cons] at plain
      have behind : (rest.all fun c => c.isAlphanum || c == '_') = true := by
        simpa [List.all_eq_true] using plain.2
      simp only [behind, Bool.and_true, List.head?_cons, Option.any_some]
      constructor
      · intro start
        rcases Bool.or_eq_true_iff.mp start with letter | underscore
        · have apart : ¬first.isDigit = true := by
            rcases Bool.or_eq_true_iff.mp letter with letter | letter
            · rw [isUpper_iff] at letter
              rw [isDigit_iff]
              grind
            · rw [isLower_iff] at letter
              rw [isDigit_iff]
              grind
          simpa using apart
        · rw [beq_iff_eq.mp underscore]
          decide
      · intro noDigit
        rcases plain.1 with alphanumeric | rfl
        · rcases Bool.or_eq_true_iff.mp alphanumeric with letter | digit
          · rw [letter, Bool.true_or]
          · rw [digit] at noDigit
            cases noDigit
        · decide

/-- The constant of a value is an identifier, if there is one. -/
theorem isIdentifier_enumConstant {text : String} (usable : enumConstant text ≠ "") :
    isIdentifier (enumConstant text) = true := by
  rw [isIdentifier_iff (enumConstant_plain text).1 usable]
  rw [enumConstant_eq, String.toList_ofList]
  cases upper (joinUnderscore (segments text.toList)) with
  | nil => rfl
  | cons c rest =>
      rw [markDigit]
      split
      next digit => simp
      next noDigit => simpa using noDigit

end Naming

/-! ## Keywords -/

namespace Target.Language

open Naming

/-- Can a name stand in generated code as it is? -/
def isLegal (language : Language) (name : String) : Bool :=
  isIdentifier name && !language.keywords.contains name

/-- Can a name stand for a member? In Kotlin a keyword can, between backticks. -/
def isLegalMember (language : Language) (name : String) : Bool :=
  match language with
  | python => isLegal python name
  | kotlin =>
      isLegal kotlin name || kotlin.keywords.any fun keyword => name == "`" ++ keyword ++ "`"

/-- The keywords that start with a capital. -/
def capitalKeywords : Language → List String
  | python => ["False", "None", "True"]
  | kotlin => []

theorem isLegal_iff {language : Language} {name : String} :
    language.isLegal name = true ↔ isIdentifier name = true ∧ name ∉ language.keywords := by
  simp [isLegal]

theorem keywords_small (language : Language) :
    ∀ keyword ∈ language.keywords, keyword.toList.head?.any Char.isLower = true ∨
      keyword ∈ language.capitalKeywords := by
  cases language <;> decide

/-- No keyword is written in capitals. -/
theorem exists_small_of_keyword (language : Language) :
    ∀ keyword ∈ language.keywords, ∃ c ∈ keyword.toList, c.isLower = true := by
  have small : ∀ keyword ∈ language.keywords, keyword.toList.any Char.isLower = true := by
    cases language <;> decide
  intro keyword member
  exact List.any_eq_true.mp (small keyword member)

theorem capitalKeywords_subset (language : Language) :
    ∀ keyword ∈ language.capitalKeywords, keyword ∈ language.keywords := by
  cases language <;> decide

/-- A name that starts with no small letter is a keyword only if it is one of few. -/
theorem mem_keywords_iff {language : Language} {name : String}
    (start : name.toList.head?.any Char.isLower = false) :
    name ∈ language.keywords ↔ name ∈ language.capitalKeywords := by
  refine ⟨fun keyword => ?_, language.capitalKeywords_subset name⟩
  rcases language.keywords_small name keyword with small | capital
  · rw [start] at small
    cases small
  · exact capital

theorem isIdentifier_keyword (language : Language) :
    ∀ keyword ∈ language.keywords, isIdentifier keyword = true := by
  cases language <;> decide

/-- Keywords are escaped to names that are none. -/
theorem isLegalMember_keyword (language : Language) :
    ∀ keyword ∈ language.keywords, language.isLegalMember (language.memberName keyword) = true := by
  cases language <;> decide

/-- Only a name with backticks can stand for a member and not elsewhere. -/
theorem isLegalMember_of_plain {language : Language} {name : String} (plain : IsPlain name) :
    language.isLegalMember name = language.isLegal name := by
  cases language with
  | python => rfl
  | kotlin =>
      have noTick : ∀ keyword ∈ kotlin.keywords, ¬(name == "`" ++ keyword ++ "`") = true := by
        intro keyword _ same
        rw [beq_iff_eq] at same
        have tick := plain (Char.ofNat 96) (by rw [same]; simp)
        revert tick
        decide
      rw [isLegalMember, List.any_eq_false.mpr noTick, Bool.or_false]

/-- A member can have the name that a field gives it, keyword or not, if that is an identifier. -/
theorem isLegalMember_iff {language : Language} {name : String} (plain : IsPlain name)
    (usable : name ≠ "") :
    language.isLegalMember (language.memberName name) = true ↔
      name.toList.head?.any Char.isDigit = false := by
  rw [← isIdentifier_iff plain usable]
  by_cases keyword : name ∈ language.keywords
  · exact iff_of_true (language.isLegalMember_keyword name keyword)
      (language.isIdentifier_keyword name keyword)
  · have kept : language.memberName name = name := by simp [memberName, keyword]
    rw [kept, isLegalMember_of_plain plain, isLegal_iff]
    exact and_iff_left keyword

end Target.Language

/-! ## Names of types -/

namespace Schema

/-- Types that are named after what the document calls them, maybe with a number behind the name. -/
structure NamedType.FollowsSource (type : NamedType) : Prop where
  usable : Naming.typeName type.sourceName ≠ ""
  name : type.name = Naming.typeName type.sourceName ∨
    ∃ number, type.name = SymbolTable.numbered (Naming.typeName type.sourceName) number

/-- The first character of a type's name is that of its name in the document, as a capital. -/
theorem NamedType.FollowsSource.head? {type : NamedType} (follows : type.FollowsSource) :
    type.name.toList.head? = (Naming.leading? type.sourceName).map Char.toUpper := by
  rw [← Naming.head?_typeName]
  rcases follows.name with same | ⟨number, same⟩
  · rw [same]
  · rw [same, SymbolTable.numbered, String.toList_append]
    exact List.head?_append_of_ne_nil _ fun empty =>
      follows.usable (String.toList_eq_nil_iff.mp empty)

theorem NamedType.FollowsSource.start {type : NamedType} (follows : type.FollowsSource) :
    type.name.toList.head?.any Char.isLower = false := by
  rw [follows.head?]
  cases Naming.leading? type.sourceName with
  | none => rfl
  | some c => exact Naming.isLower_toUpper c

theorem addObjects_followsSource {table : SymbolTable} {objects : List (String × List Field)}
    (types : ∀ type ∈ table.types, type.FollowsSource)
    (usable : ∀ object ∈ objects, Naming.typeName object.1 ≠ "") :
    ∀ type ∈ (table.addObjects objects).types, type.FollowsSource := by
  induction objects generalizing table with
  | nil => exact types
  | cons object rest ih =>
      rw [List.forall_mem_cons] at usable
      rw [SymbolTable.addObjects_cons]
      refine ih ?_ usable.2
      intro type member
      rcases List.mem_append.mp member with old | new
      · exact types type old
      · rw [List.mem_singleton.mp new]
        exact ⟨usable.1, table.uniqueName_eq _⟩

theorem declaredTypes_followsSource (number : String → Nat) (start : Nat)
    {shapes : List (String × DeclarationShape)}
    (usable : ∀ shape ∈ shapes, Naming.typeName shape.1 ≠ "") :
    ∀ type ∈ declaredTypes number start shapes, type.FollowsSource := by
  induction shapes generalizing start with
  | nil => simp [declaredTypes]
  | cons first rest ih =>
      rw [List.forall_mem_cons] at usable
      rw [declaredTypes, List.forall_mem_cons]
      exact ⟨⟨usable.1, .inl rfl⟩, ih _ usable.2⟩

/-- The types of a section are named after its declarations and, in them, after objects without a
name. -/
theorem ReadsAs.followsSource {entries : Document.Entries}
    {shapes : List (String × DeclarationShape)} (reads : ReadsAs entries shapes) :
    ∀ type ∈ (assemble shapes).types, type.FollowsSource := by
  have distinct : (shapes.map (·.1)).Nodup := by
    rw [reads.names]
    exact reads.distinct
  have numbered : ∀ name, (SymbolTable.directory (shapes.map (·.1))).knows name = true →
      (SymbolTable.directory (shapes.map (·.1))).number name < shapes.length +
        sectionSize shapes := by
    intro name isKnown
    have lt := SymbolTable.number_lt_of_knows distinct isKnown
    rw [List.length_map] at lt
    omega
  refine addObjects_followsSource (declaredTypes_followsSource _ _ reads.usable) ?_
  intro object member
  exact (sectionObjects_closed numbered reads.sound (Nat.le_refl _) object member).1

theorem setConstraints_followsSource {graph : TypeGraph}
    (types : ∀ type ∈ graph.types, type.FollowsSource) (owner : Nat) (fieldName : String)
    (constraints : List Directive) :
    ∀ type ∈ (graph.setConstraints owner fieldName constraints).types, type.FollowsSource := by
  intro type member
  obtain ⟨id, here⟩ := List.mem_iff_getElem?.mp member
  obtain ⟨before, found, rfl | ⟨synthesized, fields, _, rfl⟩⟩ := getElem?_setConstraints here
  · exact types type (List.mem_of_getElem? found)
  · have follows := types before (List.mem_of_getElem? found)
    exact ⟨follows.usable, follows.name⟩

theorem attach_followsSource {rules : ConstraintRules} {graph compiled : TypeGraph}
    {pending : List Pending} (types : ∀ type ∈ graph.types, type.FollowsSource) {log : Log}
    (done : ((attach rules graph pending).run log).1 = .ok compiled) :
    ∀ type ∈ compiled.types, type.FollowsSource := by
  induction pending generalizing graph log with
  | nil =>
      cases done
      exact types
  | cons first rest ih =>
      obtain ⟨constraints, between, _, done⟩ := Logged.run_bind_eq_ok done
      exact ih (setConstraints_followsSource types _ _ constraints) done

end Schema

/-! ## Units -/

/-- The units that are not shared have the names of the types, in order. -/
theorem Target.Generated.map_name {style : Target.Style} {graph : Schema.TypeGraph}
    {comment : String} {ofTypes shared : List Target.OutputUnit}
    (generated : Target.Generated style graph comment ofTypes shared) :
    ((ofTypes ++ shared).filter (!·.shared)).map (·.name) = graph.types.map (·.name) := by
  rw [generated.filter_types]
  have named : List.Forall₂ (fun type unit => unit.name = type.name) graph.types ofTypes := by
    refine generated.rendered.imp ?_
    rintro type unit ⟨body, _, rfl⟩
    rfl
  clear generated
  generalize graph.types = types at named
  induction named with
  | nil => rfl
  | cons here _ ih => rw [List.map_cons, List.map_cons, here, ih]

namespace Compiler

open Naming Schema Target

/-- The types of every document that compiles are named after what the document calls them. -/
theorem followsSource_of_compile {compiler : Compiler} {name : String} {root : Option Document.Node}
    {graph : TypeGraph} (done : (compiler.compile name root).outcome.1 = .ok graph) :
    ∀ type ∈ graph.types, type.FollowsSource := by
  obtain ⟨entries, plain, pending, analysed, done⟩ := compile_eq_ok done
  obtain ⟨attached, between, attaching, done⟩ := Logged.run_bind_eq_ok done
  cases done
  obtain ⟨shapes, reads, _, rfl, _⟩ := analyze_eq_ok_iff.mp analysed
  exact attach_followsSource reads.followsSource attaching

/-- The name of a type can stand in generated code unless it starts with a digit or is a keyword
with a capital. -/
theorem isLegal_typeName_iff {language : Language} {type : NamedType} (follows : type.FollowsSource)
    (plain : IsPlain type.name) (named : type.name ≠ "") :
    language.isLegal type.name = true ↔
      leadsWithDigit type.sourceName = false ∧ type.name ∉ language.capitalKeywords := by
  rw [Language.isLegal_iff, isIdentifier_iff plain named, Language.mem_keywords_iff follows.start,
    follows.head?, leadsWithDigit]
  cases leading? type.sourceName with
  | none => rfl
  | some c => rw [Option.map_some, Option.any_some, Option.any_some, isDigit_toUpper]

theorem isLegal_fieldName_iff {language : Language} {field : Field}
    (conventional : field.Conventional) :
    language.isLegalMember (language.memberName field.name) = true ↔
      leadsWithDigit field.sourceName = false := by
  have usable := conventional.usable
  rw [conventional.name] at usable ⊢
  rw [Language.isLegalMember_iff (fieldName_plain _) usable, head?_fieldName, leadsWithDigit]
  cases leading? field.sourceName with
  | none => rfl
  | some c => rw [Option.map_some, Option.any_some, Option.any_some, isDigit_toLower]

/-- Constants can always stand in generated code. -/
theorem isLegal_enumConstant (language : Language) {text : String}
    (usable : enumConstant text ≠ "") :
    language.isLegal (enumConstant text) = true := by
  rw [Language.isLegal_iff]
  refine ⟨isIdentifier_enumConstant usable, fun keyword => ?_⟩
  obtain ⟨c, member, small⟩ := language.exists_small_of_keyword _ keyword
  rw [(enumConstant_plain text).2 c member] at small
  cases small

/-- Which names that are generated for a document are legal in the language. The name of a type is
legal unless the first letter or digit of its name in the document is a digit, or the name is one of
the keywords with a capital. The name of a member is legal unless the first letter or digit of its
property is a digit, also if that is a keyword. Constants are always legal. -/
theorem emitted_names_legal_iff {compiler : Compiler} {name : String} {root : Option Document.Node}
    {units : List OutputUnit} (done : (compiler.generate name root).outcome.1 = .ok units) :
    ∃ graph, (compiler.compile name root).outcome.1 = .ok graph ∧
      (units.filter (!·.shared)).map (·.name) = graph.types.map (·.name) ∧
      ∀ type ∈ graph.types,
        (compiler.language.isLegal type.name = true ↔
          leadsWithDigit type.sourceName = false ∧ type.name ∉ compiler.language.capitalKeywords) ∧
        (∀ field ∈ type.fields,
          compiler.language.isLegalMember (compiler.language.memberName field.name) = true ↔
            leadsWithDigit field.sourceName = false) ∧
        ∀ values, type.body = .enumeration values → ∀ value ∈ values,
          compiler.language.isLegal value = true := by
  obtain ⟨graph, ofTypes, shared, compiles, rfl, generated⟩ := generate_eq_ok done
  refine ⟨graph, compiles, generated.map_name, fun type member => ?_⟩
  have compiled := compiled_of_compile compiles
  have conventional := compiled.conventional type member
  refine ⟨?_, ?_, ?_⟩
  · exact isLegal_typeName_iff (followsSource_of_compile compiles type member) conventional.name
      (ClosedTypes.named compiled.closed type member)
  · exact fun field isField => isLegal_fieldName_iff (conventional.fields field isField)
  · intro values isEnumeration value isValue
    obtain ⟨usable, text, rfl⟩ := conventional.constants values isEnumeration value isValue
    exact isLegal_enumConstant compiler.language usable

/-- A document with names that start with a digit, and with keywords. -/
def numerals : Document.Node :=
  .mapping 1 [("D", .mapping 1 [
    ("2fa", .mapping 2 [("type", .scalar 2 (.text "object")), ("properties", .mapping 3 [
      ("1st", .mapping 3 [("type", .scalar 3 (.text "string"))]),
      ("class", .mapping 4 [("type", .scalar 4 (.text "string"))])])]),
    ("none", .mapping 5 [("type", .scalar 5 (.text "string"))]),
    ("level", .mapping 6 [("type", .scalar 6 (.text "string")), ("enum", .sequence 6 [
      .scalar 6 (.text "1"), .scalar 6 (.text "low-mid")])])])]

/-- A compiler for a language, without comments and constraints. -/
def bareCompiler (language : Language) : Compiler :=
  { settings :=
      { schemasPath := some (.list [.text "D"])
        generateValidations := .bool false
        addGenerationComment := .bool false }
    language }

theorem numerals_names_legal_iff :
    ∃ units graph, ((bareCompiler .kotlin).generate "d" (some numerals)).outcome.1 = .ok units ∧
      ((bareCompiler .kotlin).compile "d" (some numerals)).outcome.1 = .ok graph ∧
      graph.types.map (·.name) = ["2Fa", "None", "Level"] ∧
      ∀ type ∈ graph.types,
        (Language.kotlin.isLegal type.name = true ↔
          leadsWithDigit type.sourceName = false ∧ type.name ∉ Language.kotlin.capitalKeywords) ∧
        (∀ field ∈ type.fields,
          Language.kotlin.isLegalMember (Language.kotlin.memberName field.name) = true ↔
            leadsWithDigit field.sourceName = false) ∧
        ∀ values, type.body = .enumeration values → ∀ value ∈ values,
          Language.kotlin.isLegal value = true := by
  have names : ((bareCompiler .kotlin).generate "d" (some numerals)).outcome.1.toOption.map
      (fun units => (units.filter (!·.shared)).map (·.name)) = some ["2Fa", "None", "Level"] := by
    decide +kernel
  obtain ⟨units, found, named⟩ := Option.map_eq_some_iff.mp names
  have done := eq_ok_of_toOption found
  obtain ⟨graph, compiles, same, legal⟩ := emitted_names_legal_iff done
  exact ⟨units, graph, done, compiles, same.symm.trans named, legal⟩

/-- Generated names may start with a digit, and the name of a type may be a keyword. -/
theorem numerals_names_illegal :
    ∃ units graph, ((bareCompiler .python).generate "d" (some numerals)).outcome.1 = .ok units ∧
      ((bareCompiler .python).compile "d" (some numerals)).outcome.1 = .ok graph ∧
      units.map (·.name) = ["2Fa", "None", "Level"] ∧
      graph.types.map (·.fields.map fun field => Language.python.memberName field.name) =
        [["1St", "class_"], [], []] ∧
      Language.python.isLegal "2Fa" = false ∧ Language.python.isLegal "None" = false ∧
      Language.python.isLegalMember "1St" = false ∧
      Language.python.isLegalMember "class_" = true := by
  have names : ((bareCompiler .python).generate "d" (some numerals)).outcome.1.toOption.map
      (·.map (·.name)) = some ["2Fa", "None", "Level"] := by decide +kernel
  have fields : ((bareCompiler .python).compile "d" (some numerals)).outcome.1.toOption.map
      (·.types.map (·.fields.map fun field => Language.python.memberName field.name)) =
        some [["1St", "class_"], [], []] := by decide +kernel
  obtain ⟨units, generates, named⟩ := Option.map_eq_some_iff.mp names
  obtain ⟨graph, compiles, members⟩ := Option.map_eq_some_iff.mp fields
  refine ⟨units, graph, eq_ok_of_toOption generates, eq_ok_of_toOption compiles, named, members, ?_⟩
  decide +kernel

end Compiler

end SchemaCompiler
