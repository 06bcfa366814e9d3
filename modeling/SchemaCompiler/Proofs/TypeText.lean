import SchemaCompiler.Proofs.Identifier

/-!
# What the text of a type says

The text of a type is read back up to one confusion: a named type whose name is the text of a
built-in type cannot be told from that. Whoever reads the text takes it for the built-in type
(`asRead`), and two types have the same text exactly if they are read as the same. Where no name is
that of a built-in type, the text says which type it is. In a compiled graph few names can be: types
have no small letter at the start of their names, which leaves `Any` in Python and the four scalars
in Kotlin.
-/

namespace SchemaCompiler

namespace Schema

/-- A type and, if it is an array, what is in it, down to the elements that are no array. -/
def TypeExpr.layers : TypeExpr → List TypeExpr
  | .array items => .array items :: items.layers
  | type => [type]

/-- Does a type occur in a graph: as that of a field, as the target of an alias, or in the arrays of
these? -/
def TypeGraph.Occurs (graph : TypeGraph) (type : TypeExpr) : Prop :=
  ∃ owner ∈ graph.types, ∃ use ∈ owner.uses, type ∈ use.2.layers

theorem TypeExpr.Closed.exists_named {types : List NamedType} {id : Nat}
    (closed : (TypeExpr.named id).Closed types.length) : ∃ named, types[id]? = some named :=
  ⟨_, List.getElem?_eq_getElem (show id < types.length from closed)⟩

theorem TypeExpr.Closed.of_mem_layers {count : Nat} {type layer : TypeExpr}
    (closed : type.Closed count) (member : layer ∈ type.layers) : layer.Closed count := by
  induction type with
  | array items ih =>
      rcases List.mem_cons.mp member with rfl | inside
      · exact closed
      · exact ih closed inside
  | scalar kind => rwa [List.mem_singleton.mp member]
  | any => rwa [List.mem_singleton.mp member]
  | named id => rwa [List.mem_singleton.mp member]
  | unresolved name pointer => cases closed
  | missing => cases closed

theorem TypeGraph.Closed.of_occurs {graph : TypeGraph} (closed : graph.Closed) {type : TypeExpr}
    (occurs : graph.Occurs type) : type.Closed graph.types.length := by
  obtain ⟨owner, member, use, isUse, layer⟩ := occurs
  have used : use.2.Closed graph.types.length := ClosedTypes.closed closed owner member use isUse
  exact used.of_mem_layers layer

end Schema

namespace Target.Language

open Schema

/-! ## Built-in types -/

/-- The built-in type with a text. -/
def builtin? (language : Language) (text : String) : Option TypeExpr :=
  if text = language.anyText then some .any
  else (ScalarKind.all.find? fun kind => language.scalarText kind == text).map .scalar

/-- The texts of built-in types that can be the name of a type as well. -/
def builtinNames : Language → List String
  | python => ["Any"]
  | kotlin => ["String", "Int", "Double", "Boolean"]

theorem builtin?_anyText (language : Language) :
    language.builtin? language.anyText = some .any := by
  cases language <;> decide

theorem builtin?_scalarText (language : Language) (kind : ScalarKind) :
    language.builtin? (language.scalarText kind) = some (.scalar kind) := by
  cases language <;> cases kind <;> decide

/-- Built-in types are found by their text. -/
theorem builtin?_eq_some {language : Language} {text : String} {type : TypeExpr}
    (found : language.builtin? text = some type) :
    (type = .any ∧ text = language.anyText) ∨
      ∃ kind, type = .scalar kind ∧ text = language.scalarText kind := by
  unfold builtin? at found
  split at found
  next same =>
    cases found
    exact .inl ⟨rfl, same⟩
  next =>
    obtain ⟨kind, isKind, rfl⟩ := Option.map_eq_some_iff.mp found
    have same := List.find?_some isKind
    exact .inr ⟨kind, rfl, (beq_iff_eq.mp same).symm⟩

/-- Of the names that types can have, few are the text of a built-in type. -/
theorem builtin?_isSome_iff {language : Language} {name : String} (plain : Naming.IsPlain name)
    (start : name.toList.head?.any Char.isLower = false) :
    (language.builtin? name).isSome = true ↔ name ∈ language.builtinNames := by
  constructor
  · intro found
    obtain ⟨type, found⟩ := Option.isSome_iff_exists.mp found
    rcases builtin?_eq_some found with ⟨_, rfl⟩ | ⟨kind, _, rfl⟩
    · cases language with
      | python => decide
      | kotlin =>
          have mark := plain '?' (by decide)
          revert mark
          decide
    · revert start
      cases language <;> cases kind <;> decide
  · intro listed
    have found : ∀ name ∈ language.builtinNames, (language.builtin? name).isSome = true := by
      cases language <;> decide
    exact found name listed

/-! ## Reading a text -/

/-- The type that the text of a type is read as. -/
def asRead (language : Language) (types : List NamedType) : TypeExpr → TypeExpr
  | .array items => .array (language.asRead types items)
  | .named id => ((types[id]?).bind fun type => language.builtin? type.name).getD (.named id)
  | type => type

/-- Types that are what their text says: they are resolved, and the name in them is no built-in
type's. -/
def Genuine (language : Language) (types : List NamedType) : TypeExpr → Prop
  | .scalar _ => True
  | .any => True
  | .array items => language.Genuine types items
  | .named id => ∃ type, types[id]? = some type ∧ language.builtin? type.name = none
  | .unresolved _ _ => False
  | .missing => False

theorem typeText_named {language : Language} {types : List NamedType} {id : Nat} {type : NamedType}
    (present : types[id]? = some type) : language.typeText types (.named id) = .ok type.name := by
  rw [typeText, present]

theorem asRead_genuine (language : Language) {types : List NamedType} {type : TypeExpr}
    (closed : type.Closed types.length) : language.Genuine types (language.asRead types type) := by
  induction type with
  | scalar kind => trivial
  | any => trivial
  | array items ih => exact ih closed
  | named id =>
      obtain ⟨named, present⟩ := closed.exists_named
      rw [asRead, present, Option.bind_some]
      cases found : language.builtin? named.name with
      | none => exact ⟨named, present, found⟩
      | some type =>
          rcases builtin?_eq_some found with ⟨rfl, _⟩ | ⟨kind, rfl, _⟩ <;> trivial
  | unresolved name pointer => cases closed
  | missing => cases closed

/-- Reading a text as another type keeps the text. -/
theorem typeText_asRead (language : Language) {types : List NamedType} {type : TypeExpr}
    (closed : type.Closed types.length) :
    language.typeText types (language.asRead types type) = language.typeText types type := by
  induction type with
  | scalar kind => rfl
  | any => rfl
  | array items ih => rw [asRead, typeText, typeText, ih closed]
  | named id =>
      obtain ⟨named, present⟩ := closed.exists_named
      rw [asRead, present, Option.bind_some]
      cases found : language.builtin? named.name with
      | none => rfl
      | some type =>
          rw [Option.getD_some, typeText_named present]
          rcases builtin?_eq_some found with ⟨rfl, same⟩ | ⟨kind, rfl, same⟩
          · rw [typeText, same]
          · rw [typeText, same]
  | unresolved name pointer => cases closed
  | missing => cases closed

/-- Where no name is that of a built-in type, every type is read as itself. -/
theorem asRead_eq_self {language : Language} {types : List NamedType}
    (free : ∀ type ∈ types, language.builtin? type.name = none) (type : TypeExpr) :
    language.asRead types type = type := by
  induction type with
  | array items ih => rw [asRead, ih]
  | named id =>
      rw [asRead]
      cases present : types[id]? with
      | none => rfl
      | some type =>
          rw [Option.bind_some, free type (List.mem_of_getElem? present), Option.getD_none]
  | scalar kind => rfl
  | any => rfl
  | unresolved name pointer => rfl
  | missing => rfl

/-! ## Texts tell genuine types apart -/

/-- The bracket that opens the elements of an array. -/
def bracket : Language → Char
  | python => '['
  | kotlin => '<'

theorem bracket_mem_arrayText (language : Language) (items : String) :
    language.bracket ∈ (language.arrayText items).toList := by
  cases language <;> simp [arrayText, bracket]

theorem bracket_not_mem_builtin (language : Language) {text : String} {type : TypeExpr}
    (found : language.builtin? text = some type) : language.bracket ∉ text.toList := by
  rcases builtin?_eq_some found with ⟨_, rfl⟩ | ⟨kind, _, rfl⟩
  · cases language <;> decide
  · cases language <;> cases kind <;> decide

theorem bracket_not_mem_plain (language : Language) {name : String} (plain : Naming.IsPlain name) :
    language.bracket ∉ name.toList := by
  intro member
  have plainBracket := plain _ member
  revert plainBracket
  cases language <;> decide

theorem arrayText_injective (language : Language) {left right : String}
    (same : language.arrayText left = language.arrayText right) : left = right := by
  have lists := congrArg String.toList same
  cases language <;>
    simpa [arrayText, String.toList_append, String.toList_inj] using lists

/-- The text of an array has a bracket, and that of no other type has. -/
theorem arrayText_ne_leaf {language : Language} {types : List NamedType} {items text : String}
    {type : TypeExpr} (plain : ∀ type ∈ types, Naming.IsPlain type.name)
    (noArray : ∀ items, type ≠ .array items) (written : language.typeText types type = .ok text) :
    language.arrayText items ≠ text := by
  intro same
  have bracketed := language.bracket_mem_arrayText items
  rw [same] at bracketed
  cases type with
  | array inner => exact noArray inner rfl
  | scalar kind =>
      cases written
      exact language.bracket_not_mem_builtin (language.builtin?_scalarText kind) bracketed
  | any =>
      cases written
      exact language.bracket_not_mem_builtin language.builtin?_anyText bracketed
  | named id =>
      cases present : types[id]? with
      | none =>
          rw [typeText, present] at written
          exact fail_ne_ok written
      | some named =>
          rw [typeText_named present] at written
          cases written
          exact language.bracket_not_mem_plain
            (plain named (List.mem_of_getElem? present)) bracketed
  | unresolved name pointer => exact fail_ne_ok written
  | missing => exact fail_ne_ok written

/-- The type without brackets that has a text: a built-in type, or else the one with that name. -/
def ofText (language : Language) (types : List NamedType) (text : String) : TypeExpr :=
  (language.builtin? text).getD (.named ((types.map (·.name)).idxOf text))

/-- A genuine type that is no array can be read off its text. -/
theorem eq_ofText {language : Language} {types : List NamedType} {type : TypeExpr} {text : String}
    (distinct : (types.map (·.name)).Nodup) (genuine : language.Genuine types type)
    (noArray : ∀ items, type ≠ .array items) (written : language.typeText types type = .ok text) :
    type = language.ofText types text := by
  cases type with
  | scalar kind =>
      cases written
      rw [ofText, builtin?_scalarText, Option.getD_some]
  | any =>
      cases written
      rw [ofText, builtin?_anyText, Option.getD_some]
  | array items => exact absurd rfl (noArray items)
  | named id =>
      obtain ⟨named, present, free⟩ := genuine
      rw [typeText_named present] at written
      cases written
      have here : (types.map (·.name))[id]? =
        some named.name := by rw [List.getElem?_map, present, Option.map_some]
      obtain ⟨lt, here⟩ := List.getElem?_eq_some_iff.mp here
      rw [ofText, free, Option.getD_none, ← here, distinct.idxOf_getElem]
  | unresolved name pointer => cases genuine
  | missing => cases genuine

section Injective

variable {language : Language} {types : List NamedType} {left right : TypeExpr} {text : String}

theorem leaf_eq_of_typeText (plain : ∀ type ∈ types, Naming.IsPlain type.name)
    (distinct : (types.map (·.name)).Nodup) (leftGenuine : language.Genuine types left)
    (rightGenuine : language.Genuine types right) (noArray : ∀ items, left ≠ .array items)
    (leftText : language.typeText types left = .ok text)
    (rightText : language.typeText types right = .ok text) :
    left = right := by
  by_cases isArray : ∃ items, right = .array items
  · obtain ⟨items, rfl⟩ := isArray
    obtain ⟨inner, _, same⟩ := map_eq_ok rightText
    exact absurd same (arrayText_ne_leaf plain noArray leftText)
  · have rightLeaf : ∀ items, right ≠ .array items := fun items same => isArray ⟨items, same⟩
    rw [eq_ofText distinct leftGenuine noArray leftText,
      eq_ofText distinct rightGenuine rightLeaf rightText]

/-- Genuine types with the same text are the same. -/
theorem eq_of_typeText (plain : ∀ type ∈ types, Naming.IsPlain type.name)
    (distinct : (types.map (·.name)).Nodup) (leftGenuine : language.Genuine types left)
    (rightGenuine : language.Genuine types right)
    (leftText : language.typeText types left = .ok text)
    (rightText : language.typeText types right = .ok text) : left = right := by
  induction left generalizing right text with
  | array items ih =>
      obtain ⟨inner, innerText, rfl⟩ := map_eq_ok leftText
      by_cases isArray : ∃ others, right = .array others
      · obtain ⟨others, rfl⟩ := isArray
        obtain ⟨other, otherText, same⟩ := map_eq_ok rightText
        obtain rfl := language.arrayText_injective same
        have inside : language.Genuine types others := rightGenuine
        rw [ih leftGenuine inside innerText otherText]
      · have rightLeaf : ∀ others, right ≠ .array others :=
          fun others same => isArray ⟨others, same⟩
        exact absurd rfl (arrayText_ne_leaf plain rightLeaf rightText)
  | scalar | any | named | unresolved | missing =>
      exact leaf_eq_of_typeText plain distinct leftGenuine rightGenuine (by simp) leftText rightText

end Injective

/-- Two types have the same text exactly if they are read as the same. -/
theorem typeText_eq_iff (language : Language) {types : List NamedType} {left right : TypeExpr}
    (plain : ∀ type ∈ types, Naming.IsPlain type.name) (distinct : (types.map (·.name)).Nodup)
    (leftClosed : left.Closed types.length) (rightClosed : right.Closed types.length) :
    language.typeText types left = language.typeText types right ↔
      language.asRead types left = language.asRead types right := by
  rw [← language.typeText_asRead leftClosed, ← language.typeText_asRead rightClosed]
  refine ⟨fun same => ?_, fun same => by rw [same]⟩
  obtain ⟨text, written⟩ := language.typeText_eq_ok rightClosed
  rw [← language.typeText_asRead rightClosed] at written
  exact eq_of_typeText plain distinct (language.asRead_genuine leftClosed)
    (language.asRead_genuine rightClosed) (same.trans written) written

end Target.Language

namespace Compiler

open Schema Target

/-- What the texts of types say in a document that compiles, in each language. Every type that
occurs has a text. Two of them have the same text exactly if a reader takes them for the same, which
happens to different types only if one of them is named like a built-in type. The types that are
named so are those with a name on a short list; in a document without them, types with the same text
are the same. -/
theorem typeText_unambiguous_iff {compiler : Compiler} {name : String} {root : Option Document.Node}
    {graph : TypeGraph} (done : (compiler.compile name root).outcome.1 = .ok graph)
    (language : Language) :
    (∀ type, graph.Occurs type → ∃ text, language.typeText graph.types type = .ok text) ∧
    (∀ left right, graph.Occurs left → graph.Occurs right →
      (language.typeText graph.types left = language.typeText graph.types right ↔
        language.asRead graph.types left = language.asRead graph.types right)) ∧
    (∀ type ∈ graph.types,
      (language.builtin? type.name).isSome = true ↔ type.name ∈ language.builtinNames) ∧
    ((∀ type ∈ graph.types, type.name ∉ language.builtinNames) →
      ∀ left right, graph.Occurs left → graph.Occurs right →
        language.typeText graph.types left = language.typeText graph.types right →
        left = right) := by
  have compiled := compiled_of_compile done
  have closed {type : TypeExpr} (occurs : graph.Occurs type) : type.Closed graph.types.length :=
    compiled.closed.of_occurs occurs
  have texts : ∀ left right, graph.Occurs left → graph.Occurs right →
      (language.typeText graph.types left = language.typeText graph.types right ↔
        language.asRead graph.types left = language.asRead graph.types right) := by
    intro left right leftOccurs rightOccurs
    exact language.typeText_eq_iff (fun type member => (compiled.conventional type member).name)
      (ClosedTypes.distinct compiled.closed) (closed leftOccurs) (closed rightOccurs)
  have named : ∀ type ∈ graph.types,
      (language.builtin? type.name).isSome = true ↔ type.name ∈ language.builtinNames := by
    intro type member
    exact Language.builtin?_isSome_iff (compiled.conventional type member).name
      (followsSource_of_compile done type member).start
  refine ⟨fun type occurs => language.typeText_eq_ok (closed occurs), texts, named, ?_⟩
  intro free left right leftOccurs rightOccurs same
  have apart : ∀ type ∈ graph.types, language.builtin? type.name = none := by
    intro type member
    rw [← Option.not_isSome_iff_eq_none, named type member]
    exact free type member
  have read := (texts left right leftOccurs rightOccurs).mp same
  rwa [Language.asRead_eq_self apart, Language.asRead_eq_self apart] at read

/-- A document that declares a type with the name of a scalar in Kotlin, and uses both. -/
def strings : Document.Node :=
  .mapping 1 [("D", .mapping 1 [
    ("string", .mapping 2 [("type", .scalar 2 (.text "object")), ("properties", .mapping 3 [
      ("value", .mapping 3 [("type", .scalar 3 (.text "string"))]),
      ("next", .mapping 4 [("$ref", .scalar 4 (.text "#/string"))])])])])]

theorem strings_unambiguous_in_python :
    ∃ graph, ((bareCompiler .python).compile "d" (some strings)).outcome.1 = .ok graph ∧
      (∀ type ∈ graph.types, type.name ∉ Language.python.builtinNames) ∧
      ∀ left right, graph.Occurs left → graph.Occurs right →
        Language.python.typeText graph.types left = Language.python.typeText graph.types right →
          left = right := by
  have names : ((bareCompiler .python).compile "d" (some strings)).outcome.1.toOption.map
      (·.types.map (·.name)) = some ["String"] := by decide +kernel
  obtain ⟨graph, found, named⟩ := Option.map_eq_some_iff.mp names
  have done := eq_ok_of_toOption found
  have free : ∀ type ∈ graph.types, type.name ∉ Language.python.builtinNames := by
    intro type member
    have listed := List.mem_map_of_mem (f := (·.name)) member
    rw [named, List.mem_singleton] at listed
    rw [listed]
    decide
  exact ⟨graph, done, free, (typeText_unambiguous_iff done .python).2.2.2 free⟩

/-- In Kotlin, a type that is declared with the name of a scalar has the text of the scalar. -/
theorem strings_ambiguous_in_kotlin :
    ∃ graph, ((bareCompiler .kotlin).compile "d" (some strings)).outcome.1 = .ok graph ∧
      graph.Occurs (.scalar .string) ∧ graph.Occurs (.named 0) ∧
      Language.kotlin.typeText graph.types (.scalar .string) = .ok "String" ∧
      Language.kotlin.typeText graph.types (.named 0) = .ok "String" := by
  have types : ((bareCompiler .kotlin).compile "d" (some strings)).outcome.1.toOption.map
      (·.types) =
      some [{ name := "String", sourceName := "string", body := .object false [
        { name := "value", sourceName := "value", type := .scalar .string },
        { name := "next", sourceName := "next", type := .named 0 }] }] := by decide +kernel
  obtain ⟨graph, found, areTypes⟩ := Option.map_eq_some_iff.mp types
  refine ⟨graph, eq_ok_of_toOption found, ?_, ?_, rfl, by rw [areTypes]; rfl⟩
  · refine ⟨_, areTypes ▸ List.mem_singleton.mpr rfl, (some "value", .scalar .string), ?_, ?_⟩
    · simp [NamedType.uses]
    · exact List.mem_singleton.mpr rfl
  · refine ⟨_, areTypes ▸ List.mem_singleton.mpr rfl, (some "next", .named 0), ?_, ?_⟩
    · simp [NamedType.uses]
    · exact List.mem_singleton.mpr rfl

end Compiler

end SchemaCompiler
