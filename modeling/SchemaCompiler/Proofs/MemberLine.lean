import Mathlib.Data.List.DropRight
import SchemaCompiler.Proofs.ObjectSource
import SchemaCompiler.Proofs.PythonUnit

/-!
# The members of an object in its text

The members of an object are read off the text of its unit. They stand in the last block of indented
lines, and the reader takes every line of it for a member, except for those that only say that there
is none or that annotate one. The reader knows nothing of how units are written; it starts at
the end, so that nothing at the start of a unit, such as the name of a package, can mislead it. What
it finds are the properties of the object, in order: no type that a field can have looks as if it
could be null, and neither names nor values have the signs that end them.
-/

namespace SchemaCompiler.Target

open Schema (Field NamedType TypeExpr bind_eq_ok map_eq_ok)
open Python (after? after?_append)

/-! ## The reader -/

/-- A member as its line shows it. -/
structure ShownMember where
  name : String
  /-- Does the type say that the member can be null? -/
  nullable : Bool
  /-- Is the member null if nothing is given for it? -/
  nullDefault : Bool
  deriving DecidableEq, Repr

namespace Language

/-- What the line of a member starts with. -/
def memberStart : Language → String
  | python => "    "
  | kotlin => "    val "

/-- What the line of a member ends with. -/
def memberEnd : Language → String
  | python => ""
  | kotlin => ","

/-- What a type that can be null ends with. -/
def nullMark : Language → String
  | python => " | None"
  | kotlin => "?"

/-- Is the value that a member starts with null? -/
def isNullValue : Language → List Char → Bool
  | python, value => value == "None".toList || "_field(default=None, ".toList.isPrefixOf value
  | kotlin, value => value == "null".toList

/-- Is a line one that stands among members but is none: that there are none, or constraints? -/
def isAside : Language → List Char → Bool
  | python, line => line == "    pass".toList
  | kotlin, line => "    @property:Validate(".toList.isPrefixOf line

/-- The member that a line declares: its name up to a colon, its type, and a value behind an equals
sign. -/
def readMember? (language : Language) (line : List Char) : Option ShownMember := do
  let rest ← after? language.memberStart.toList line
  let name := rest.takeWhile (· != ':')
  let rest ← after? ": ".toList (rest.dropWhile (· != ':'))
  let rest ← (after? language.memberEnd.toList.reverse rest.reverse).map List.reverse
  let type := (rest.takeWhile (· != '=')).rdropWhile (· == ' ')
  let value := after? "= ".toList (rest.dropWhile (· != '='))
  return {
    name := String.ofList name
    nullable := language.nullMark.toList.isSuffixOf type
    nullDefault := value.any language.isNullValue }

end Language

/-- Is a line indented? -/
def isIndented (line : List Char) : Bool := "    ".toList.isPrefixOf line

/-- Is a line one that can stand behind the last member? -/
def isClosing (line : List Char) : Bool := line == [] || line == [')']

/-- The last lines that are indented. -/
def memberBlock (lines : List (List Char)) : List (List Char) :=
  ((lines.reverse.dropWhile isClosing).takeWhile isIndented).reverse

/-- The members that the text of a unit shows, if all lines among them can be read. -/
def shownMembers? (language : Language) (body : String) : Option (List ShownMember) :=
  ((memberBlock (sourceLines body)).filter (!language.isAside ·)).mapM language.readMember?

/-! ## Lines at the end of a text -/

/-- The lines at the end of a text are read as they were written, whatever stands before them. -/
theorem sourceLines_tail (text : String) (lead : List String) (last : String) {tail : List String}
    (single : ∀ line ∈ tail, SingleLine line) :
    ∃ before, sourceLines (text ++ unlines (lead ++ last :: tail)) =
      before ++ (tail.map String.toList ++ [[]]) := by
  have cut : (text ++ unlines (lead ++ last :: tail)).toList =
      (text ++ unlines lead ++ last).toList ++ '\n' :: (unlines tail).toList := by
    have one : unlines (last :: tail) = last ++ "\n" ++ unlines tail := by simp [unlines]
    simp [unlines_append, one]
  obtain ⟨before, unified⟩ := unifyLineEnds_append_feed (text ++ unlines lead ++ last).toList
    (unlines tail).toList
  refine ⟨before.splitOn '\n', ?_⟩
  rw [sourceLines, cut, unified, List.splitOn_append_cons_self,
    ← sourceLines_unlines single, sourceLines]

/-- The block behind a line that is not indented. -/
theorem memberBlock_eq {before block closing : List (List Char)} {opening : List Char}
    (isOpening : isIndented opening = false ∧ isClosing opening = false)
    (inside : ∀ line ∈ block, isIndented line = true)
    (closes : ∀ line ∈ closing, isClosing line = true) :
    memberBlock (before ++ opening :: block ++ closing) = block := by
  have apart {line : List Char} (indent : isIndented line = true) : isClosing line = false := by
    obtain ⟨rest, rfl⟩ := List.isPrefixOf_iff_prefix.mp indent
    rfl
  have reversed : (before ++ opening :: block ++ closing).reverse =
      closing.reverse ++ (block.reverse ++ opening :: before.reverse) := by simp
  have stop : (block.reverse ++ opening :: before.reverse).dropWhile isClosing =
      block.reverse ++ opening :: before.reverse := by
    cases lines : block.reverse with
    | nil => rw [List.nil_append, List.dropWhile_cons_of_neg (by simp [isOpening.2])]
    | cons line rest =>
        have indent := inside line (List.mem_reverse.mp (by simp [lines]))
        rw [List.cons_append, List.dropWhile_cons_of_neg (by simp [apart indent])]
  rw [memberBlock, reversed, List.dropWhile_append_of_pos (by simpa using closes), stop,
    List.takeWhile_append_of_pos (by simpa using inside), List.takeWhile_cons_of_neg
      (by simp [isOpening.1]),
    List.append_nil, List.reverse_reverse]

/-! ## Reading a line -/

/-- The line of a member, from its name, its type and the value it starts with. -/
def memberText (language : Language) (name type : List Char) (value : Option (List Char)) :
    List Char :=
  language.memberStart.toList ++ (name ++ (": ".toList ++
    ((type ++ value.elim [] (" = ".toList ++ ·)) ++ language.memberEnd.toList)))

theorem forall_bne {c : Char} {text : List Char} (other : c ∉ text) :
    ∀ d ∈ text, (d != c) = true := by
  intro d member
  rw [bne_iff_ne]
  rintro rfl
  exact other member

theorem takeWhile_ne {c : Char} {text rest : List Char} (other : c ∉ text) :
    (text ++ c :: rest).takeWhile (· != c) = text := by
  rw [List.takeWhile_append_of_pos (forall_bne other), List.takeWhile_cons_of_neg (by simp),
    List.append_nil]

theorem dropWhile_ne {c : Char} {text rest : List Char} (other : c ∉ text) :
    (text ++ c :: rest).dropWhile (· != c) = c :: rest := by
  rw [List.dropWhile_append_of_pos (forall_bne other), List.dropWhile_cons_of_neg (by simp)]

/-- Blanks behind a text go, and nothing else. -/
theorem rdropWhile_blank {text : List Char} (last : text.getLast? ≠ some ' ') :
    text.rdropWhile (· == ' ') = text ∧ (text ++ [' ']).rdropWhile (· == ' ') = text := by
  have own : text.rdropWhile (· == ' ') = text := by
    rw [List.rdropWhile_eq_self_iff]
    intro nonempty blank
    rw [List.getLast?_eq_some_getLast nonempty, beq_iff_eq.mp blank] at last
    exact last rfl
  exact ⟨own, by rw [List.rdropWhile_concat_pos _ _ _ (by simp), own]⟩

/-- A line is read as the member it is written for. -/
theorem readMember?_memberText (language : Language) {name type : List Char} (named : ':' ∉ name)
    (typed : '=' ∉ type) (last : type.getLast? ≠ some ' ') (value : Option (List Char)) :
    language.readMember? (memberText language name type value) =
      some {
        name := String.ofList name
        nullable := language.nullMark.toList.isSuffixOf type
        nullDefault := value.any language.isNullValue } := by
  obtain ⟨own, blank⟩ := rdropWhile_blank last
  have isName (rest : List Char) : (name ++ (": ".toList ++ rest)).takeWhile (· != ':') = name :=
    takeWhile_ne named
  have isRest (rest : List Char) : (name ++ (": ".toList ++ rest)).dropWhile (· != ':') =
      ": ".toList ++ rest :=
    dropWhile_ne named
  unfold Language.readMember? memberText
  rw [after?_append]
  dsimp only [Option.bind_eq_bind, Option.bind_some]
  rw [isName, isRest, after?_append]
  dsimp only [Option.bind_some]
  rw [List.reverse_append, after?_append, Option.map_some, List.reverse_reverse]
  dsimp only [Option.bind_some]
  cases value with
  | none =>
      rw [Option.elim_none, List.append_nil, List.takeWhile_eq_self_iff.mpr (forall_bne typed),
        List.dropWhile_eq_nil_iff.mpr (forall_bne typed), own]
      rfl
  | some value =>
      have cut : type ++ (" = ".toList ++ value) = (type ++ [' ']) ++ '=' :: ' ' :: value := by simp
      have isType : '=' ∉ type ++ [' '] := by simpa using typed
      rw [Option.elim_some, cut, takeWhile_ne isType, dropWhile_ne isType, blank]
      rw [show '=' :: ' ' :: value = "= ".toList ++ value from rfl, after?_append]
      rfl

/-! ## Names and types -/

/-- Does a character occur in the texts of types? -/
def isTypeChar (c : Char) : Bool := c.isAlphanum || "_[]<>?".toList.contains c

theorem isTypeChar_of_plain {name : String} (plain : Naming.IsPlain name) :
    name.toList.all isTypeChar = true := by
  rw [List.all_eq_true]
  intro c member
  rcases plain c member with alphanumeric | rfl
  · rw [isTypeChar, alphanumeric, Bool.true_or]
  · decide

section Types

variable {types : List NamedType} (plain : ∀ type ∈ types, Naming.IsPlain type.name)
include plain

theorem isTypeChar_typeText {language : Language} {type : TypeExpr} {text : String}
    (written : language.typeText types type = .ok text) : text.toList.all isTypeChar = true := by
  induction type generalizing text with
  | scalar kind =>
      cases written
      cases language <;> cases kind <;> decide
  | any =>
      cases written
      cases language <;> decide
  | array items ih =>
      obtain ⟨inner, isInner, rfl⟩ := map_eq_ok written
      have inside := ih isInner
      cases language <;>
        rw [Language.arrayText, String.toList_append, String.toList_append, List.all_append,
          List.all_append, inside] <;>
        decide
  | named id =>
      rw [Language.typeText] at written
      split at written
      next type found =>
        cases written
        exact isTypeChar_of_plain (plain type (List.mem_of_getElem? found))
      next => cases written
  | unresolved name pointer => cases written
  | missing => cases written

/-- The type of a field does not look as if it could be null. -/
theorem nullMark_typeText {language : Language} {type : TypeExpr} {text : String}
    (limited : type ≠ .any) (written : language.typeText types type = .ok text) :
    ¬language.nullMark.toList <:+ text.toList := by
  intro marked
  cases language with
  | python =>
      have blank : ' ' ∈ text.toList := marked.subset (by decide)
      exact absurd (List.all_eq_true.mp (isTypeChar_typeText plain written) ' ' blank) (by decide)
  | kotlin =>
      have isLast : text.toList.getLast? = some '?' := by
        obtain ⟨before, same⟩ := marked
        rw [← same]
        exact List.getLast?_concat
      cases type with
      | scalar kind =>
          cases written
          cases kind <;> revert isLast <;> decide
      | any => exact limited rfl
      | array items =>
          obtain ⟨inner, _, rfl⟩ := map_eq_ok written
          have closing : (Language.kotlin.arrayText inner).toList =
              ("List<" ++ inner).toList ++ ['>'] :=
            String.toList_append
          rw [closing, List.getLast?_concat] at isLast
          exact absurd isLast (by decide)
      | named id =>
          rw [Language.typeText] at written
          split at written
          next type found =>
            cases written
            rcases plain type (List.mem_of_getElem? found) '?'
              (List.mem_of_getLast? isLast) with letter | underscore
            · exact absurd letter (by decide)
            · exact absurd underscore (by decide)
          next => cases written
      | unresolved name pointer => cases written
      | missing => cases written

end Types

theorem colon_not_mem_memberName (language : Language) {name : String}
    (plain : Naming.IsPlain name) :
    ':' ∉ (language.memberName name).toList := by
  have own : ':' ∉ name.toList := by
    intro member
    exact absurd (plain ':' member) (by decide)
  unfold Language.memberName
  split
  · cases language <;> simp [own]
  · exact own

theorem singleLine_memberName (language : Language) {name : String} (plain : Naming.IsPlain name) :
    SingleLine (language.memberName name) := by
  have own := singleLine_of_plain plain
  unfold Language.memberName
  split
  · cases language with
    | python => exact own.append (by decide)
    | kotlin => exact .between (by decide) own (by decide)
  · exact own

/-- A name of letters and digits can be told from its escaped form, as the escapes are neither. -/
theorem filter_memberName (language : Language) {name : String}
    (letters : ∀ c ∈ name.toList, c.isAlphanum = true) :
    (language.memberName name).toList.filter Char.isAlphanum = name.toList := by
  have own : name.toList.filter Char.isAlphanum = name.toList := List.filter_eq_self.mpr letters
  unfold Language.memberName
  split
  · cases language with
    | python =>
        rw [String.toList_append, List.filter_append, own]
        exact List.append_nil _
    | kotlin =>
        rw [String.toList_append, String.toList_append, List.filter_append, List.filter_append, own]
        exact List.append_nil _
  · exact own

/-! ## Members of both languages -/

/-- A type with the mark of one that can be null, if it is optional. -/
def Language.marked (language : Language) (optional : Bool) (type : List Char) : List Char :=
  type ++ if optional then language.nullMark.toList else []

/-- The line of a member whose type is marked if it is optional, and whose value is null exactly
then. -/
theorem readMember?_marked (language : Language) {name : String} (named : ':' ∉ name.toList)
    {type : List Char} (chars : type.all isTypeChar = true)
    (unmarked : ¬language.nullMark.toList <:+ type) {optional : Bool} {value : Option (List Char)}
    (isNull : value.any language.isNullValue = optional) :
    language.readMember? (memberText language name.toList (language.marked optional type) value) =
      some { name, nullable := optional, nullDefault := optional } := by
  have absent {c : Char} (other : isTypeChar c = false) : c ∉ type := by
    intro member
    rw [List.all_eq_true.mp chars c member] at other
    cases other
  have typed : '=' ∉ language.marked optional type := by
    rw [Language.marked, List.mem_append, not_or]
    refine ⟨absent (by decide), ?_⟩
    cases optional <;> cases language <;> decide
  have last : (language.marked optional type).getLast? ≠ some ' ' := by
    cases optional with
    | false =>
        rw [Language.marked, if_neg Bool.false_ne_true, List.append_nil]
        exact fun isLast => absent (by decide) (List.mem_of_getLast? isLast)
    | true =>
        rw [Language.marked, if_pos rfl, List.getLast?_append]
        cases language <;> simp [Language.nullMark]
  have nullable : language.nullMark.toList.isSuffixOf (language.marked optional type) =
      optional := by
    cases optional with
    | false =>
        rw [Language.marked, if_neg Bool.false_ne_true, List.append_nil, Bool.eq_false_iff, ne_eq,
          List.isSuffixOf_iff_suffix]
        exact unmarked
    | true => exact List.isSuffixOf_iff_suffix.mpr (List.suffix_append _ _)
  rw [readMember?_memberText language named typed last value, nullable, isNull,
    String.ofList_toList]

namespace Python

/-- The value that a member starts with is null if the member is optional, with constraints as
without. -/
theorem Member.isNull_initial? (made : Member) :
    (made.initial?.map String.toList).any Language.python.isNullValue = made.optional := by
  unfold Member.initial?
  dsimp only
  cases made.optional with
  | false =>
      split
      · rw [if_neg Bool.false_ne_true, Option.map_some, Option.any_some, String.toList_append,
          String.toList_append]
        rfl
      · rfl
  | true =>
      split
      · rw [if_pos rfl, Option.map_some, Option.any_some, String.toList_append,
          String.toList_append]
        rfl
      · decide

theorem Member.toList_indented (made : Member) :
    ("    " ++ made.line).toList =
      memberText .python made.name.toList (Language.python.marked made.optional made.type.toList)
        (made.initial?.map String.toList) := by
  have mark : (if made.optional then " | None" else "").toList =
      if made.optional then Language.python.nullMark.toList else [] := by
    cases made.optional <;> rfl
  have noEnd : Language.python.memberEnd.toList = [] := rfl
  unfold Member.line
  dsimp only
  split
  next value isValue =>
    rw [isValue, Option.map_some, memberText, Option.elim_some, noEnd, Language.marked]
    simp only [String.toList_append, mark, List.append_assoc, List.append_nil]
    rfl
  next isValue =>
    rw [isValue, Option.map_none, memberText, Option.elim_none, noEnd, Language.marked]
    simp only [String.toList_append, mark, List.append_assoc, List.append_nil]
    rfl

end Python

namespace Kotlin

theorem isNull_value (optional : Bool) :
    (if optional then some "null".toList else none).any Language.kotlin.isNullValue = optional := by
  cases optional <;> decide

/-- The line of a member itself, behind that of its constraints. -/
def Member.lastLine (made : Member) : String :=
  "    val " ++ made.name ++ ": " ++ made.typeText ++
    (if made.optional then " = null" else "") ++ ","

theorem Member.toList_lastLine (made : Member)
    (unmarked : ¬Language.kotlin.nullMark.toList <:+ made.type.toList) :
    made.lastLine.toList =
      memberText .kotlin made.name.toList (Language.kotlin.marked made.optional made.type.toList)
        (if made.optional then some "null".toList else none) := by
  have last : (made.type.toList.getLast? != some '?') = true := by
    rw [bne_iff_ne]
    intro isLast
    obtain ⟨before, same⟩ := List.getLast?_eq_some_iff.mp isLast
    exact unmarked ⟨before, same.symm⟩
  have type : made.typeText.toList = Language.kotlin.marked made.optional made.type.toList := by
    rw [Member.typeText, last, Bool.and_true, Language.marked]
    cases made.optional with
    | false => exact (List.append_nil _).symm
    | true => exact String.toList_append
  have value : (if made.optional then " = null" else "").toList =
      (if made.optional then some "null".toList else none).elim [] (" = ".toList ++ ·) := by
    cases made.optional <;> decide
  rw [memberText, Member.lastLine]
  simp only [String.toList_append, type, value, List.append_assoc]
  rfl

end Kotlin

/-- What the line of a field shows. -/
def ShownMember.ofField (language : Language) (field : Field) : ShownMember :=
  { name := language.memberName field.name, nullable := field.optional,
    nullDefault := field.optional }

theorem plain_of_conventional {field : Field} (conventional : field.Conventional) :
    Naming.IsPlain field.name := by
  rw [conventional.name]
  exact Naming.fieldName_plain _

section Fields

variable {style : Style} {types : List NamedType} (plain : ∀ type ∈ types, Naming.IsPlain type.name)
  {field : Field} (conventional : field.Conventional)
include plain conventional

theorem readMember?_python (limited : field.type ≠ .any) {made : Python.Member}
    (done : Python.member style types field = .ok made) :
    Language.python.readMember? ("    " ++ made.line).toList = some (.ofField .python field) := by
  obtain ⟨type, directives, isType, _, rfl⟩ := Python.member_eq_ok done
  have named := colon_not_mem_memberName .python (plain_of_conventional conventional)
  rw [Python.Member.toList_indented]
  exact readMember?_marked .python named (isTypeChar_typeText plain isType)
    (nullMark_typeText plain limited isType)
    (Python.Member.isNull_initial? _)

theorem readMember?_kotlin (limited : field.type ≠ .any) {made : Kotlin.Member}
    (done : Kotlin.member style types field = .ok made) :
    Language.kotlin.readMember? made.lastLine.toList = some (.ofField .kotlin field) := by
  obtain ⟨type, isType, done⟩ := bind_eq_ok done
  obtain ⟨directives, _, done⟩ := bind_eq_ok done
  cases done
  have named := colon_not_mem_memberName .kotlin (plain_of_conventional conventional)
  have unmarked := nullMark_typeText plain limited isType
  rw [Kotlin.Member.toList_lastLine _ unmarked]
  exact readMember?_marked .kotlin named (isTypeChar_typeText plain isType) unmarked
    (Kotlin.isNull_value _)

end Fields

/-! ## Units of objects -/

theorem mapM_eq_some_of_forall₂ {α β γ δ : Type} {read : γ → Option δ} {line : β → γ}
    {shown : α → δ} {items : List α} {values : List β}
    (each : List.Forall₂ (fun item value => read (line value) = some (shown item)) items values) :
    (values.map line).mapM read = some (items.map shown) := by
  induction each with
  | nil => rfl
  | cons first _ ih =>
      rw [List.map_cons, List.mapM_cons, first, ih]
      rfl

theorem isIndented_append (rest : String) : isIndented ("    " ++ rest).toList = true := by
  rw [isIndented, String.toList_append]
  exact List.isPrefixOf_iff_prefix.mpr (List.prefix_append _ _)

/-- A line that starts with a letter neither belongs to a block nor ends it. -/
theorem isOpening_of_head? {line : List Char} {c : Char} (start : line.head? = some c)
    (letter : c.isAlpha = true) :
    isIndented line = false ∧ isClosing line = false := by
  have apart : c ≠ ' ' ∧ c ≠ ')' := by
    constructor <;> rintro rfl <;> cases letter
  obtain ⟨rest, rfl⟩ := List.head?_eq_some_iff.mp start
  constructor
  · rw [isIndented, Bool.eq_false_iff, ne_eq, List.isPrefixOf_iff_prefix]
    exact fun indented => apart.1 (List.cons_prefix_cons.mp indented).1.symm
  · simp [isClosing, apart.2]

/-- The members of a unit are those of the block at its end. -/
theorem shownMembers?_eq (language : Language) (text : String) {last opening : String}
    {lines lead block closing : List String}
    (written : lines = lead ++ last :: (opening :: block ++ closing))
    (isOpening : isIndented opening.toList = false ∧ isClosing opening.toList = false)
    (inside : ∀ line ∈ block, isIndented line.toList = true ∧ SingleLine line)
    (closes : ∀ line ∈ closing, isClosing line.toList = true ∧ SingleLine line)
    (single : SingleLine opening) :
    shownMembers? language (text ++ unlines lines) =
      ((block.map String.toList).filter (!language.isAside ·)).mapM language.readMember? := by
  have all : ∀ line ∈ opening :: block ++ closing, SingleLine line := by
    rw [List.forall_mem_append, List.forall_mem_cons]
    exact ⟨⟨single, fun line member => (inside line member).2⟩, fun line member =>
      (closes line member).2⟩
  obtain ⟨before, read⟩ := sourceLines_tail text lead last all
  have split : before ++ ((opening :: block ++ closing).map String.toList ++ [[]]) =
      before ++ opening.toList :: block.map String.toList ++
        (closing.map String.toList ++ [[]]) := by simp
  have indents : ∀ line ∈ block.map String.toList, isIndented line = true :=
    List.forall_mem_map.mpr fun line member => (inside line member).1
  have ends : ∀ line ∈ closing.map String.toList ++ [[]], isClosing line = true := by
    rw [List.forall_mem_append, List.forall_mem_map]
    exact ⟨fun line member => (closes line member).1, by decide⟩
  rw [shownMembers?, written, read, split, memberBlock_eq isOpening indents ends]

namespace Python

/-- The lines of the members of an object. -/
def bodyLines (members : List Member) : List String :=
  if members.isEmpty then ["    pass"] else indented (members.map Member.line)

theorem ObjectUnit.lines_eq (unit : ObjectUnit) :
    ∃ lead, unit.lines =
      lead ++ "@dataclass(kw_only=True)" :: ("class " ++ unit.className ++ ":") ::
        bodyLines unit.members :=
  ⟨["from __future__ import annotations", ""] ++ unit.imports.lines ++
    (if unit.typeImports.isEmpty then []
     else ["", "if TYPE_CHECKING:"] ++ indented (unit.typeImports.map Import.line)) ++ ["", ""], by
    simp [ObjectUnit.lines, bodyLines]⟩

theorem forall_bodyLines {holds : String → Prop} {members : List Member} (idle : holds "    pass")
    (each : ∀ made ∈ members, holds ("    " ++ made.line)) :
    ∀ line ∈ bodyLines members, holds line := by
  unfold bodyLines
  split
  · simpa using idle
  · rw [indented, List.map_map, List.forall_mem_map]
    exact each

/-- Members are no asides, as their names end with a colon. -/
theorem isAside_line (made : Member) :
    Language.python.isAside ("    " ++ made.line).toList = false := by
  obtain ⟨rest, written⟩ := made.toList_line
  have colon : ':' ∈ ("    " ++ made.line).toList := by simp [written]
  refine beq_eq_false_iff_ne.mpr fun same => ?_
  rw [same] at colon
  exact absurd colon (by decide)

theorem filter_bodyLines (members : List Member) :
    ((bodyLines members).map String.toList).filter (!Language.python.isAside ·) =
      members.map fun made => ("    " ++ made.line).toList := by
  cases members with
  | nil => decide
  | cons first rest =>
      show ((indented ((first :: rest).map Member.line)).map String.toList).filter _ = _
      rw [indented, List.map_map, List.map_map, List.filter_eq_self.mpr]
      · rfl
      · rw [List.forall_mem_map]
        intro made _
        rw [Bool.not_eq_true']
        exact isAside_line made

end Python

namespace Kotlin

/-- The line of the constraints of a member. -/
def Member.asides (made : Member) : List String :=
  if made.directives.isEmpty then []
    else ["    @property:Validate(" ++ ", ".intercalate made.directives ++ ")"]

theorem Member.lines_eq (made : Member) : made.lines = made.asides ++ [made.lastLine] := rfl

theorem Member.forall_lines {holds : String → Prop} {made : Member} (last : holds made.lastLine)
    (asides : holds ("    @property:Validate(" ++ ", ".intercalate made.directives ++ ")")) :
    ∀ line ∈ made.lines, holds line := by
  rw [made.lines_eq, List.forall_mem_append, Member.asides]
  refine ⟨?_, by simpa using last⟩
  split
  · simp
  · simpa using asides

theorem Member.filter_lines (made : Member) :
    (made.lines.map String.toList).filter (!Language.kotlin.isAside ·) =
      [made.lastLine.toList] := by
  have own : Language.kotlin.isAside made.lastLine.toList = false := by
    rw [Member.lastLine]
    simp only [String.toList_append, List.append_assoc]
    rfl
  have others : (made.asides.map String.toList).filter (!Language.kotlin.isAside ·) = [] := by
    rw [List.filter_eq_nil_iff, List.forall_mem_map, Member.asides]
    split
    · simp
    · rw [List.forall_mem_singleton, String.toList_append, String.toList_append, List.append_assoc,
        Bool.not_eq_true', Bool.not_eq_false]
      exact List.isPrefixOf_iff_prefix.mpr (List.prefix_append _ _)
  rw [made.lines_eq, List.map_append, List.filter_append, others, List.nil_append,
    List.map_singleton, List.filter_singleton, own]
  rfl

theorem filter_lines (members : List Member) :
    ((members.flatMap Member.lines).map String.toList).filter (!Language.kotlin.isAside ·) =
      members.map (·.lastLine.toList) := by
  induction members with
  | nil => rfl
  | cons made rest ih =>
      rw [List.flatMap_cons, List.map_append, List.filter_append, made.filter_lines, ih]
      rfl

theorem Member.isIndented_lines (made : Member) :
    ∀ line ∈ made.lines, isIndented line.toList = true := by
  refine Member.forall_lines ?_ ?_
  · rw [Member.lastLine]
    simp only [String.toList_append, List.append_assoc]
    rfl
  · simp only [String.toList_append, List.append_assoc]
    rfl

theorem Member.singleLine_lines {made : Member} (name : SingleLine made.name)
    (type : SingleLine made.type)
    (directives : ∀ directive ∈ made.directives, SingleLine directive) :
    ∀ line ∈ made.lines, SingleLine line := by
  have isType : SingleLine made.typeText := by
    unfold Member.typeText
    split
    · exact type.append (by decide)
    · exact type
  have value : SingleLine (if made.optional then " = null" else "") := by
    split <;> decide
  refine Member.forall_lines ?_
    (.between (by decide) (.intercalate (by decide) directives) (by decide))
  exact (((SingleLine.append (by decide) name).between (by decide) isType).append value).append
    (by decide)

end Kotlin

section Objects

variable {fields : List Field} (conventional : ∀ field ∈ fields, field.Conventional)
  (limited : ∀ field ∈ fields, field.type ≠ .any)
include conventional limited

theorem forall₂_made {ε β : Type} {make : Field → Except ε β} {members : List β}
    (made : fields.mapM make = .ok members) :
    List.Forall₂
      (fun field member => (field.Conventional ∧ field.type ≠ .any) ∧ make field = .ok member)
      fields members :=
  (List.forall₂_and_left _ _).mpr
    ⟨fun field member => ⟨conventional field member, limited field member⟩,
      forall₂_of_mapM_eq_ok made⟩

variable {style : Style} {types : List NamedType} (plain : ∀ type ∈ types, Naming.IsPlain type.name)
include plain

/-- The block of members of a Python unit is read as the fields it is written for. -/
theorem shownMembers?_python {name : String} (isName : Naming.IsPlain name)
    {unit : Python.ObjectUnit} (done : Python.objectUnit style types name fields = .ok unit)
    (header : String) :
    shownMembers? .python (header ++ unlines unit.lines) =
      some (fields.map (.ofField .python)) := by
  obtain ⟨members, made, done⟩ := bind_eq_ok done
  obtain ⟨lead, written⟩ := unit.lines_eq
  cases done
  have made := forall₂_made conventional limited made
  have lines : ∀ line ∈ Python.bodyLines members, isIndented line.toList = true ∧
      SingleLine line := by
    refine Python.forall_bodyLines (by decide) fun one isMember => ?_
    obtain ⟨field, _, ⟨isConventional, _⟩, written⟩ := exists_left_of_mem made isMember
    exact ⟨isIndented_append _, (Python.member_line plain isConventional written).1⟩
  refine (shownMembers?_eq .python header (written.trans (by rw [List.append_nil]))
    (isOpening_of_head? (c := 'c') (by simp) rfl) lines (List.forall_mem_nil _)
    (.between (by decide) (singleLine_of_plain isName) (by decide))).trans ?_
  rw [Python.filter_bodyLines]
  refine mapM_eq_some_of_forall₂ (made.imp ?_)
  rintro field made ⟨⟨isConventional, isLimited⟩, written⟩
  exact readMember?_python plain isConventional isLimited written

/-- The block of members of a Kotlin unit is read as the fields it is written for, whatever the
package is called. -/
theorem shownMembers?_kotlin {name : String} (isName : Naming.IsPlain name)
    {members : List Kotlin.Member} (made : fields.mapM (Kotlin.member style types) = .ok members)
    (header package : String) :
    shownMembers? .kotlin
      (header ++ unlines (["package " ++ package, ""] ++ Kotlin.objectLines name members)) =
      some (fields.map (.ofField .kotlin)) := by
  have made := forall₂_made conventional limited made
  have lines : ∀ line ∈ members.flatMap Kotlin.Member.lines, isIndented line.toList = true ∧
      SingleLine line := by
    intro line member
    obtain ⟨one, isMember, isLine⟩ := List.mem_flatMap.mp member
    obtain ⟨field, _, ⟨isConventional, _⟩, written⟩ := exists_left_of_mem made isMember
    obtain ⟨type, isType, written⟩ := bind_eq_ok written
    obtain ⟨directives, areDirectives, written⟩ := bind_eq_ok written
    cases written
    have isName := singleLine_memberName .kotlin (plain_of_conventional isConventional)
    exact ⟨Kotlin.Member.isIndented_lines _ line isLine, Kotlin.Member.singleLine_lines isName
      (singleLine_typeText plain isType)
        (Python.singleLine_directives isConventional areDirectives) line isLine⟩
  have read :=
      mapM_eq_some_of_forall₂ (made.imp fun field made ⟨⟨isConventional, isLimited⟩, written⟩ =>
    readMember?_kotlin plain isConventional isLimited written)
  have isClass : SingleLine ("class " ++ name) := .append (by decide) (singleLine_of_plain isName)
  -- an object without members has no brackets, and its block is empty
  cases members with
  | nil =>
      cases made
      have written : ["package " ++ package, ""] ++ Kotlin.objectLines name [] =
          ["package " ++ package] ++ "" :: (("class " ++ name) :: [] ++ []) := rfl
      exact shownMembers?_eq .kotlin header written (isOpening_of_head? (c := 'c') (by simp) rfl)
        (List.forall_mem_nil _) (List.forall_mem_nil _) isClass
  | cons first rest =>
      have written : ["package " ++ package, ""] ++ Kotlin.objectLines name (first :: rest) =
          ["package " ++ package] ++ "" :: (("data class " ++ name ++ "(") ::
            (first :: rest).flatMap Kotlin.Member.lines ++ [")"]) := rfl
      rw [shownMembers?_eq .kotlin header written (isOpening_of_head? (c := 'd') (by simp) rfl)
        lines (by decide) (.between (by decide) (singleLine_of_plain isName) (by decide)),
        Kotlin.filter_lines]
      exact read

end Objects

/-- The unit of an object shows its fields as members, in both languages. -/
theorem shownMembers?_renderType {style : Style} {types : List NamedType}
    (plain : ∀ type ∈ types, Naming.IsPlain type.name) {type : NamedType}
    (conventional : type.Conventional) {synthesized : Bool} {fields : List Field}
    (isObject : type.body = .object synthesized fields)
    (limited : ∀ field ∈ fields, field.type ≠ .any) {header body : String}
    (written : renderType style types header type = .ok body) :
    shownMembers? style.language body = some (fields.map (.ofField style.language)) := by
  have areFields : type.fields = fields := by rw [NamedType.fields, isObject]
  have each := areFields ▸ conventional.fields
  unfold renderType at written
  cases language : style.language with
  | python =>
      rw [language] at written
      obtain ⟨lines, isLines, written⟩ := bind_eq_ok written
      cases written
      rw [Python.typeLines, isObject] at isLines
      obtain ⟨unit, isUnit, rfl⟩ := map_eq_ok isLines
      exact shownMembers?_python each limited plain conventional.name isUnit header
  | kotlin =>
      rw [language] at written
      obtain ⟨lines, isLines, written⟩ := bind_eq_ok written
      cases written
      obtain ⟨definition, isDefinition, isLines⟩ := bind_eq_ok isLines
      obtain ⟨package, isPackage, isLines⟩ := bind_eq_ok isLines
      cases isLines
      rw [Kotlin.definitionLines, isObject] at isDefinition
      obtain ⟨members, made, rfl⟩ := map_eq_ok isDefinition
      obtain ⟨text, _, rfl⟩ := map_eq_ok isPackage
      exact shownMembers?_kotlin each limited plain conventional.name made header text

/-! ## Properties -/

/-- The member that a property asks for: named after it, and if the property does not say that it is
required, one that can be null and is so by default. -/
def memberFor (language : Language) (property : String × Document.Node) : ShownMember :=
  { name := language.memberName (Naming.fieldName property.1)
    nullable := !Schema.saysRequired property.2
    nullDefault := !Schema.saysRequired property.2 }

/-- A text that has the members that the properties of an object ask for, in order, each with a name
of its own. -/
structure ShowsObject (language : Language) (object : Document.Entries) (body : String) : Prop where
  members : shownMembers? language body =
    some ((Schema.objectProperties object).map (memberFor language))
  distinct :
    ((Schema.objectProperties object).map fun property => (memberFor language property).name).Nodup

/-- Fields that are made from properties are shown as the members that these ask for. -/
theorem map_ofField (language : Language) {properties : Document.Entries} {fields : List Field}
    (each : List.Forall₂ Schema.FieldFrom properties fields) :
    fields.map (.ofField language) = properties.map (memberFor language) := by
  induction each with
  | nil => rfl
  | cons first _ ih =>
      rw [List.map_cons, List.map_cons, ih, ShownMember.ofField, first.name, first.optional]
      rfl

theorem nodup_memberNames (language : Language) {properties : Document.Entries}
    {fields : List Field} (made : Schema.FieldsFrom properties fields) :
    (properties.map fun property => (memberFor language property).name).Nodup := by
  have distinct := made.distinct
  rw [Schema.FieldsFrom.map_name made.each] at distinct
  have names : (properties.map fun property => (memberFor language property).name) =
      (properties.map (Naming.fieldName ·.1)).map language.memberName := by
    rw [List.map_map]
    rfl
  have letters : ∀ name ∈ properties.map (Naming.fieldName ·.1), ∀ c ∈ name.toList,
      c.isAlphanum = true := by
    rw [List.forall_mem_map]
    exact fun property _ => Naming.isAlphanum_of_mem_fieldName property.1
  rw [names]
  -- escaping keeps names apart, as the letters and digits of a name give back what was escaped
  refine distinct.map_on fun left isLeft right isRight same => ?_
  apply String.toList_inj.mp
  rw [← filter_memberName language (letters left isLeft), same, filter_memberName language
    (letters right isRight)]

end SchemaCompiler.Target

namespace SchemaCompiler.Compiler

open Schema Target

/-- Every object of a document that generates units, declared or without a name, has a unit that
shows its properties as members: one for each, in order and with different names, where those that
are not required can be null and are so by default. -/
theorem object_units_show_properties {compiler : Compiler} {name : String}
    {root : Option Document.Node} {units : List OutputUnit}
    (done : (compiler.generate name root).outcome.1 = .ok units) :
    ∃ line declarations, findSection root compiler.settings.sectionPath = .ok (line, declarations) ∧
      List.Forall₂
        (fun source unit => ∀ object ∈ source, ShowsObject compiler.language object unit.body)
        (objectSources declarations) (units.filter (!·.shared)) := by
  obtain ⟨graph, ofTypes, shared, compiles, rfl, generated⟩ := generate_eq_ok done
  obtain ⟨line, declarations, found, sources⟩ := compile_sources compiles
  have conventional := (compiled_of_compile compiles).conventional
  refine ⟨line, declarations, found, ?_⟩
  rw [generated.filter_types]
  refine forall₂_trans ?_ sources
    ((List.forall₂_and_left _ _).mpr ⟨conventional, generated.rendered⟩)
  rintro _ type _ made ⟨isConventional, body, written, rfl⟩ object ⟨⟩
  cases isBody : type.body with
  | object synthesized fields =>
      rw [isBody] at made
      cases made with
      | object _ fieldsMade =>
          have limited : ∀ field ∈ fields, field.type ≠ .any := by
            intro field member
            obtain ⟨_, _, isFrom⟩ := exists_left_of_mem fieldsMade.each member
            exact isFrom.limited
          have shown :=
            shownMembers?_renderType (fun type member => (conventional type member).name)
              isConventional
            isBody limited written
          rw [map_ofField _ fieldsMade.each] at shown
          exact ⟨shown, nodup_memberNames _ fieldsMade⟩
  | enumeration values =>
      rw [isBody] at made
      cases made
  | aliasOf target =>
      rw [isBody] at made
      cases made

/-- A section with a keyword for a property, which has constraints, an object without a name, and an
array of any elements. -/
def crates : Document.Entries :=
  [("crate", .mapping 2 [("type", .scalar 2 (.text "object")), ("properties", .mapping 3 [
    ("class", .mapping 3 [("type", .scalar 3 (.text "string")), ("validate", .sequence 4 [
      .mapping 4
        [("pattern", .scalar 4 (.text "regex")), ("value", .scalar 4 (.text "a\n = None"))]])]),
    ("lid", .mapping 5 [("type", .scalar 5 (.text "object")), ("required", .scalar 5 (.bool true)),
      ("properties", .mapping 6 [
        ("lid size",
          .mapping 6 [("required", .scalar 6 (.bool true)), ("type", .scalar 6 (.text "number"))]),
        ("tags", .mapping 7 [("type", .scalar 7 (.text "array"))])])])])])]

/-- The units of the section. Their package looks like the end of an object. -/
def crateUnits (language : Language) : Option (List OutputUnit) :=
  let settings : Settings :=
    { schemasPath := some (.list [.text "D"]), packageName := .text "a\n    val b: Int,\n)" }
  (generate { settings, language } "a.yaml"
    (some (.mapping 1 [("D", .mapping 1 crates)]))).outcome.1.toOption

/-- The members that the units of the section show. -/
def crateMembers (language : Language) : Option (List (Option (List ShownMember))) :=
  (crateUnits language).map fun units =>
    (units.filter (!·.shared)).map (shownMembers? language ·.body)

theorem crates_show_properties :
    crateMembers .python =
      some [some [⟨"class_", true, true⟩, ⟨"lid", false, false⟩],
        some [⟨"lidSize", false, false⟩, ⟨"tags", true, true⟩]] ∧
    crateMembers .kotlin =
      some [some [⟨"\x60class\x60", true, true⟩, ⟨"lid", false, false⟩],
        some [⟨"lidSize", false, false⟩, ⟨"tags", true, true⟩]] := by
  have shown (language : Language) (generates : (crateUnits language).isSome = true) :
      crateMembers language = some ((objectSources crates).map fun source =>
        source.map fun object => (objectProperties object).map (memberFor language)) := by
    obtain ⟨units, found⟩ := Option.isSome_iff_exists.mp generates
    obtain ⟨line, declarations, isSection, shows⟩ :=
      object_units_show_properties (eq_ok_of_toOption found)
    cases isSection
    have objects : ∀ source ∈ objectSources crates, source.isSome = true :=
      List.all_eq_true.mp (by decide +kernel)
    have same : List.Forall₂ Eq ((units.filter (!·.shared)).map (shownMembers? language ·.body))
        ((objectSources crates).map fun source =>
          source.map fun object => (objectProperties object).map (memberFor language)) := by
      rw [List.forall₂_map_left_iff, List.forall₂_map_right_iff]
      refine ((List.forall₂_and_left _ _).mpr ⟨objects, shows⟩).flip.imp ?_
      rintro unit source ⟨isObject, showsObject⟩
      obtain ⟨object, rfl⟩ := Option.isSome_iff_exists.mp isObject
      exact (showsObject object rfl).members
    rw [List.forall₂_eq_eq_eq] at same
    rw [crateMembers, found, Option.map_some, same]
  rw [shown .python (by decide +kernel), shown .kotlin (by decide +kernel)]
  decide +kernel

end SchemaCompiler.Compiler
