import SchemaCompiler.Proofs.CompiledGraph
import SchemaCompiler.Proofs.SourceText
import SchemaCompiler.Target.Check

/-!
# Kotlin units pass their check

The check of a Kotlin unit blanks the string literals, removes the comments and counts the brackets
that are left. Each of the two passes goes on behind a piece of text as if nothing had been before
it, provided the piece leaves no literal and no comment open (`Reads`). So the code of a unit is
that of its pieces, one after the other, and its brackets balance because those of the pieces do
(`Balanced`): a literal is as good as an empty one, whatever it stands for, a line of the header
leaves only its end, and brackets are written in pairs.
-/

namespace SchemaCompiler.Target

open Schema (Directive Field NamedType TypeExpr)

namespace KotlinBrackets

/-! ## Literals -/

/-- Pieces of text that are blanked to the same, whatever follows them. -/
def Blanks (text blanked : List Char) : Prop :=
  ∀ rest, blankLiterals (text ++ rest) = blanked ++ blankLiterals rest

theorem Blanks.append {left right leftBlanked rightBlanked : List Char}
    (first : Blanks left leftBlanked) (second : Blanks right rightBlanked) :
    Blanks (left ++ right) (leftBlanked ++ rightBlanked) := by
  intro rest
  rw [List.append_assoc, first, second, List.append_assoc]

/-- Only quotes start literals. -/
theorem blanks_of_not_mem {text : List Char} (unquoted : '"' ∉ text) : Blanks text text := by
  intro rest
  induction text with
  | nil => rfl
  | cons c others ih =>
      rw [List.mem_cons, not_or] at unquoted
      have step : blankLiterals (c :: (others ++ rest)) = c :: blankLiterals (others ++ rest) := by
        unfold blankLiterals
        rw [blankFrom]
        intro same
        exact unquoted.1 same.symm
      rw [List.cons_append, step, ih unquoted.2, List.cons_append]

theorem blankFrom_length (passed rest : List Char) :
    blankFrom passed.length (passed ++ rest) = blankLiterals rest := by
  induction passed with
  | nil => rfl
  | cons c others ih => exact ih

/-- The check passes over the spelling of a character as the reader of the literal does: what stands
behind a backslash never ends the line. -/
theorem literalLength?_spell (c : Char) (source : List Char) :
    literalLength? (Language.kotlin.signs.spell c ++ source) =
      (literalLength? source).map (· + (Language.kotlin.signs.spell c).length) := by
  have escaped (d : Char) (noEnd : d ≠ '\n') :
      literalLength? ('\\' :: d :: source) = (literalLength? source).map (· + 2) := by
    rw [literalLength?]
    simp [noEnd]
  have noEnd := lineEnd_not_mem_spell Language.kotlin.signs (.inl rfl) c
  unfold LiteralSyntax.Signs.spell at noEnd ⊢
  by_cases isSign : Language.kotlin.signs.IsSign c
  · rw [if_pos isSign] at noEnd ⊢
    apply escaped
    intro same
    exact noEnd (by simp [same])
  · rw [if_neg isSign] at noEnd ⊢
    split at noEnd
    next letter found =>
      apply escaped
      intro same
      exact noEnd (by simp [same])
    next missing =>
      simp only [LiteralSyntax.Signs.IsSign, not_or] at isSign
      have quote : c ≠ '"' := isSign.1
      have escape : c ≠ '\\' := isSign.2.1
      show literalLength? (c :: source) = (literalLength? source).map (· + 1)
      rw [literalLength?.eq_def]
      split <;> simp_all

theorem literalLength?_literal (text source : List Char) :
    literalLength? (text.flatMap Language.kotlin.signs.spell ++ '"' :: source) =
      some ((text.flatMap Language.kotlin.signs.spell).length + 1) := by
  induction text with
  | nil => rfl
  | cons c rest ih =>
      rw [List.flatMap_cons, List.append_assoc, literalLength?_spell, ih, Option.map_some,
        List.length_append]
      congr 1
      omega

/-- The literal of a text is blanked as a whole, whatever the text. -/
theorem blanks_literal (text : String) :
    Blanks (Language.kotlin.literals.literal text).toList ['"', '"'] := by
  intro rest
  have spelled : (Language.kotlin.literals.literal text).toList =
      '"' :: (text.toList.flatMap Language.kotlin.signs.spell ++ ['"']) :=
      Language.kotlin.signs.toList_literal text
  have length := literalLength?_literal text.toList rest
  have passed := blankFrom_length (text.toList.flatMap Language.kotlin.signs.spell ++ ['"']) rest
  rw [List.length_append, List.append_assoc, List.singleton_append] at passed
  rw [spelled, List.cons_append, List.append_assoc, List.singleton_append]
  show blankFrom 0 ('"' :: _) = _
  rw [blankFrom, length]
  exact congrArg (fun blanked => '"' :: '"' :: blanked) passed

/-! ## Comments -/

/-- Pieces of text that keep the same when comments are removed, whatever follows them. -/
def Strips (text stripped : List Char) : Prop :=
  ∀ rest, stripComments (text ++ rest) = stripped ++ stripComments rest

theorem Strips.append {left right leftStripped rightStripped : List Char}
    (first : Strips left leftStripped) (second : Strips right rightStripped) :
    Strips (left ++ right) (leftStripped ++ rightStripped) := by
  intro rest
  rw [List.append_assoc, first, second, List.append_assoc]

theorem stripComments_cons {c : Char} (other : c ≠ '/') (rest : List Char) :
    stripComments (c :: rest) = c :: stripComments rest := by
  unfold stripComments
  rw [stripFrom]
  · intro _ same
    exact absurd same other
  · intro _ same
    exact absurd same other

/-- Only slashes start comments. -/
theorem strips_of_not_mem {text : List Char} (noSlash : '/' ∉ text) : Strips text text := by
  intro rest
  induction text with
  | nil => rfl
  | cons c others ih =>
      rw [List.mem_cons, not_or] at noSlash
      rw [List.cons_append, stripComments_cons (Ne.symm noSlash.1), ih noSlash.2, List.cons_append]

theorem stripFrom_length (passed rest : List Char) :
    stripFrom passed.length (passed ++ rest) = stripComments rest := by
  induction passed with
  | nil => rfl
  | cons c others ih => exact ih

/-- Of a comment that ends with its line, the end of the line is left. -/
theorem strips_comment {line : List Char} (noEnd : '\n' ∉ line) :
    Strips ('/' :: '/' :: (line ++ ['\n'])) ['\n'] := by
  intro rest
  have length : lineLength (line ++ '\n' :: rest) = line.length := by
    unfold lineLength
    rw [List.takeWhile_append_of_pos]
    · simp
    · intro c member
      rw [bne_iff_ne]
      rintro rfl
      exact noEnd member
  have passed := stripFrom_length ('/' :: line) ('\n' :: rest)
  show stripFrom 0 ('/' :: '/' :: (line ++ ['\n'] ++ rest)) = _
  rw [List.append_assoc, List.singleton_append, stripFrom, length]
  rw [stripComments_cons (by decide)] at passed
  exact passed

/-! ## Code -/

/-- Pieces of text with some code, whatever follows them. -/
def Reads (text code : List Char) : Prop := ∃ blanked, Blanks text blanked ∧ Strips blanked code

theorem Reads.append {left right leftCode rightCode : List Char} (first : Reads left leftCode)
    (second : Reads right rightCode) : Reads (left ++ right) (leftCode ++ rightCode) := by
  obtain ⟨leftBlanked, leftBlanks, leftStrips⟩ := first
  obtain ⟨rightBlanked, rightBlanks, rightStrips⟩ := second
  exact ⟨leftBlanked ++ rightBlanked, leftBlanks.append rightBlanks, leftStrips.append rightStrips⟩

theorem Reads.code_append {text own : List Char} (reads : Reads text own) (rest : List Char) :
    code (text ++ rest) = own ++ code rest := by
  obtain ⟨blanked, blanks, strips⟩ := reads
  rw [code, blanks, strips]
  rfl

theorem reads_of_not_mem {text : List Char} (unquoted : '"' ∉ text) (noSlash : '/' ∉ text) :
    Reads text text :=
  ⟨text, blanks_of_not_mem unquoted, strips_of_not_mem noSlash⟩

/-- Code with as many opening as closing brackets of each sort. -/
def Even (code : List Char) : Prop := ∀ pair ∈ pairs, code.count pair.1 = code.count pair.2

instance (code : List Char) : Decidable (Even code) :=
  inferInstanceAs (Decidable (∀ pair ∈ pairs, code.count pair.1 = code.count pair.2))

theorem Even.append {left right : List Char} (first : Even left) (second : Even right) :
    Even (left ++ right) := by
  intro pair isPair
  rw [List.count_append, List.count_append, first pair isPair, second pair isPair]

/-- Pieces of text whose code has its brackets in equal numbers. -/
def Balanced (text : String) : Prop := ∃ own, Reads text.toList own ∧ Even own

theorem Balanced.append {left right : String} (first : Balanced left) (second : Balanced right) :
    Balanced (left ++ right) := by
  obtain ⟨leftCode, leftReads, leftEven⟩ := first
  obtain ⟨rightCode, rightReads, rightEven⟩ := second
  refine ⟨leftCode ++ rightCode, ?_, leftEven.append rightEven⟩
  rw [String.toList_append]
  exact leftReads.append rightReads

/-- The characters that matter to the check. -/
def signs : List Char := ['"', '/', '\x7b', '\x7d', '(', ')']

/-- Texts without any of these characters. -/
def Quiet (text : String) : Prop := ∀ c ∈ text.toList, c ∉ signs

instance (text : String) : Decidable (Quiet text) := List.decidableBAll (· ∉ signs) text.toList

theorem Quiet.append {left right : String} (first : Quiet left) (second : Quiet right) :
    Quiet (left ++ right) := by
  intro c member
  rw [String.toList_append, List.mem_append] at member
  exact member.elim (first c) (second c)

theorem quiet_of_plain {name : String} (plain : Naming.IsPlain name) : Quiet name := by
  intro c member isSign
  have unlike : signs.all (fun c => !(c.isAlphanum || c == '_')) = true := by decide
  have own := List.all_eq_true.mp unlike c isSign
  rcases plain c member with letter | underscore
  · simp [letter] at own
  · simp [underscore] at own

theorem Quiet.balanced {text : String} (quiet : Quiet text) : Balanced text := by
  have absent {c : Char} (isSign : c ∈ signs) : c ∉ text.toList :=
    fun member => quiet c member isSign
  refine ⟨text.toList, reads_of_not_mem (absent (by decide)) (absent (by decide)), ?_⟩
  have bracket : ∀ pair ∈ pairs, pair.1 ∈ signs ∧ pair.2 ∈ signs := by decide
  intro pair isPair
  rw [List.count_eq_zero_of_not_mem (absent (bracket pair isPair).1),
    List.count_eq_zero_of_not_mem (absent (bracket pair isPair).2)]

theorem balanced_literal (text : String) : Balanced (Language.kotlin.literals.literal text) := by
  refine ⟨['"', '"'], ⟨['"', '"'], blanks_literal text, strips_of_not_mem (by decide)⟩, by decide⟩

/-- Brackets around a piece of text balance if those in it do. -/
theorem Balanced.enclosed (pair : Char × Char) (isPair : pair ∈ pairs) {inside : String}
    (balanced : Balanced inside) :
    Balanced (String.singleton pair.1 ++ inside ++ String.singleton pair.2) := by
  obtain ⟨own, reads, even⟩ := balanced
  have bracket : ∀ pair ∈ pairs, ('"' ≠ pair.1 ∧ '/' ≠ pair.1) ∧ '"' ≠ pair.2 ∧
    '/' ≠ pair.2 := by decide
  obtain ⟨⟨openQuote, openSlash⟩, closeQuote, closeSlash⟩ := bracket pair isPair
  have opening : Reads [pair.1] [pair.1] :=
    reads_of_not_mem (by simpa using openQuote) (by simpa using openSlash)
  have closing : Reads [pair.2] [pair.2] :=
    reads_of_not_mem (by simpa using closeQuote) (by simpa using closeSlash)
  refine ⟨[pair.1] ++ own ++ [pair.2], ?_, ?_⟩
  · rw [String.toList_append, String.toList_append, String.toList_singleton,
      String.toList_singleton]
    exact (opening.append reads).append closing
  · -- a pair adds one opening and one closing bracket to its own count, and nothing to the other
    have added : ∀ pair ∈ pairs, ∀ other ∈ pairs, ([pair.1] : List Char).count other.1 +
        [pair.2].count other.1 =
        [pair.1].count other.2 + [pair.2].count other.2 := by decide
    intro other isOther
    have same := added pair isPair other isOther
    have inner := even other isOther
    simp only [List.count_append] at same ⊢
    omega

theorem Balanced.parenthesized {inside : String} (balanced : Balanced inside) :
    Balanced ("(" ++ inside ++ ")") := Balanced.enclosed ('(', ')') (by decide) balanced

theorem Balanced.braced {inside : String} (balanced : Balanced inside) :
    Balanced ("\x7b" ++ inside ++ "\x7d") := Balanced.enclosed ('\x7b', '\x7d') (by decide) balanced

theorem balanced_intercalate {separator : String} {pieces : List String}
    (between : Balanced separator) (each : ∀ piece ∈ pieces, Balanced piece) :
    Balanced (separator.intercalate pieces) := by
  induction pieces with
  | nil =>
      rw [String.intercalate_nil]
      exact Quiet.balanced (by decide)
  | cons first rest ih =>
      rw [List.forall_mem_cons] at each
      cases rest with
      | nil => simpa using each.1
      | cons second others =>
          rw [String.intercalate_cons_cons]
          exact (each.1.append between).append (ih each.2)

theorem balanced_unlines {lines : List String} (each : ∀ line ∈ lines, Balanced (line ++ "\n")) :
    Balanced (unlines lines) := by
  induction lines with
  | nil => exact Quiet.balanced (by decide)
  | cons line rest ih =>
      rw [List.forall_mem_cons] at each
      rw [← List.singleton_append, unlines_append]
      exact Balanced.append (by simpa [unlines] using each.1) (ih each.2)

/-- Lines between one that opens a bracket and one that closes it. -/
theorem unlines_enclosed (before opening closing : String) (inner : List String) :
    unlines ([before ++ opening] ++ inner ++ [closing]) =
      before ++ (opening ++ ("\n" ++ unlines inner) ++ closing) ++ "\n" := by
  rw [unlines_append, unlines_append]
  simp [unlines, String.append_assoc]

/-! ## The pieces of units -/

section Pieces

variable {types : List NamedType} (plain : ∀ type ∈ types, Naming.IsPlain type.name)
include plain

theorem quiet_typeText {type : TypeExpr} {text : String}
    (written : Language.kotlin.typeText types type = .ok text) :
    Quiet text := by
  induction type generalizing text with
  | scalar kind =>
      cases written
      cases kind <;> decide
  | any =>
      cases written
      decide
  | array items ih =>
      obtain ⟨inner, isInner, rfl⟩ := Schema.map_eq_ok written
      have opening : Quiet "List<" := by decide
      exact (opening.append (ih isInner)).append (by decide)
  | named id =>
      rw [Language.typeText] at written
      split at written
      next type found =>
        cases written
        exact quiet_of_plain (plain type (List.mem_of_getElem? found))
      next => cases written
  | unresolved name pointer => cases written
  | missing => cases written

end Pieces

theorem quiet_memberName {name : String} (plain : Naming.IsPlain name) :
    Quiet (Language.kotlin.memberName name) := by
  have tick : Quiet "`" := by decide
  have quiet := quiet_of_plain plain
  unfold Language.memberName
  split
  · exact (tick.append quiet).append tick
  · exact quiet

/-- A directive is balanced, whatever its argument: it stands in a literal. -/
theorem balanced_directiveText {directive : Directive} {text : String}
    (written : directiveText .kotlin directive = .ok text) : Balanced text := by
  have name : Balanced "Constraint" := Quiet.balanced (by decide)
  have predicate : Balanced "predicate = " := Quiet.balanced (by decide)
  have argument : Balanced ", argument = " := Quiet.balanced (by decide)
  have first := predicate.append (balanced_literal directive.predicate.name)
  unfold directiveText at written
  dsimp only at written
  split at written
  next isPython _ => cases isPython
  next isPython _ => cases isPython
  next =>
    cases written
    have whole := name.append first.parenthesized
    simp only [← String.append_assoc] at whole
    exact whole
  next =>
    split at written
    next => cases written
    next value _ =>
      cases written
      have second := argument.append (balanced_literal value)
      have whole := name.append (first.append second).parenthesized
      simp only [← String.append_assoc] at whole
      exact whole

/-- The lines of a member are balanced, each with its end. -/
theorem balanced_memberLines {member : Kotlin.Member} (name : Quiet member.name)
    (type : Quiet member.type) (directives : ∀ text ∈ member.directives, Balanced text) :
    ∀ line ∈ member.lines, Balanced (line ++ "\n") := by
  have lineEnd : Balanced "\n" := Quiet.balanced (by decide)
  have typeText : Quiet member.typeText := by
    unfold Kotlin.Member.typeText
    split
    · exact type.append (by decide)
    · exact type
  have initial : Quiet (if member.optional then " = null" else "") := by split <;> decide
  have property : Quiet ("    val " ++ member.name ++ ": " ++ member.typeText ++
      (if member.optional then " = null" else "") ++ ",") := by
    refine ((((Quiet.append ?_ name).append ?_).append typeText).append initial).append
      ?_ <;> decide
  unfold Kotlin.Member.lines
  rw [List.forall_mem_append]
  constructor
  · split
    · exact List.forall_mem_nil _
    · intro line isLine
      rw [List.mem_singleton.mp isLine]
      have marker : Balanced "    @property:Validate" := Quiet.balanced (by decide)
      have inside : Balanced (", ".intercalate member.directives) :=
        balanced_intercalate (Quiet.balanced (by decide)) directives
      have whole := (marker.append inside.parenthesized).append lineEnd
      simp only [← String.append_assoc] at whole
      exact whole
  · intro line isLine
    rw [List.mem_singleton.mp isLine]
    exact property.balanced.append lineEnd

theorem balanced_objectLines {name : String} (quiet : Quiet name) {members : List Kotlin.Member}
    (each : ∀ member ∈ members, ∀ line ∈ member.lines, Balanced (line ++ "\n")) :
    Balanced (unlines (Kotlin.objectLines name members)) := by
  have lineEnd : Balanced "\n" := Quiet.balanced (by decide)
  unfold Kotlin.objectLines
  split
  · apply balanced_unlines
    intro line isLine
    rw [List.mem_singleton.mp isLine]
    have word : Quiet "class " := by decide
    exact (word.append quiet).balanced.append lineEnd
  · have words : Quiet "data class " := by decide
    have inner : Balanced (unlines (members.flatMap Kotlin.Member.lines)) := by
      apply balanced_unlines
      intro line isLine
      obtain ⟨member, isMember, here⟩ := List.mem_flatMap.mp isLine
      exact each member isMember line here
    rw [unlines_enclosed]
    exact ((words.append quiet).balanced.append (lineEnd.append inner).parenthesized).append lineEnd

theorem balanced_enumLines {name : String} (quiet : Quiet name) {values : List String}
    (each : ∀ value ∈ values, Quiet value) : Balanced (unlines (Kotlin.enumLines name values)) := by
  have lineEnd : Balanced "\n" := Quiet.balanced (by decide)
  have words : Quiet "enum class " := by decide
  have inner : Balanced (unlines (values.map fun value => "    " ++ value ++ ",")) := by
    apply balanced_unlines
    intro line isLine
    obtain ⟨value, isValue, rfl⟩ := List.mem_map.mp isLine
    have indent : Quiet "    " := by decide
    exact ((indent.append (each value isValue)).append (by decide)).balanced.append lineEnd
  have opened : "enum class " ++ name ++ " \x7b" = "enum class " ++ name ++ " " ++ "\x7b" := by
    simp only [String.append_assoc]
    rfl
  unfold Kotlin.enumLines
  rw [opened, unlines_enclosed]
  exact (((words.append quiet).append (by decide)).balanced.append
    (lineEnd.append inner).braced).append lineEnd

/-! ## The check -/

theorem hasPackage_append (before after : List Char) :
    hasPackage (before ++ (packageWord ++ after)) = true := by
  induction before with
  | nil =>
      have starts : packageWord <+: packageWord ++ after := List.prefix_append ..
      rw [List.nil_append]
      generalize packageWord ++ after = text at starts
      cases text with
      | nil => exact absurd (List.prefix_nil.mp starts) (by decide)
      | cons c rest => rw [hasPackage, List.isPrefixOf_iff_prefix.mpr starts, Bool.true_or]
  | cons c rest ih =>
      rw [List.cons_append, hasPackage, ih, Bool.or_true]

theorem checkKotlin_eq_ok {text : List Char} (package : hasPackage text = true)
    (even : Even (code text)) :
    checkKotlin text = .ok () := by
  have none : unbalanced? (code text) = none := by
    unfold unbalanced?
    rw [List.findSome?_eq_none_iff]
    intro pair isPair
    exact if_pos (even pair isPair)
  rw [checkKotlin, if_pos package, none]


/-! ## Headers -/

/-- The lines of a text have no other characters than the text. -/
theorem mem_of_mem_linesFrom {current text line : List Char}
    (member : line ∈ Text.linesFrom current text) :
    ∀ c ∈ line, c ∈ current ∨ c ∈ text := by
  fun_induction Text.linesFrom current text with
  | case1 current empty => simp at member
  | case2 current _ => simp_all
  | case3 current rest ih => grind
  | case4 current c rest _ isEnd ih => grind
  | case5 current c rest _ isOther ih => grind

/-- The lines of a header are comments, and what stands in them does not count. -/
theorem balanced_header {style : Style} (kotlin : style.language = .kotlin) {comment : String}
    (unquoted : '"' ∉ comment.toList) : Balanced (style.header comment) := by
  rw [header_eq]
  apply balanced_unlines
  intro line isLine
  unfold headerLines at isLine
  split at isLine
  · cases isLine
  · rw [kotlin] at isLine
    rcases List.mem_append.mp isLine with written | last
    · obtain ⟨text, isText, rfl⟩ := List.mem_map.mp written
      have single := (singleLine_of_mem_lines isText).1
      have noQuote : '"' ∉ text.toList := by
        obtain ⟨characters, isPart, rfl⟩ := List.mem_map.mp isText
        rw [String.toList_ofList]
        intro here
        exact unquoted ((mem_of_mem_linesFrom isPart _ here).resolve_left List.not_mem_nil)
      have spelled : (Language.kotlin.commentStart ++ " " ++ text ++ "\n").toList =
          '/' :: '/' :: ((' ' :: text.toList) ++ ['\n']) := by
        simp [Language.commentStart]
      refine ⟨['\n'], ⟨_, blanks_of_not_mem ?_, ?_⟩, by decide⟩
      · rw [spelled]
        simp [noQuote]
      · rw [spelled]
        exact strips_comment (by simpa using single)
    · cases List.mem_singleton.mp last
      exact Quiet.balanced (by decide)

/-! ## Units -/

/-- Can a character stand in the name of a package: in an identifier, or as a dot? Letters and
digits of other alphabets are counted in, with all that is not ASCII. -/
def isPackageChar (c : Char) : Bool := c.isAlphanum || c == '_' || c == '.' || 128 ≤ c.toNat

theorem quiet_package {package : String} (named : package.toList.all isPackageChar = true) :
    Quiet package := by
  have unlike : signs.all (fun c => !isPackageChar c) = true := by decide
  intro c member isSign
  have own := List.all_eq_true.mp unlike c isSign
  simp [List.all_eq_true.mp named c member] at own

theorem balanced_packageLines {package : String} (named : package.toList.all isPackageChar = true) :
    Balanced (unlines ["package " ++ package, ""]) := by
  have word : Quiet "package " := by decide
  have line := ((word.append (quiet_package named)).append (show Quiet "\n" by decide)).balanced
  apply balanced_unlines
  simpa using ⟨line, Quiet.balanced (by decide)⟩

theorem Balanced.even_code {text : String} (balanced : Balanced text) :
    Even (code text.toList) := by
  obtain ⟨own, reads, even⟩ := balanced
  have whole := reads.code_append []
  rw [List.append_nil, show code [] = [] from rfl, List.append_nil] at whole
  rwa [whole]

/-- A unit passes the check if the brackets in its code below the package balance. -/
theorem checkKotlin_unit {header package : String} {lines : List String} (comment : Balanced header)
    (named : package.toList.all isPackageChar = true) (even : Even (code (unlines lines).toList)) :
    checkKotlin (header ++ unlines (["package " ++ package, ""] ++ lines)).toList = .ok () := by
  obtain ⟨own, reads, above⟩ := comment.append (balanced_packageLines named)
  rw [unlines_append, ← String.append_assoc, String.toList_append]
  apply checkKotlin_eq_ok
  · have starts : unlines ["package " ++ package, ""] = "package " ++ (package ++ "\n\n") := by
      simp [unlines, String.append_assoc]
    rw [String.toList_append, starts, String.toList_append, List.append_assoc, List.append_assoc]
    exact hasPackage_append _ _
  · rw [reads.code_append]
    exact above.append even

section Units

variable {style : Style} (kotlin : style.language = .kotlin) {types : List NamedType}
  (plain : ∀ type ∈ types, Naming.IsPlain type.name)
include kotlin

theorem balanced_directives {field : Field} {texts : List String}
    (written : style.directives field = .ok texts) :
    ∀ text ∈ texts, Balanced text := by
  unfold Style.directives at written
  split at written
  · rw [kotlin] at written
    intro text member
    obtain ⟨directive, _, isText⟩ := exists_left_of_mem (forall₂_of_mapM_eq_ok written) member
    exact balanced_directiveText isText
  · cases written
    exact List.forall_mem_nil _

include plain

/-- The definition of a type is balanced. -/
theorem balanced_definition {type : NamedType} (conventional : type.Conventional)
    {lines : List String} (written : Kotlin.definitionLines style types type = .ok lines) :
    Balanced (unlines lines) := by
  obtain ⟨name, sourceName, body⟩ := type
  have quiet : Quiet name := quiet_of_plain conventional.name
  cases body with
  | object synthesized fields =>
      obtain ⟨members, made, rfl⟩ := Schema.map_eq_ok written
      refine balanced_objectLines quiet fun member isMember => ?_
      obtain ⟨field, isField, isMade⟩ := exists_left_of_mem (forall₂_of_mapM_eq_ok made) isMember
      obtain ⟨text, isText, isMade⟩ := Schema.bind_eq_ok isMade
      obtain ⟨directives, areDirectives, isMade⟩ := Schema.bind_eq_ok isMade
      cases isMade
      have named : Naming.IsPlain field.name := by
        rw [(conventional.fields field isField).name]
        exact Naming.fieldName_plain _
      exact balanced_memberLines (quiet_memberName named) (quiet_typeText plain isText)
        (balanced_directives kotlin areDirectives)
  | enumeration values =>
      cases written
      refine balanced_enumLines quiet fun value isValue => ?_
      obtain ⟨_, text, rfl⟩ := conventional.constants values rfl value isValue
      exact quiet_of_plain (Naming.enumConstant_plain text).1
  | aliasOf target =>
      obtain ⟨text, isText, rfl⟩ := Schema.map_eq_ok written
      have word : Quiet "typealias " := by decide
      have line := ((word.append quiet).append (show Quiet " = " by decide)).append
        (quiet_typeText plain isText)
      apply balanced_unlines
      simpa using line.balanced.append (Quiet.balanced (by decide))

/-- The unit of a type passes the check. -/
theorem checkKotlin_renderType {type : NamedType} (conventional : type.Conventional)
    {package : String} (shown : style.package = some package)
    (named : package.toList.all isPackageChar = true) {header body : String}
    (comment : Balanced header) (written : renderType style types header type = .ok body) :
    checkKotlin body.toList = .ok () := by
  unfold renderType at written
  rw [kotlin] at written
  obtain ⟨lines, isLines, written⟩ := Schema.bind_eq_ok written
  obtain ⟨definition, isDefinition, isLines⟩ := Schema.bind_eq_ok isLines
  cases written
  rw [Kotlin.packageLines, Style.packageText, shown] at isLines
  cases isLines
  exact checkKotlin_unit comment named
    (balanced_definition kotlin plain conventional isDefinition).even_code

end Units

/-! ## Shared units -/

theorem even_code_of_spelled {lines : List String} {spelled : List (List Char)}
    (same : lines.map String.toList = spelled)
    (even : Even (code (['\n'].intercalate (spelled ++ [[]])))) :
    Even (code (unlines lines).toList) := by
  rwa [toList_unlines, same]

/-- The brackets of the unit that checks constraints balance: those in its literals and comments do
not count. -/
theorem even_code_validationLines : Even (code (unlines Kotlin.validationLines).toList) := by
  apply even_code_of_spelled
  · simp only [Kotlin.validationLines, String.reduceAppend]
    repeat apply map_toList_cons
    rfl
  · decide +kernel

theorem even_code_markerLines : Even (code (unlines Kotlin.markerLines).toList) := by
  apply even_code_of_spelled
  · simp only [Kotlin.markerLines]
    repeat apply map_toList_cons
    rfl
  · decide +kernel

theorem checkKotlin_sharedUnits {style : Style} (kotlin : style.language = .kotlin)
    {package : String} (shown : style.package = some package)
    (named : package.toList.all isPackageChar = true) {units : List OutputUnit}
    (written : sharedUnits style = .ok units) :
    ∀ unit ∈ units, checkKotlin unit.body.toList = .ok () := by
  have comment : Balanced (style.header sharedComment) := balanced_header kotlin (by decide)
  have lines (python below : List String) :
      sharedLines style python below = .ok (["package " ++ package, ""] ++ below) := by
    unfold sharedLines
    rw [kotlin]
    show (Kotlin.packageLines style).map _ = _
    rw [Kotlin.packageLines, Style.packageText, shown]
    rfl
  unfold sharedUnits at written
  rw [lines, lines] at written
  cases written
  rw [List.forall_mem_cons, List.forall_mem_cons]
  refine ⟨?_, ?_, List.forall_mem_nil _⟩
  · exact checkKotlin_unit comment named even_code_validationLines
  · exact checkKotlin_unit comment named even_code_markerLines

end KotlinBrackets

end SchemaCompiler.Target

namespace SchemaCompiler.Compiler

open Target

/-- Every Kotlin unit passes the check that is made before it is written. It is enough that the name
of the package is made of the characters of identifiers and dots, and that the comment with the name
of the document and the command line has no quote. What stands in the regular expressions of the
document does not matter. -/
theorem kotlin_units_pass_check {compiler : Compiler} (kotlin : compiler.language = .kotlin)
    {name : String} {root : Option Document.Node} {package : String}
    (shown : compiler.settings.packageName.plain? = some package)
    (named : package.toList.all KotlinBrackets.isPackageChar = true)
    (unquoted : '"' ∉ (compiler.comment name).toList) {units : List OutputUnit}
    (done : (compiler.generate name root).outcome.1 = .ok units) :
    ∀ unit ∈ units, check .kotlin unit.body.toList = .ok () := by
  obtain ⟨graph, ofTypes, shared, compiles, rfl, generated⟩ := generate_eq_ok done
  have conventional := (compiled_of_compile compiles).conventional
  have plain : ∀ type ∈ graph.types, Naming.IsPlain type.name :=
    fun type member => (conventional type member).name
  have header : KotlinBrackets.Balanced
      ((compiler.settings.style compiler.language).header (compiler.comment name)) :=
    KotlinBrackets.balanced_header kotlin unquoted
  intro unit member
  rcases List.mem_append.mp member with ofType | isShared
  · obtain ⟨type, isType, body, written, rfl⟩ := generated.exists_type ofType
    exact KotlinBrackets.checkKotlin_renderType kotlin plain (conventional type isType) shown named
      header written
  · have written := generated.shared_eq
    split at written
    · exact KotlinBrackets.checkKotlin_sharedUnits kotlin shown named written unit isShared
    · cases written
      cases isShared

/-- A document with a regular expression of quotes, brackets, backslashes, comment openers and a
line feed. -/
def hostile : Document.Node :=
  .mapping 1 [("D", .mapping 1 [
    ("code", .mapping 2 [("type", .scalar 2 (.text "object")), ("properties", .mapping 3 [
      ("value", .mapping 3 [("type", .scalar 3 (.text "string")), ("validate", .sequence 4 [
        .mapping 4 [("pattern", .scalar 4 (.text "regex")),
          ("value", .scalar 4 (.text "\"(\x7b//$\\/*\n"))]])])])])])]

/-- A compiler for Kotlin with a comment that has an open bracket. -/
def verboseCompiler : Compiler :=
  { settings := { schemasPath := some (.list [.text "D"]) }
    language := .kotlin
    commandLine := "generate (" }

theorem hostile_units_pass_check :
    ∃ units, (verboseCompiler.generate "a(b.yaml" (some hostile)).outcome.1 = .ok units ∧
      units.map (·.name) = ["Code", "Validation", "Validate"] ∧
      ∀ unit ∈ units, check .kotlin unit.body.toList = .ok () := by
  have names : (verboseCompiler.generate "a(b.yaml" (some hostile)).outcome.1.toOption.map
      (·.map (·.name)) =
      some ["Code", "Validation", "Validate"] := by decide +kernel
  have unquoted : '"' ∉ (verboseCompiler.comment "a(b.yaml").toList := by decide +kernel
  obtain ⟨units, found, named⟩ := Option.map_eq_some_iff.mp names
  have done := Schema.eq_ok_of_toOption found
  exact ⟨units, done, named, kotlin_units_pass_check rfl rfl (by decide) unquoted done⟩

end SchemaCompiler.Compiler
