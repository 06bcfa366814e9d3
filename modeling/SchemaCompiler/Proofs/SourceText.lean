import SchemaCompiler.Proofs.Literal
import SchemaCompiler.Proofs.Naming
import SchemaCompiler.Proofs.Shape
import SchemaCompiler.Target.Unit

/-!
# The lines of a unit

The text of a unit is read line by line, with carriage returns read as line ends. None of the pieces
that a unit is written from has a line end in it (`SingleLine`): names are plain, literals spell
line ends with letters, and a comment is cut into lines before it is written. So the lines of a unit
are those that it was written from, those of its header first.
-/

namespace SchemaCompiler.Target

open Schema (Directive NamedType TypeExpr)

/-- The lines of a text. -/
def sourceLines (text : String) : List (List Char) := (Text.unifyLineEnds text.toList).splitOn '\n'

/-- Texts without a line end. -/
def SingleLine (text : String) : Prop := '\n' ∉ text.toList ∧ '\r' ∉ text.toList

instance (text : String) : Decidable (SingleLine text) := inferInstanceAs (Decidable (_ ∧ _))

theorem SingleLine.append {left right : String} (first : SingleLine left)
    (second : SingleLine right) :
    SingleLine (left ++ right) := by
  simp only [SingleLine, String.toList_append, List.mem_append, not_or]
  exact ⟨⟨first.1, second.1⟩, first.2, second.2⟩

/-- A text between two others. -/
theorem SingleLine.between {before text after : String} (opening : SingleLine before)
    (inside : SingleLine text) (closing : SingleLine after) :
    SingleLine (before ++ text ++ after) :=
  (opening.append inside).append closing

theorem SingleLine.intercalate {separator : String} {pieces : List String}
    (between : SingleLine separator) (each : ∀ piece ∈ pieces, SingleLine piece) :
    SingleLine (separator.intercalate pieces) := by
  have split : ∀ c ∈ (separator.intercalate pieces).toList,
      c ∈ separator.toList ∨ ∃ piece ∈ pieces, c ∈ piece.toList := by
    intro c member
    rw [String.toList_intercalate] at member
    rcases Naming.mem_intercalate member with inSeparator | ⟨_, isPiece, here⟩
    · exact .inl inSeparator
    · obtain ⟨piece, written, rfl⟩ := List.mem_map.mp isPiece
      exact .inr ⟨piece, written, here⟩
  constructor
  · intro feed
    rcases split _ feed with here | ⟨piece, isPiece, here⟩
    · exact between.1 here
    · exact (each piece isPiece).1 here
  · intro back
    rcases split _ back with here | ⟨piece, isPiece, here⟩
    · exact between.2 here
    · exact (each piece isPiece).2 here

/-- Plain names are on one line. -/
theorem singleLine_of_plain {text : String} (plain : Naming.IsPlain text) : SingleLine text := by
  constructor
  · intro feed
    exact absurd (plain '\n' feed) (by decide)
  · intro back
    exact absurd (plain '\r' back) (by decide)

theorem lineEnd_not_mem_spell (signs : LiteralSyntax.Signs) {lineEnd : Char}
    (isEnd : lineEnd = '\n' ∨ lineEnd = '\r') (c : Char) : lineEnd ∉ signs.spell c := by
  have notSign {sign : Char} (isSign : signs.IsSign sign) : lineEnd ≠ sign := by
    obtain ⟨⟨feed, _⟩, ⟨back, _⟩, _⟩ := isSign.apart
    rcases isEnd with rfl | rfl
    · exact feed.symm
    · exact back.symm
  have notEscape : lineEnd ≠ signs.escape := notSign (.inr (.inl rfl))
  unfold LiteralSyntax.Signs.spell
  split
  next isSign => simp [notEscape, notSign isSign]
  next =>
    split
    next letter found =>
      -- a control character is spelled with a letter, which ends no line
      have notLetter : lineEnd ≠ letter := by
        obtain ⟨before, after, split, _⟩ := List.lookup_eq_some_iff.mp found
        have member : (c, letter) ∈ LiteralSyntax.controls := by simp [split]
        simp only [LiteralSyntax.controls, List.mem_cons, Prod.mk.injEq, List.not_mem_nil,
          or_false] at member
        rcases isEnd with rfl | rfl <;> rcases member with ⟨_, rfl⟩ | ⟨_, rfl⟩ | ⟨_, rfl⟩ <;> decide
      simp [notEscape, notLetter]
    next missing =>
      rw [List.mem_singleton]
      rintro rfl
      rcases isEnd with rfl | rfl <;> cases missing

theorem Language.literals_eq_toSyntax (language : Language) :
    language.literals = language.signs.toSyntax := by
  cases language <;> rfl

theorem Language.toList_literal (language : Language) (text : String) :
    (language.literals.literal text).toList =
      language.signs.quote ::
        (text.toList.flatMap language.signs.spell ++ [language.signs.quote]) := by
  rw [language.literals_eq_toSyntax, language.signs.toList_literal]

/-- Literals spell line ends with letters. -/
theorem singleLine_literal (language : Language) (text : String) :
    SingleLine (language.literals.literal text) := by
  have quotes : SingleLine language.literals.quote := by cases language <;> decide
  have inside : SingleLine (language.literals.escapeText text) := by
    rw [SingleLine, language.literals_eq_toSyntax, language.signs.escapeText_toList]
    simp only [List.mem_flatMap, not_exists, not_and]
    exact ⟨fun c _ => lineEnd_not_mem_spell _ (.inl rfl) c, fun c _ =>
      lineEnd_not_mem_spell _ (.inr rfl) c⟩
  exact quotes.between inside quotes

/-- Numbers are written on one line. -/
theorem singleLine_decimal? {value : Int} {text : String}
    (written : Number.decimal? value = some text) :
    SingleLine text := by
  have digits (lineEnd : Char) (isEnd : lineEnd.isDigit = false) :
      lineEnd ∉ Number.decimalDigits value.natAbs := by
    intro member
    rw [Nat.isDigit_of_mem_toDigits (by decide) (by decide) member] at isEnd
    cases isEnd
  have feed := digits '\n' (by decide)
  have back := digits '\r' (by decide)
  unfold Number.decimal? at written
  dsimp only at written
  split at written
  · cases written
  · cases written
    rw [SingleLine, String.toList_ofList]
    split <;> simp [feed, back]

/-- Types are written on one line. -/
theorem singleLine_typeText {language : Language} {types : List NamedType}
    (plain : ∀ type ∈ types, Naming.IsPlain type.name) {type : TypeExpr} {text : String}
    (written : language.typeText types type = .ok text) : SingleLine text := by
  induction type generalizing text with
  | scalar kind =>
      cases written
      cases language <;> cases kind <;> decide
  | any =>
      cases written
      cases language <;> decide
  | array items ih =>
      rw [Language.typeText] at written
      obtain ⟨inner, isInner, rfl⟩ := Schema.map_eq_ok written
      have single := ih isInner
      cases language with
      | python => exact .between (by decide) single (by decide)
      | kotlin => exact .between (by decide) single (by decide)
  | named id =>
      rw [Language.typeText] at written
      split at written
      next type found =>
        cases written
        exact singleLine_of_plain (plain type (List.mem_of_getElem? found))
      next => cases written
  | unresolved name pointer => cases written
  | missing => cases written

/-- Directives as schemas can state them are written on one line. -/
theorem singleLine_directiveText {language : Language} {directive : Directive}
    (wellFormed : directive.WellFormed) {text : String}
    (written : directiveText language directive = .ok text) : SingleLine text := by
  obtain ⟨predicate, argument⟩ := directive
  have name := singleLine_literal language predicate.name
  cases argument with
  | null =>
      cases language with
      | python =>
          cases written
          exact .between (by decide) name (by decide)
      | kotlin =>
          cases written
          exact .between (by decide) name (by decide)
  | text argument =>
      have value := singleLine_literal language argument
      cases language with
      | python =>
          cases written
          exact .between (.between (by decide) name (by decide)) value (by decide)
      | kotlin =>
          cases written
          exact .between (.between (by decide) name (by decide)) value (by decide)
  | int argument =>
      cases shown : Number.decimal? argument with
      | none => simp [directiveText, Document.Scalar.plain?, shown] at written
      | some digits =>
          have value := singleLine_decimal? shown
          have quoted := singleLine_literal language digits
          cases language with
          | python =>
              simp only [directiveText, Document.Scalar.plain?, shown] at written
              cases written
              exact .between (.between (by decide) name (by decide)) value (by decide)
          | kotlin =>
              simp only [directiveText, Document.Scalar.plain?, shown] at written
              cases written
              exact .between (.between (by decide) name (by decide)) quoted (by decide)
  | bool argument | float argument => cases predicate <;> exact wellFormed.elim

/-! ## Lines that were written -/

theorem unifyLineEnds_of_not_mem {text : List Char} (none : '\r' ∉ text) :
    Text.unifyLineEnds text = text := by
  induction text with
  | nil => rfl
  | cons c rest ih =>
      rw [List.mem_cons, not_or] at none
      have same := ih none.2
      unfold Text.unifyLineEnds
      split
      · cases ‹_ = []›
      · simp_all
      · simp_all
      · simp_all

/-- A line feed keeps what is behind it apart from what is before it. -/
theorem unifyLineEnds_append_feed (text rest : List Char) :
    ∃ before, Text.unifyLineEnds (text ++ '\n' :: rest) =
      before ++ '\n' :: Text.unifyLineEnds rest := by
  fun_induction Text.unifyLineEnds text with
  | case1 => exact ⟨[], rfl⟩
  | case2 more ih =>
      obtain ⟨before, split⟩ := ih
      exact ⟨'\n' :: before, congrArg ('\n' :: ·) split⟩
  | case3 more notFeed ih =>
      obtain ⟨before, split⟩ := ih
      cases more with
      -- a carriage return just before the line feed is part of the same line end
      | nil => exact ⟨[], rfl⟩
      | cons c more =>
          refine ⟨'\n' :: before, ?_⟩
          rw [List.cons_append, List.cons_append, Text.unifyLineEnds, ← List.cons_append, split,
            List.cons_append]
          rintro _ ⟨⟩
          exact notFeed more rfl
  | case4 c more notPair notReturn ih =>
      obtain ⟨before, split⟩ := ih
      refine ⟨c :: before, ?_⟩
      rw [List.cons_append, Text.unifyLineEnds, split, List.cons_append]
      · rintro _ rfl _
        exact notReturn rfl
      · exact notReturn

/-- A text on one line that is not empty keeps what is before it apart from what is behind it. -/
theorem unifyLineEnds_around {line : List Char} (noFeed : '\n' ∉ line) (noReturn : '\r' ∉ line)
    (nonempty : line ≠ []) (before after : List Char) :
    Text.unifyLineEnds (before ++ line ++ after) =
      Text.unifyLineEnds before ++ line ++ Text.unifyLineEnds after := by
  fun_induction Text.unifyLineEnds before with
  | case1 =>
      clear nonempty
      induction line with
      | nil => rfl
      | cons c rest ih =>
          rw [List.mem_cons, not_or] at noFeed noReturn
          have same := ih noFeed.2 noReturn.2
          simp only [List.nil_append, List.cons_append] at same ⊢
          rw [Text.unifyLineEnds, same]
          · rintro _ rfl
            exact absurd rfl noReturn.1
          · rintro rfl
            exact absurd rfl noReturn.1
  | case2 more ih => exact congrArg ('\n' :: ·) ih
  | case3 more notFeed ih =>
      rw [List.cons_append, List.cons_append, Text.unifyLineEnds, ih]
      · rfl
      -- what follows the carriage return is no line feed, also if it is the line
      · rintro rest same
        cases more with
        | nil =>
            cases line with
            | nil => exact nonempty rfl
            | cons c others =>
                cases same
                exact noFeed List.mem_cons_self
        | cons c others =>
            cases same
            exact notFeed others rfl
  | case4 c more notPair notReturn ih =>
      rw [List.cons_append, List.cons_append, Text.unifyLineEnds, ih]
      · rfl
      · rintro _ rfl
        exact absurd rfl notReturn
      · exact notReturn

theorem toList_unlines (lines : List String) :
    (unlines lines).toList = ['\n'].intercalate (lines.map String.toList ++ [[]]) := by
  rw [unlines, String.toList_join]
  induction lines with
  | nil => rfl
  | cons line rest ih =>
      rw [List.map_cons, List.flatMap_cons, ih, List.map_cons, List.cons_append,
        String.toList_append]
      have more : rest.map String.toList ++ [[]] ≠ [] := by simp
      rw [List.intercalate_cons_of_ne_nil more]
      rfl

theorem return_not_mem_unlines {lines : List String} (single : ∀ line ∈ lines, SingleLine line) :
    '\r' ∉ (unlines lines).toList := by
  rw [toList_unlines]
  intro member
  rcases Naming.mem_intercalate member with feed | ⟨_, isPiece, here⟩
  · exact absurd feed (by decide)
  · rcases List.mem_append.mp isPiece with written | last
    · obtain ⟨line, isLine, rfl⟩ := List.mem_map.mp written
      exact (single line isLine).2 here
    · cases List.mem_singleton.mp last
      cases here

/-- Line feeds cut a text into the lines that it was written in, and nothing behind the last. -/
theorem splitOn_unlines {lines : List String} (single : ∀ line ∈ lines, SingleLine line) :
    (unlines lines).toList.splitOn '\n' = lines.map String.toList ++ [[]] := by
  rw [toList_unlines]
  refine List.splitOn_intercalate '\n' ?_ (by simp)
  intro piece isPiece
  rcases List.mem_append.mp isPiece with written | last
  · obtain ⟨line, isLine, rfl⟩ := List.mem_map.mp written
    exact (single line isLine).1
  · cases List.mem_singleton.mp last
    exact List.not_mem_nil

/-- A text that was written in lines is read in the same lines. -/
theorem sourceLines_unlines {lines : List String} (single : ∀ line ∈ lines, SingleLine line) :
    sourceLines (unlines lines) = lines.map String.toList ++ [[]] := by
  rw [sourceLines, unifyLineEnds_of_not_mem (return_not_mem_unlines single), splitOn_unlines single]

theorem unlines_append (left right : List String) :
    unlines (left ++ right) = unlines left ++ unlines right := by
  rw [unlines, List.map_append, String.join_append]
  rfl

/-- The characters of lines that are written out. They are the ones to compute with: to get them
back from a text takes long. -/
theorem map_toList_cons {chars : List Char} {lines : List String} {others : List (List Char)}
    (spelled : lines.map String.toList = others) :
    (String.ofList chars :: lines).map String.toList = chars :: others := by
  rw [List.map_cons, String.toList_ofList, spelled]

/-! ## Headers -/

theorem singleLine_of_mem_linesFrom {current text : List Char}
    (started : ∀ c ∈ current, Text.isLineEnd c = false) :
    ∀ line ∈ Text.linesFrom current text, ∀ c ∈ line, Text.isLineEnd c = false := by
  have ended {current : List Char} (started : ∀ c ∈ current, Text.isLineEnd c = false) :
      ∀ c ∈ current.reverse, Text.isLineEnd c = false := by simpa using started
  fun_induction Text.linesFrom current text with
  | case1 current empty => simp
  | case2 current _ => simpa using started
  -- a line that ends leaves nothing behind for the next
  | case3 current rest ih => exact List.forall_mem_cons.mpr ⟨ended started, ih (by simp)⟩
  | case4 current c rest _ isEnd ih => exact List.forall_mem_cons.mpr ⟨ended started, ih (by simp)⟩
  | case5 current c rest _ isOther ih =>
      exact ih (List.forall_mem_cons.mpr ⟨by simpa using isOther, started⟩)

/-- Cutting a text into lines loses what ends them and nothing else. -/
theorem flatten_linesFrom (current text : List Char) :
    (Text.linesFrom current text).flatten = current.reverse ++ text.filter (!Text.isLineEnd ·) := by
  fun_induction Text.linesFrom current text with
  | case1 current empty => simp [List.isEmpty_iff.mp empty]
  | case2 current _ => simp
  | case3 current rest ih =>
      have back : Text.isLineEnd '\r' = true := by decide
      have feed : Text.isLineEnd '\n' = true := by decide
      simp [ih, back, feed]
  | case4 current c rest _ isEnd ih => simp [ih, isEnd]
  | case5 current c rest _ isOther ih => simp [ih, isOther]

theorem singleLine_of_mem_lines {text line : String} (member : line ∈ Text.lines text) :
    SingleLine line := by
  obtain ⟨characters, isLine, rfl⟩ := List.mem_map.mp member
  have none := singleLine_of_mem_linesFrom (List.forall_mem_nil _) characters isLine
  rw [SingleLine, String.toList_ofList]
  constructor
  · intro feed
    exact absurd (none '\n' feed) (by decide)
  · intro back
    exact absurd (none '\r' back) (by decide)

/-- The lines of the header for a comment. -/
def headerLines (style : Style) (comment : String) : List String :=
  if comment.isEmpty || !style.comments then []
  else (Text.lines comment).map (style.language.commentStart ++ " " ++ ·) ++ [""]

theorem header_eq (style : Style) (comment : String) :
    style.header comment = unlines (headerLines style comment) := by
  rw [Style.header, headerLines]
  split
  · rfl
  · rw [unlines_append]
    unfold unlines headerLine
    simp [List.map_map, Function.comp_def]

/-- Each line of a header is a comment or empty. -/
theorem headerLines_cases {style : Style} {comment line : String}
    (member : line ∈ headerLines style comment) :
    SingleLine line ∧ (line = "" ∨ ∃ rest, line = style.language.commentStart ++ rest) := by
  unfold headerLines at member
  split at member
  · cases member
  · rcases List.mem_append.mp member with written | last
    · obtain ⟨text, isLine, rfl⟩ := List.mem_map.mp written
      have opening : SingleLine (style.language.commentStart ++ " ") := by
        cases style.language <;> decide
      refine ⟨opening.append (singleLine_of_mem_lines isLine), .inr ⟨" " ++ text, ?_⟩⟩
      rw [String.append_assoc]
    · cases List.mem_singleton.mp last
      exact ⟨by decide, .inl rfl⟩

/-- The text of a unit under a header, line by line. -/
theorem sourceLines_header (style : Style) (comment : String) {lines : List String}
    (single : ∀ line ∈ lines, SingleLine line) :
    sourceLines (style.header comment ++ unlines lines) =
      (headerLines style comment).map String.toList ++ (lines.map String.toList ++ [[]]) := by
  rw [header_eq, ← unlines_append, sourceLines_unlines]
  · rw [List.map_append, List.append_assoc]
  · rw [List.forall_mem_append]
    exact ⟨fun line member => (headerLines_cases member).1, single⟩

end SchemaCompiler.Target
