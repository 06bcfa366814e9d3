import SchemaCompiler.Proofs.KotlinUnit

/-!
# The header and the verdict on a Kotlin unit

The check of a Kotlin unit blanks literals before it removes comments, and it blanks them over the
whole text. So a quote in the comment at the start of a unit starts a literal, and if none of the
comment's characters ends it (`leavesOpen`) the first quote of the unit does: what the unit has up
to there is taken for a part of the literal, and the rest of that line for a part of the comment
(`codeBehind`). A header without such a quote leaves empty lines only, whatever else is in it.
-/

namespace SchemaCompiler.Target

open Schema (Directive Field NamedType TypeExpr)

namespace KotlinBrackets

/-! ## Literals that a text leaves open -/

/-- Does a text in a literal stay in it up to its end, so that a quote behind the text ends the
literal? -/
def staysInside (text : List Char) : Bool :=
  (literalLength? text).isNone && (literalLength? (text ++ ['"'])).isSome

/-- Is there a literal that a text starts and a quote behind the text would end? The first
characters to be passed over belong to a literal that is complete. -/
def leavesOpen : Nat → List Char → Bool
  | _, [] => false
  | passed + 1, _ :: rest => leavesOpen passed rest
  | 0, '"' :: rest =>
    match literalLength? rest with
    | some length => leavesOpen length rest
    | none => staysInside rest || leavesOpen 0 rest
  | 0, _ :: rest => leavesOpen 0 rest

theorem literalLength?_cons {c : Char} (noQuote : c ≠ '"') (noEscape : c ≠ '\\')
    (rest : List Char) :
    literalLength? (c :: rest) = (literalLength? rest).map (· + 1) := by
  rw [literalLength?.eq_def]
  split <;> simp_all

theorem literalLength?_escape {c : Char} (noEnd : ¬(c == '\n') = true) (rest : List Char) :
    literalLength? ('\\' :: c :: rest) = (literalLength? rest).map (· + 2) := by
  rw [literalLength?, if_neg noEnd]

/-- Behind a backslash there is nothing or a character. -/
theorem ne_escape {c : Char} {others : List Char} (noLast : c = '\\' → others = [] → False)
    (noEscape : ∀ d rest, c = '\\' → others = d :: rest → False) : c ≠ '\\' := by
  intro same
  cases others with
  | nil => exact noLast same rfl
  | cons d rest => exact noEscape d rest same rfl

/-- A literal that is complete in a text does not go on behind it. -/
theorem literalLength?_append {text : List Char} {length : Nat}
    (complete : literalLength? text = some length) (rest : List Char) :
    literalLength? (text ++ rest) = some length := by
  induction text using literalLength?.induct generalizing length with
  | case1 => cases complete
  | case2 _ => exact complete
  | case3 => cases complete
  | case4 c others lineEnd =>
      rw [literalLength?, if_pos lineEnd] at complete
      cases complete
  | case5 c others noEnd ih =>
      rw [literalLength?_escape noEnd] at complete
      obtain ⟨shorter, found, rfl⟩ := Option.map_eq_some_iff.mp complete
      rw [List.cons_append, List.cons_append, literalLength?_escape noEnd, ih found]
      rfl
  | case6 c others noQuote noLast noEscape ih =>
      have other := ne_escape noLast noEscape
      rw [literalLength?_cons noQuote other] at complete
      obtain ⟨shorter, found, rfl⟩ := Option.map_eq_some_iff.mp complete
      rw [List.cons_append, literalLength?_cons noQuote other, ih found]
      rfl

/-- A literal ends with a quote. -/
theorem quote_of_literalLength? {text : List Char} {length : Nat}
    (complete : literalLength? text = some length) :
    ∃ index, length = index + 1 ∧ text[index]? = some '"' := by
  induction text using literalLength?.induct generalizing length with
  | case1 => cases complete
  | case2 _ =>
      cases complete
      exact ⟨0, rfl, rfl⟩
  | case3 => cases complete
  | case4 c others lineEnd =>
      rw [literalLength?, if_pos lineEnd] at complete
      cases complete
  | case5 c others noEnd ih =>
      rw [literalLength?_escape noEnd] at complete
      obtain ⟨shorter, found, rfl⟩ := Option.map_eq_some_iff.mp complete
      obtain ⟨index, rfl, here⟩ := ih found
      exact ⟨index + 2, rfl, here⟩
  | case6 c others noQuote noLast noEscape ih =>
      rw [literalLength?_cons noQuote (ne_escape noLast noEscape)] at complete
      obtain ⟨shorter, found, rfl⟩ := Option.map_eq_some_iff.mp complete
      obtain ⟨index, rfl, here⟩ := ih found
      exact ⟨index + 1, rfl, here⟩

/-- Without a quote there is no end of a literal. -/
theorem literalLength?_of_not_mem {text : List Char} (unquoted : '"' ∉ text) :
    literalLength? text = none := by
  cases complete : literalLength? text with
  | none => rfl
  | some length =>
      obtain ⟨index, _, isQuote⟩ := quote_of_literalLength? complete
      exact absurd (List.mem_of_getElem? isQuote) unquoted

/-- A literal that is not complete in a text goes on behind it, or breaks off in the text and is
none. A backslash at the end would protect what follows. -/
theorem literalLength?_append_of_none {text : List Char} (ended : text.getLast? ≠ some '\\')
    (unclosed : literalLength? text = none) (rest : List Char) :
    literalLength? (text ++ rest) =
      if staysInside text then (literalLength? rest).map (· + text.length) else none := by
  have inside : staysInside text = (literalLength? (text ++ ['"'])).isSome := by
    rw [staysInside, unclosed]
    rfl
  rw [inside]
  clear inside
  induction text using literalLength?.induct with
  | case1 => simp [literalLength?]
  | case2 _ => cases unclosed
  | case3 => simp at ended
  | case4 c others lineEnd => simp [literalLength?, lineEnd]
  | case5 c others noEnd ih =>
      rw [literalLength?_escape noEnd, Option.map_eq_none_iff] at unclosed
      have last : others.getLast? ≠ some '\\' := by
        cases others with
        | nil => simp
        | cons d more => simpa using ended
      simp only [List.cons_append, literalLength?_escape noEnd, ih last unclosed, Option.isSome_map]
      split
      · simp [Function.comp_def, Nat.add_assoc]
      · rfl
  | case6 c others noQuote noLast noEscape ih =>
      have other := ne_escape noLast noEscape
      rw [literalLength?_cons noQuote other, Option.map_eq_none_iff] at unclosed
      have last : others.getLast? ≠ some '\\' := by
        cases others with
        | nil => simp
        | cons d more => simpa using ended
      simp only [List.cons_append, literalLength?_cons noQuote other, ih last unclosed,
        Option.isSome_map]
      split
      · simp [Function.comp_def, Nat.add_assoc]
      · rfl

/-! ## Comments up to an empty line -/

/-- Texts that go on in a comment, or start with a line, and consist of comments up to an empty
line. -/
inductive Commented : Bool → List Char → Prop where
  | last : Commented false ['\n']
  | start {rest : List Char} (comment : Commented true rest) : Commented false ('/' :: '/' :: rest)
  | goOn {c : Char} {rest : List Char} (noEnd : c ≠ '\n') (comment : Commented true rest) :
      Commented true (c :: rest)
  | lineEnd {rest : List Char} (lines : Commented false rest) : Commented true ('\n' :: rest)

theorem Commented.line {line rest : List Char} (noEnd : '\n' ∉ line)
    (lines : Commented false rest) :
    Commented true (line ++ '\n' :: rest) := by
  induction line with
  | nil => exact .lineEnd lines
  | cons c others ih =>
      rw [List.mem_cons, not_or] at noEnd
      exact .goOn (Ne.symm noEnd.1) (ih noEnd.2)

theorem Commented.getLast? {inside : Bool} {text : List Char} (commented : Commented inside text) :
    text.getLast? = some '\n' := by
  induction commented with
  | last => rfl
  | start _ ih => rw [List.getLast?_cons, List.getLast?_cons, ih]; rfl
  | goOn _ _ ih => rw [List.getLast?_cons, ih]; rfl
  | lineEnd _ ih => rw [List.getLast?_cons, ih]; rfl

/-- Remove the comments of a text that may start in one. -/
def stripInside : Bool → List Char → List Char
  | false, text => stripComments text
  | true, text => stripComments (text.dropWhile (· != '\n'))

theorem stripInside_start (rest : List Char) :
    stripInside false ('/' :: '/' :: rest) = stripInside true rest := by
  have passed := stripFrom_length ('/' :: rest.takeWhile (· != '\n')) (rest.dropWhile (· != '\n'))
  rw [List.cons_append, List.takeWhile_append_dropWhile] at passed
  exact passed

theorem stripInside_goOn {c : Char} (noEnd : c ≠ '\n') (rest : List Char) :
    stripInside true (c :: rest) = stripInside true rest := by
  have dropped : (c :: rest).dropWhile (· != '\n') = rest.dropWhile (· != '\n') :=
    List.dropWhile_cons_of_pos (by simpa using noEnd)
  exact congrArg stripComments dropped

theorem stripInside_lineEnd (inside : Bool) (rest : List Char) :
    stripInside inside ('\n' :: rest) = '\n' :: stripInside false rest := by
  have kept := stripComments_cons (show '\n' ≠ '/' by decide) rest
  cases inside with
  | false => exact kept
  | true => exact kept

/-! ## The code behind a header -/

/-- The code of a text behind another. If that leaves a literal open, the text up to its first quote
belongs to the literal, and the rest of that line to the comment with the literal. -/
def codeBehind : Bool → List Char → List Char
  | false, text => code text
  | true, text =>
    match literalLength? text with
    | some length => stripInside true (blankFrom length text)
    | none => code text

theorem codeBehind_of_none {text : List Char} (unquoted : literalLength? text = none)
    (isOpen : Bool) :
    codeBehind isOpen text = code text := by
  cases isOpen with
  | false => rfl
  | true =>
      rw [codeBehind, unquoted]

theorem blankFrom_cons {c : Char} (noQuote : c ≠ '"') (rest : List Char) :
    blankFrom 0 (c :: rest) = c :: blankFrom 0 rest := by
  rw [blankFrom]
  exact noQuote

theorem leavesOpen_cons {c : Char} (noQuote : c ≠ '"') (rest : List Char) :
    leavesOpen 0 (c :: rest) = leavesOpen 0 rest := by
  rw [leavesOpen]
  exact noQuote

theorem blankFrom_add (passed rest : List Char) (length : Nat) :
    blankFrom (length + passed.length) (passed ++ rest) = blankFrom length rest := by
  induction passed with
  | nil => rfl
  | cons c others ih => exact ih

/-- Behind the first characters of a text, empty lines are left and the code of what follows. -/
def LeavesLines (text : List Char) (isOpen : Bool) (rest : List Char) : Prop :=
  ∃ count, text = List.replicate count '\n' ++ codeBehind isOpen rest

theorem LeavesLines.lineEnd {text : List Char} {isOpen : Bool} {rest : List Char}
    (leaves : LeavesLines text isOpen rest) : LeavesLines ('\n' :: text) isOpen rest := by
  obtain ⟨count, rfl⟩ := leaves
  exact ⟨count + 1, by rw [List.replicate_succ, List.cons_append]⟩

section Header

variable (rest : List Char)

/-- A quote in a comment: a literal that is complete in the text is passed over, and one that
stays open takes what follows with it. -/
theorem leavesLines_quote {text : List Char} (ended : text.getLast? ≠ some '\\')
    (go : LeavesLines (stripInside true (blankFrom 0 (text ++ rest))) (leavesOpen 0 text) rest)
    (pass : ∀ index, text[index]? = some '"' →
      LeavesLines (stripInside true (blankFrom (index + 1) (text ++ rest)))
        (leavesOpen (index + 1) text) rest) :
    LeavesLines (stripInside true (blankFrom 0 ('"' :: (text ++ rest))))
      (leavesOpen 0 ('"' :: text)) rest := by
  have quote (blanked : List Char) : stripInside true ('"' :: blanked) = stripInside true blanked :=
    stripInside_goOn (by decide) blanked
  rw [blankFrom, leavesOpen]
  cases complete : literalLength? text with
  | some length =>
      obtain ⟨index, rfl, isQuote⟩ := quote_of_literalLength? complete
      rw [literalLength?_append complete, quote, quote]
      exact pass index isQuote
  | none =>
      rw [literalLength?_append_of_none ended complete]
      cases inside : staysInside text with
      | false =>
          simp only [Bool.false_eq_true, if_false, Bool.false_or, quote]
          exact go
      | true =>
          simp only [if_true, Bool.true_or]
          cases found : literalLength? rest with
          | none =>
              -- nothing closes the literal, so the quote stands for itself
              obtain ⟨count, same⟩ := go
              simp only [Option.map_none, quote]
              exact ⟨count, by rw [same, codeBehind_of_none found, codeBehind_of_none found]⟩
          | some length =>
              simp only [Option.map_some, quote, blankFrom_add]
              exact ⟨0, by rw [codeBehind, found]; rfl⟩

/-- Of comments up to an empty line only line ends are left, and the text behind them is read as if
they were not there, unless they leave a literal open. The second part is about the rest of a
literal. -/
theorem Commented.leavesLines {inside : Bool} {text : List Char}
    (commented : Commented inside text) :
    LeavesLines (stripInside inside (blankFrom 0 (text ++ rest))) (leavesOpen 0 text) rest ∧
      ∀ index, text[index]? = some '"' →
        LeavesLines (stripInside true (blankFrom (index + 1) (text ++ rest)))
          (leavesOpen (index + 1) text) rest := by
  induction commented with
  | last =>
      constructor
      · rw [List.singleton_append, blankFrom_cons (by decide), stripInside_lineEnd,
          leavesOpen_cons (by decide)]
        exact ⟨1, rfl⟩
      · intro index isQuote
        have member := List.mem_of_getElem? isQuote
        simp at member
  | @start others comment ih =>
      obtain ⟨go, pass⟩ := ih
      constructor
      · rw [List.cons_append, List.cons_append, blankFrom_cons (by decide),
          blankFrom_cons (by decide), stripInside_start, leavesOpen_cons (by decide),
          leavesOpen_cons (by decide)]
        exact go
      · intro index isQuote
        cases index with
        | zero => simp at isQuote
        | succ index =>
            cases index with
            | zero => simp at isQuote
            | succ index => exact pass index isQuote
  | @goOn c others noEnd comment ih =>
      obtain ⟨go, pass⟩ := ih
      constructor
      · by_cases isQuote : c = '"'
        · subst isQuote
          refine leavesLines_quote rest ?_ go pass
          rw [comment.getLast?]
          decide
        · rw [List.cons_append, blankFrom_cons isQuote, stripInside_goOn noEnd,
            leavesOpen_cons isQuote]
          exact go
      · intro index isQuote
        cases index with
        | zero => exact go
        | succ index => exact pass index isQuote
  | @lineEnd others lines ih =>
      obtain ⟨go, pass⟩ := ih
      constructor
      · rw [List.cons_append, blankFrom_cons (by decide), stripInside_lineEnd,
          leavesOpen_cons (by decide)]
        exact go.lineEnd
      · intro index isQuote
        cases index with
        | zero => simp at isQuote
        | succ index => exact pass index isQuote

end Header

/-- Units have no header, or the one of all Kotlin units with the comment. -/
theorem header_cases {style : Style} (kotlin : style.language = .kotlin) (comment : String) :
    style.header comment = "" ∨
      style.header comment = ({ language := .kotlin } : Style).header comment := by
  by_cases comments : style.comments = true
  · right
    simp [Style.header, kotlin, comments]
  · left
    simp [Style.header, comments]

/-- The header of a unit is empty or consists of comments up to an empty line. -/
theorem commented_header {style : Style} (kotlin : style.language = .kotlin) (comment : String) :
    style.header comment = "" ∨ Commented false (style.header comment).toList := by
  unfold Style.header
  split
  · exact .inl rfl
  · right
    have single : ∀ line ∈ Text.lines comment, SingleLine line :=
      fun line => singleLine_of_mem_lines
    rw [kotlin, String.toList_append]
    generalize Text.lines comment = lines at single
    induction lines with
    | nil => exact .last
    | cons line others ih =>
        rw [List.forall_mem_cons] at single
        have spelled : (String.join ((line :: others).map (headerLine .kotlin))).toList ++
            "\n".toList =
            '/' :: '/' :: (' ' :: line.toList ++ '\n' ::
              ((String.join (others.map (headerLine .kotlin))).toList ++ "\n".toList)) := by
          simp [headerLine, Language.commentStart]
        rw [spelled]
        refine .start (.line ?_ (ih single.2))
        simpa using single.1.1

/-- The code of a text under a header. -/
theorem code_header {style : Style} (kotlin : style.language = .kotlin) (comment : String)
    (text : List Char) :
    LeavesLines (code ((style.header comment).toList ++ text))
      (leavesOpen 0 (style.header comment).toList) text := by
  rcases commented_header kotlin comment with empty | commented
  · rw [empty]
    exact ⟨0, rfl⟩
  · exact (commented.leavesLines text).1

/-! ## The verdict -/

theorem checkKotlin_eq_ok_iff {text : List Char} :
    checkKotlin text = .ok () ↔ hasPackage text = true ∧ Even (code text) := by
  refine ⟨fun accepted => ?_, fun ⟨package, even⟩ => checkKotlin_eq_ok package even⟩
  unfold checkKotlin at accepted
  split at accepted
  next package =>
    refine ⟨package, fun pair isPair => ?_⟩
    cases found : unbalanced? (code text) with
    | some fault =>
        rw [found] at accepted
        cases accepted
    | none =>
        have equal := List.findSome?_eq_none_iff.mp found pair isPair
        by_contra differ
        dsimp only at equal
        rw [if_neg differ] at equal
        cases equal
  next => cases accepted

theorem even_lines {count : Nat} {own : List Char} :
    Even (List.replicate count '\n' ++ own) ↔ Even own := by
  have absent : ∀ pair ∈ pairs, pair.1 ≠ '\n' ∧ pair.2 ≠ '\n' := by decide
  have none {c : Char} (other : c ≠ '\n') : (List.replicate count '\n').count c = 0 :=
    List.count_eq_zero_of_not_mem fun member => other (List.eq_of_mem_replicate member)
  refine forall₂_congr fun pair isPair => ?_
  rw [List.count_append, List.count_append, none (absent pair isPair).1,
    none (absent pair isPair).2, Nat.zero_add, Nat.zero_add]

/-- The unit of a type under a header is the header and the unit, which has a package. -/
theorem renderType_eq_ok {style : Style} (kotlin : style.language = .kotlin)
    {types : List NamedType} {type : NamedType} {body : String}
    (written : renderType style types "" type = .ok body) :
    (∀ header, renderType style types header type = .ok (header ++ body)) ∧
      ∀ before, hasPackage (before ++ body.toList) = true := by
  unfold renderType at written ⊢
  rw [kotlin] at written ⊢
  obtain ⟨lines, isLines, written⟩ := Schema.bind_eq_ok written
  cases written
  refine ⟨fun header => ?_, fun before => ?_⟩
  · dsimp only
    rw [isLines]
    simp [bind, Except.bind, pure, Except.pure]
  · obtain ⟨definition, _, isLines⟩ := Schema.bind_eq_ok isLines
    obtain ⟨package, isPackage, isLines⟩ := Schema.bind_eq_ok isLines
    obtain ⟨name, _, rfl⟩ := Schema.map_eq_ok isPackage
    cases isLines
    have starts : "" ++ unlines (["package " ++ name, ""] ++ definition) =
        "package " ++ (name ++ ("\n" ++ ("\n" ++ unlines definition))) := by
      simp [unlines, String.append_assoc]
    rw [starts, String.toList_append]
    exact hasPackage_append before _

/-- The verdict on a unit under a header, in terms of the code that the header leaves of it. -/
theorem checkKotlin_header_iff {style : Style} (kotlin : style.language = .kotlin)
    {types : List NamedType} {type : NamedType} {body : String}
    (written : renderType style types "" type = .ok body) (comment : String) :
    checkKotlin (style.header comment ++ body).toList = .ok () ↔
      Even (codeBehind (leavesOpen 0 (style.header comment).toList) body.toList) := by
  obtain ⟨count, read⟩ := code_header kotlin comment body.toList
  have package := (renderType_eq_ok kotlin written).2 (style.header comment).toList
  rw [String.toList_append, checkKotlin_eq_ok_iff, read, even_lines]
  exact and_iff_right package

theorem checkKotlin_body_iff {style : Style} (kotlin : style.language = .kotlin)
    {types : List NamedType} {type : NamedType} {body : String}
    (written : renderType style types "" type = .ok body) :
    checkKotlin body.toList = .ok () ↔ Even (code body.toList) := by
  rw [checkKotlin_eq_ok_iff]
  exact and_iff_right ((renderType_eq_ok kotlin written).2 [])

/-- An object with a field that has a constraint. -/
def labelled : NamedType :=
  { name := "Part"
    sourceName := "part"
    body := .object false
      [{ name := "code", sourceName := "code", type := .scalar .string,
         constraints := [{ predicate := .isAlpha }] }] }

/-- Its unit is accepted alone, and not if its start is taken for a part of a literal. -/
theorem labelled_verdicts :
    ∃ body, renderType { language := .kotlin } [] "" labelled = .ok body ∧
      Even (code body.toList) ∧ ¬Even (codeBehind true body.toList) := by
  have verdicts : (renderType { language := .kotlin } [] "" labelled).toOption.map (fun body =>
      (decide (Even (code body.toList)), decide (Even (codeBehind true body.toList)))) =
        some (true, false) := by
    decide +kernel
  obtain ⟨body, found, same⟩ := Option.map_eq_some_iff.mp verdicts
  obtain ⟨alone, swallowed⟩ := Prod.mk.inj same
  exact ⟨body, Schema.eq_ok_of_toOption found, of_decide_eq_true alone,
    of_decide_eq_false swallowed⟩

/-- When the comment at the start of Kotlin units keeps the verdict of the check. The verdict on a
unit under a header is that on the code which the header leaves of it. So all units keep their
verdict exactly if the header leaves no literal open, and a unit without quotes keeps it in any
case. -/
theorem comment_keeps_verdict_iff (comment : String) :
    (∀ style types type body, style.language = .kotlin → renderType style types "" type = .ok body →
      renderType style types (style.header comment) type = .ok (style.header comment ++ body) ∧
      (checkKotlin (style.header comment ++ body).toList = .ok () ↔
        Even (codeBehind (leavesOpen 0 (style.header comment).toList) body.toList)) ∧
      ('"' ∉ body.toList →
        (checkKotlin (style.header comment ++ body).toList = .ok () ↔
          checkKotlin body.toList = .ok ()))) ∧
    ((∀ style types type body, style.language = .kotlin →
        renderType style types "" type = .ok body →
        (checkKotlin (style.header comment ++ body).toList = .ok () ↔
          checkKotlin body.toList = .ok ())) ↔
      leavesOpen 0 (({ language := .kotlin } : Style).header comment).toList = false) := by
  refine ⟨fun style types type body kotlin written => ⟨?_, ?_, ?_⟩, ?_, ?_⟩
  · exact (renderType_eq_ok kotlin written).1 _
  · exact checkKotlin_header_iff kotlin written comment
  · intro unquoted
    rw [checkKotlin_header_iff kotlin written, checkKotlin_body_iff kotlin written,
      codeBehind_of_none (literalLength?_of_not_mem unquoted)]
  · intro kept
    -- an open literal would swallow the start of this unit, with one of its brackets
    obtain ⟨body, written, even, swallowed⟩ := labelled_verdicts
    have same := kept _ _ _ _ rfl written
    rw [checkKotlin_header_iff rfl written, checkKotlin_body_iff rfl written] at same
    cases isOpen : leavesOpen 0 (({ language := .kotlin } : Style).header comment).toList with
    | false => rfl
    | true =>
        rw [isOpen] at same
        exact absurd (same.mpr even) swallowed
  · intro closed style types type body kotlin written
    rw [checkKotlin_header_iff kotlin written, checkKotlin_body_iff kotlin written]
    rcases header_cases kotlin comment with empty | same
    · rw [empty]
      rfl
    · rw [same, closed]
      rfl

theorem bracketed_name_keeps_verdict :
    ∃ body, renderType { language := .kotlin } [] "" labelled = .ok body ∧
      (checkKotlin (({ language := .kotlin } : Style).header "from a(b.yaml" ++ body).toList =
        .ok () ↔
        checkKotlin body.toList = .ok ()) := by
  obtain ⟨body, written, _⟩ := labelled_verdicts
  have closed : leavesOpen 0 (({ language := .kotlin } : Style).header "from a(b.yaml").toList =
      false := by
    decide +kernel
  exact ⟨body, written, (comment_keeps_verdict_iff "from a(b.yaml").2.mpr closed
    _ _ _ _ rfl written⟩

end KotlinBrackets

end SchemaCompiler.Target

namespace SchemaCompiler.Compiler

open Target

/-- A document with a constraint. -/
def labels : Document.Node :=
  .mapping 1 [("D", .mapping 1 [
    ("part", .mapping 2 [("type", .scalar 2 (.text "object")), ("properties", .mapping 3 [
      ("code", .mapping 3 [("type", .scalar 3 (.text "string")), ("validate", .sequence 4 [
        .mapping 4
          [("pattern", .scalar 4 (.text "minLength")), ("value", .scalar 4 (.int 1))]])])])])])]

/-- A compiler for Kotlin, with comments or without. -/
def labelCompiler (comments : Bool) : Compiler :=
  { settings := { schemasPath := some (.list [.text "D"]), addGenerationComment := .bool comments }
    language := .kotlin }

/-- A quote in the name of a document makes the check reject a unit that it accepts without its
comment. -/
theorem quoted_name_changes_verdict :
    ∃ commented plain,
      ((labelCompiler true).generate "a\"b" (some labels)).outcome.1 = .ok commented ∧
      ((labelCompiler false).generate "a\"b" (some labels)).outcome.1 = .ok plain ∧
      commented.head?.map (fun unit => (unit.name, check .kotlin unit.body.toList)) =
        some ("Part", .error (.unbalanced '(' ')' 0 1)) ∧
      plain.head?.map (fun unit => (unit.name, check .kotlin unit.body.toList)) =
        some ("Part", .ok ()) := by
  have first : ((labelCompiler true).generate "a\"b" (some labels)).outcome.1.toOption.map
      (·.head?.map fun unit => (unit.name, check .kotlin unit.body.toList)) =
        some (some ("Part", .error (.unbalanced '(' ')' 0 1))) := by decide +kernel
  have second : ((labelCompiler false).generate "a\"b" (some labels)).outcome.1.toOption.map
      (·.head?.map fun unit => (unit.name, check .kotlin unit.body.toList)) =
        some (some ("Part", .ok ())) := by decide +kernel
  obtain ⟨commented, generated, rejected⟩ := Option.map_eq_some_iff.mp first
  obtain ⟨plain, generatedPlain, accepted⟩ := Option.map_eq_some_iff.mp second
  exact ⟨commented, plain, Schema.eq_ok_of_toOption generated,
    Schema.eq_ok_of_toOption generatedPlain,
    rejected, accepted⟩

end SchemaCompiler.Compiler
