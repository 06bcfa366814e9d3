import SchemaCompiler.Proofs.PythonUnit
import SchemaCompiler.Proofs.ValidationSwitch

/-!
# What the text of directives tells

Directives are written one behind the other, with a comma between them, and their arguments are
arbitrary texts: they can have quotes, commas and what looks like another directive in them. Still
the text of a list of directives tells which ones they are. A literal ends where it ends whatever
follows it, so a directive can be told from what is behind it (`directiveText_append_inj`).

Neither can an argument start a new line. Two texts without line ends can stand for each other
anywhere without a change to the number of lines (`SameLines`); a unit keeps its number of lines
when its regular expressions change, since the rest of it does not.
-/

namespace SchemaCompiler.Target

open Document (Scalar)
open Schema (ConstraintRules Directive Failure Field Logged NamedType Predicate PropertyPath
  TypeExpr bind_eq_ok map_eq_ok)

/-! ## The parts of a directive -/

/-- What a directive starts with, up to the name of its predicate. -/
def directiveStart : Language → String
  | .python => "Constraint("
  | .kotlin => "Constraint(predicate = "

/-- What stands between the name of the predicate and the argument. -/
def argumentStart : Language → String
  | .python => ", "
  | .kotlin => ", argument = "

/-- A length as a directive writes it. -/
def lengthText : Language → String → String
  | .python, digits => digits
  | .kotlin, digits => Language.kotlin.literals.literal digits

variable {language : Language}

/-- A directive up to its argument. -/
def directiveHead (language : Language) (predicate : Predicate) : String :=
  directiveStart language ++ language.literals.literal predicate.name

theorem directiveText_null (predicate : Predicate) :
    directiveText language { predicate, argument := .null } =
      .ok (directiveHead language predicate ++ ")") := by
  cases language <;> rfl

theorem directiveText_text (predicate : Predicate) (value : String) :
    directiveText language { predicate, argument := .text value } =
      .ok (directiveHead language predicate ++
        (argumentStart language ++ language.literals.literal value ++ ")")) := by
  cases language <;> simp only [directiveText, directiveHead, directiveStart, argumentStart,
    Scalar.plain?, String.append_assoc] <;> rfl

theorem directiveText_int {predicate : Predicate} {value : Int} {text : String}
    (written : directiveText language { predicate, argument := .int value } = .ok text) :
    ∃ digits, Number.decimal? value = some digits ∧
      text = directiveHead language predicate ++
        (argumentStart language ++ lengthText language digits ++ ")") := by
  cases shown : Number.decimal? value with
  | none =>
      rw [directiveText.eq_def] at written
      simp [Scalar.plain?, shown] at written
  | some digits =>
      refine ⟨digits, rfl, ?_⟩
      cases language <;> simp only [directiveText, Scalar.plain?, shown] at written <;>
        cases written <;>
        simp only [directiveHead, directiveStart, argumentStart, lengthText, String.append_assoc]

/-! ## Where the parts end -/

theorem literal_append_inj {text other : String} {rest otherRest : List Char}
    (same : (language.literals.literal text).toList ++ rest =
      (language.literals.literal other).toList ++ otherRest) :
    text = other ∧ rest = otherRest := by
  rw [language.toList_literal, language.toList_literal] at same
  simp only [List.cons_append, List.append_assoc, List.nil_append, List.cons.injEq,
    true_and] at same
  have read := language.signs.readText_flatMap_spell text.toList rest
  rw [same, language.signs.readText_flatMap_spell] at read
  obtain ⟨characters, others⟩ := Prod.mk.inj (Option.some.inj read)
  exact ⟨(String.toList_inj.mp characters).symm, others.symm⟩

theorem decimalDigits_injective {value other : Nat}
    (same : Number.decimalDigits value = Number.decimalDigits other) : value = other := by
  calc value = Nat.ofDigitChars 10 (Nat.toDigits 10 value) 0 := Nat.ofDigitChars_ten_toDigits.symm
    _ = Nat.ofDigitChars 10 (Nat.toDigits 10 other) 0 := congrArg (Nat.ofDigitChars 10 · 0) same
    _ = other := Nat.ofDigitChars_ten_toDigits

/-- A natural number is written with its digits alone. -/
theorem toList_decimal? {value : Int} (nonnegative : 0 ≤ value) {digits : String}
    (written : Number.decimal? value = some digits) :
    digits.toList = Number.decimalDigits value.natAbs := by
  unfold Number.decimal? at written
  dsimp only at written
  split at written
  · cases written
  · cases written
    rw [if_neg (by omega), String.toList_ofList]

theorem takeWhile_digits (value : Nat) (rest : List Char) :
    (Number.decimalDigits value ++ ')' :: rest).takeWhile Char.isDigit =
      Number.decimalDigits value := by
  have digits : ∀ c ∈ Number.decimalDigits value, c.isDigit = true :=
    fun c member => Nat.isDigit_of_mem_toDigits (by decide) (by decide) member
  rw [List.takeWhile_append_of_pos digits, List.takeWhile_cons_of_neg (by decide), List.append_nil]

/-- A length ends at the parenthesis. -/
theorem lengthText_append_inj {value other : Int} (nonnegative : 0 ≤ value)
    (otherNonnegative : 0 ≤ other) {digits otherDigits : String}
    (shown : Number.decimal? value = some digits)
    (otherShown : Number.decimal? other = some otherDigits) {rest otherRest : List Char}
    (same : (lengthText language digits).toList ++ ')' :: rest =
      (lengthText language otherDigits).toList ++ ')' :: otherRest) :
    value = other ∧ rest = otherRest := by
  have isNumber := toList_decimal? nonnegative shown
  have otherNumber := toList_decimal? otherNonnegative otherShown
  have digitsSame : digits.toList = otherDigits.toList ∧ rest = otherRest := by
    cases language with
    | python =>
        rw [lengthText, lengthText, isNumber, otherNumber] at same
        have digits := congrArg (List.takeWhile Char.isDigit) same
        rw [takeWhile_digits, takeWhile_digits] at digits
        rw [digits] at same
        exact ⟨by
          rw [isNumber, otherNumber, digits], (List.cons.inj (List.append_cancel_left same)).2⟩
    | kotlin =>
        obtain ⟨rfl, ends⟩ := literal_append_inj same
        exact ⟨rfl, (List.cons.inj ends).2⟩
  have magnitudes : value.natAbs = other.natAbs :=
    decimalDigits_injective (isNumber.symm.trans (digitsSame.1.trans otherNumber))
  exact ⟨by omega, digitsSame.2⟩

theorem Predicate.name_injective {predicate other : Predicate}
    (same : predicate.name = other.name) :
    predicate = other := by
  cases predicate <;> cases other <;> first | rfl | exact absurd same (by decide)

/-- Arguments of one predicate are of one kind. -/
theorem wellFormed_cases {predicate : Predicate} {argument other : Scalar}
    (wellFormed : Directive.WellFormed { predicate, argument })
    (otherWellFormed : Directive.WellFormed { predicate, argument := other }) :
    (argument = .null ∧ other = .null) ∨
      (∃ value otherValue : Int, (0 ≤ value ∧ 0 ≤ otherValue) ∧ argument = .int value ∧
        other = .int otherValue) ∨
      ∃ value otherValue, argument = .text value ∧ other = .text otherValue := by
  cases predicate <;> cases argument <;> cases other <;> first
    | exact wellFormed.elim
    | exact otherWellFormed.elim
    | exact .inl ⟨rfl, rfl⟩
    | exact .inr (.inl ⟨_, _, ⟨wellFormed, otherWellFormed⟩, rfl, rfl⟩)
    | exact .inr (.inr ⟨_, _, rfl, rfl⟩)

theorem exists_directiveHead {directive : Directive} (wellFormed : directive.WellFormed)
    {text : String} (written : directiveText language directive = .ok text) :
    ∃ tail, text = directiveHead language directive.predicate ++ tail := by
  obtain ⟨predicate, argument⟩ := directive
  rcases wellFormed_cases wellFormed wellFormed with ⟨rfl, _⟩ | ⟨value, _, _, rfl, _⟩ |
    ⟨value, _, rfl, _⟩
  · rw [directiveText_null] at written
    exact ⟨_, (Except.ok.inj written).symm⟩
  · obtain ⟨digits, _, isText⟩ := directiveText_int written
    exact ⟨_, isText⟩
  · rw [directiveText_text] at written
    exact ⟨_, (Except.ok.inj written).symm⟩

/-- A directive can be told from what is behind it. -/
theorem directiveText_append_inj {directive other : Directive} (wellFormed : directive.WellFormed)
    (otherWellFormed : other.WellFormed) {text otherText : String}
    (written : directiveText language directive = .ok text)
    (otherWritten : directiveText language other = .ok otherText) {rest otherRest : List Char}
    (same : text.toList ++ rest = otherText.toList ++ otherRest) :
    directive = other ∧ rest = otherRest := by
  obtain ⟨predicate, argument⟩ := directive
  obtain ⟨otherPredicate, otherArgument⟩ := other
  -- the names of the predicates are the first thing that can differ
  have split {tail otherTail : String} (isText : text = directiveHead language predicate ++ tail)
      (isOther : otherText = directiveHead language otherPredicate ++ otherTail) :
      predicate = otherPredicate ∧ tail.toList ++ rest = otherTail.toList ++ otherRest := by
    simp only [isText, isOther, directiveHead, String.toList_append, List.append_assoc] at same
    obtain ⟨names, tails⟩ := literal_append_inj (List.append_cancel_left same)
    exact ⟨Predicate.name_injective names, tails⟩
  obtain ⟨tail, isText⟩ := exists_directiveHead wellFormed written
  obtain ⟨otherTail, isOther⟩ := exists_directiveHead otherWellFormed otherWritten
  obtain ⟨rfl, _⟩ := split isText isOther
  rcases wellFormed_cases wellFormed otherWellFormed with
    ⟨rfl, rfl⟩ | ⟨value, other, ⟨nonnegative, otherNonnegative⟩, rfl, rfl⟩ |
      ⟨value, other, rfl, rfl⟩
  · rw [directiveText_null] at written otherWritten
    obtain ⟨_, tails⟩ := split (Except.ok.inj written).symm (Except.ok.inj otherWritten).symm
    exact ⟨rfl, List.append_cancel_left tails⟩
  · obtain ⟨digits, shown, isText⟩ := directiveText_int written
    obtain ⟨otherDigits, otherShown, isOther⟩ := directiveText_int otherWritten
    obtain ⟨_, tails⟩ := split isText isOther
    simp only [String.toList_append, List.append_assoc] at tails
    obtain ⟨rfl, ends⟩ := lengthText_append_inj nonnegative otherNonnegative shown otherShown
      (List.append_cancel_left tails)
    exact ⟨rfl, ends⟩
  · rw [directiveText_text] at written otherWritten
    obtain ⟨_, tails⟩ := split (Except.ok.inj written).symm (Except.ok.inj otherWritten).symm
    simp only [String.toList_append, List.append_assoc] at tails
    obtain ⟨rfl, ends⟩ := literal_append_inj (List.append_cancel_left tails)
    exact ⟨rfl, List.append_cancel_left ends⟩

/-! ## Lists of directives -/

/-- What stands behind the first of some texts that are written with commas between them. -/
def behindFirst : List String → String
  | [] => ""
  | first :: rest => ", " ++ ", ".intercalate (first :: rest)

theorem intercalate_cons_eq (first : String) (rest : List String) :
    ", ".intercalate (first :: rest) = first ++ behindFirst rest := by
  cases rest with
  | nil => simp [behindFirst]
  | cons second more => rw [String.intercalate_cons_cons, behindFirst, String.append_assoc]

/-- Whether there is another text shows in what stands behind the first. -/
theorem behindFirst_inj {texts others : List String}
    (same : behindFirst texts = behindFirst others) :
    ", ".intercalate texts = ", ".intercalate others := by
  have characters := congrArg String.toList same
  cases texts with
  | nil =>
      cases others with
      | nil => rfl
      | cons => simp [behindFirst] at characters
  | cons first rest =>
      cases others with
      | nil => simp [behindFirst] at characters
      | cons second more =>
          simp only [behindFirst, String.toList_append] at characters
          exact String.toList_inj.mp (List.append_cancel_left characters)

theorem directives_eq_of_intercalate {directives others : List Directive}
    {texts otherTexts : List String} (wellFormed : ∀ directive ∈ directives, directive.WellFormed)
    (otherWellFormed : ∀ directive ∈ others, directive.WellFormed)
    (written : List.Forall₂ (fun directive text => directiveText language directive = .ok text)
      directives texts)
    (otherWritten : List.Forall₂ (fun directive text => directiveText language directive = .ok text)
      others otherTexts)
    (same : ", ".intercalate texts = ", ".intercalate otherTexts) : directives = others := by
  have nonempty {directive : Directive} {text : String} (wellFormed : directive.WellFormed)
      (written : directiveText language directive = .ok text) (rest : List String) :
      ", ".intercalate (text :: rest) ≠ "" := by
    obtain ⟨tail, rfl⟩ := exists_directiveHead wellFormed written
    rw [intercalate_cons_eq]
    intro empty
    have characters := congrArg String.toList empty
    cases language <;> simp [directiveHead, directiveStart] at characters
  induction written generalizing others otherTexts with
  | nil =>
      cases otherWritten with
      | nil => rfl
      | cons first _ => exact absurd same.symm (nonempty (otherWellFormed _ (by simp)) first _)
  | cons first _ ih =>
      cases otherWritten with
      | nil => exact absurd same (nonempty (wellFormed _ (by simp)) first _)
      | cons otherFirst more =>
          rw [List.forall_mem_cons] at wellFormed otherWellFormed
          have characters := congrArg String.toList same
          rw [intercalate_cons_eq, intercalate_cons_eq, String.toList_append,
            String.toList_append] at characters
          obtain ⟨rfl, rest⟩ :=
            directiveText_append_inj wellFormed.1 otherWellFormed.1 first otherFirst characters
          rw [ih wellFormed.2 otherWellFormed.2 more (behindFirst_inj (String.toList_inj.mp rest))]

/-! ## The number of lines -/

theorem length_splitOn (sign : Char) (text : List Char) :
    (text.splitOn sign).length = text.count sign + 1 := by
  induction text with
  | nil => rfl
  | cons c rest ih =>
      rw [List.splitOn_cons_eq_if_modifyHead, List.count_cons]
      split <;> simp [ih]

/-- The number of lines of a text. -/
def lineCount (text : String) : Nat := (sourceLines text).length

/-- Texts of which one can stand for the other anywhere, as far as the number of lines goes. -/
def SameLines (text other : String) : Prop :=
  ∀ before after, lineCount (before ++ text ++ after) = lineCount (before ++ other ++ after)

namespace SameLines

theorem refl (text : String) : SameLines text text := fun _ _ => rfl

theorem append {left otherLeft right otherRight : String} (first : SameLines left otherLeft)
    (second : SameLines right otherRight) :
    SameLines (left ++ right) (otherLeft ++ otherRight) := by
  intro before after
  calc lineCount (before ++ (left ++ right) ++ after)
      = lineCount (before ++ left ++ (right ++ after)) := by simp only [String.append_assoc]
    _ = lineCount (before ++ otherLeft ++ (right ++ after)) := first before (right ++ after)
    _ = lineCount (before ++ otherLeft ++ right ++ after) := by simp only [String.append_assoc]
    _ = lineCount (before ++ otherLeft ++ otherRight ++ after) := second (before ++ otherLeft) after
    _ = lineCount (before ++ (otherLeft ++ otherRight) ++ after) := by
      simp only [String.append_assoc]

/-- The middle of a text is changed. -/
theorem between (before : String) {text other : String} (same : SameLines text other)
    (after : String) :
    SameLines (before ++ text ++ after) (before ++ other ++ after) :=
  ((refl before).append same).append (refl after)

theorem join {texts others : List String} (same : List.Forall₂ SameLines texts others) :
    SameLines (String.join texts) (String.join others) := by
  induction same with
  | nil => exact refl _
  | cons first _ ih =>
      rw [String.join_cons, String.join_cons]
      exact first.append ih

theorem intercalate (separator : String) {texts others : List String}
    (same : List.Forall₂ SameLines texts others) :
    SameLines (separator.intercalate texts) (separator.intercalate others) := by
  induction same with
  | nil => exact refl _
  | cons first rest ih =>
      cases rest with
      | nil => simpa using first
      | cons _ _ =>
          rw [String.intercalate_cons_cons, String.intercalate_cons_cons]
          exact (first.append (refl separator)).append ih

theorem unlines {lines others : List String} (same : List.Forall₂ SameLines lines others) :
    SameLines (unlines lines) (unlines others) := by
  refine join (List.forall₂_map_left_iff.mpr (List.forall₂_map_right_iff.mpr (same.imp ?_)))
  exact fun _ _ line => line.append (refl _)

end SameLines

/-- Texts on one line that are not empty can stand for each other. -/
theorem SameLines.of_singleLine {text other : String} (single : SingleLine text)
    (otherSingle : SingleLine other) (nonempty : text ≠ "") (otherNonempty : other ≠ "") :
    SameLines text other := by
  intro before after
  have counted {line : String} (single : SingleLine line) (nonempty : line ≠ "") :
      lineCount (before ++ line ++ after) =
        (Text.unifyLineEnds before.toList).count '\n' + (Text.unifyLineEnds after.toList).count
          '\n' + 1 := by
    have characters : line.toList ≠ [] := fun empty => nonempty (String.toList_eq_nil_iff.mp empty)
    rw [lineCount, sourceLines, length_splitOn, String.toList_append, String.toList_append,
      unifyLineEnds_around single.1 single.2 characters, List.count_append, List.count_append,
      List.count_eq_zero_of_not_mem single.1]
    rfl
  rw [counted single nonempty, counted otherSingle otherNonempty]

/-! ## Other regular expressions -/

/-- Directives that differ at most in the text of a regular expression. -/
inductive SameButRegex : Directive → Directive → Prop
  | same (directive : Directive) : SameButRegex directive directive
  | regex (text other : String) :
      SameButRegex { predicate := .regex, argument := .text text }
        { predicate := .regex, argument := .text other }

/-- Fields that differ at most in the texts of regular expressions. -/
structure VariesInRegex (field other : Field) : Prop where
  same : field.unconstrained = other.unconstrained
  constraints : List.Forall₂ SameButRegex field.constraints other.constraints

/-- What is read from related items is related. -/
theorem exists_mapM_related {ε α β : Type} {read otherRead : α → Except ε β}
    {related : α → α → Prop} {alike : β → β → Prop}
    (each : ∀ item other value, related item other → read item = .ok value →
      ∃ otherValue, otherRead other = .ok otherValue ∧ alike value otherValue)
    {items others : List α} (same : List.Forall₂ related items others) {values : List β}
    (done : items.mapM read = .ok values) :
    ∃ otherValues, others.mapM otherRead = .ok otherValues ∧
      List.Forall₂ alike values otherValues := by
  induction same generalizing values with
  | nil =>
      cases done
      exact ⟨[], rfl, .nil⟩
  | cons first _ ih =>
      rw [List.mapM_cons] at done
      obtain ⟨value, isValue, done⟩ := bind_eq_ok done
      obtain ⟨rest, isRest, done⟩ := bind_eq_ok done
      cases done
      obtain ⟨otherValue, isOther, here⟩ := each _ _ _ first isValue
      obtain ⟨others, areOthers, later⟩ := ih isRest
      refine ⟨otherValue :: others, ?_, .cons here later⟩
      rw [List.mapM_cons, isOther, areOthers]
      rfl

theorem literal_ne_empty (text : String) : language.literals.literal text ≠ "" := by
  rw [Ne, ← String.toList_eq_nil_iff, language.toList_literal]
  exact List.cons_ne_nil _ _

theorem SameButRegex.directiveText {directive other : Directive}
    (same : SameButRegex directive other) {text : String}
    (written : directiveText language directive = .ok text) :
    ∃ otherText, Target.directiveText language other = .ok otherText ∧
      SameLines text otherText := by
  cases same with
  | same => exact ⟨text, written, .refl text⟩
  | regex value otherValue =>
      rw [directiveText_text] at written
      cases written
      refine ⟨_, directiveText_text .regex otherValue, (SameLines.refl _).append (.between _ ?_ _)⟩
      exact .of_singleLine (singleLine_literal language _) (singleLine_literal language _)
        (literal_ne_empty _) (literal_ne_empty _)

theorem exists_directives {style : Style} {field other : Field}
    (same : List.Forall₂ SameButRegex field.constraints other.constraints)
    {directives : List String} (written : style.directives field = .ok directives) :
    ∃ others, style.directives other = .ok others ∧ List.Forall₂ SameLines directives others := by
  unfold Style.directives at written ⊢
  by_cases validations : style.validations = true
  · rw [if_pos validations] at written ⊢
    exact exists_mapM_related (fun _ _ _ same written => same.directiveText written) same written
  · rw [if_neg validations] at written ⊢
    cases written
    exact ⟨[], rfl, .nil⟩

/-! ## Members -/

section Members

variable {style : Style} {types otherTypes : List NamedType}

/-- Members of a language that differ in their directives, with the same lines. -/
inductive SameMembers {α : Type} (write : String → Bool → String → List String → α) : α → α → Prop
  | intro (name : String) (optional : Bool) (type : String) {directives others : List String}
      (same : List.Forall₂ SameLines directives others) :
      SameMembers write (write name optional type directives) (write name optional type others)

theorem exists_members {α : Type} (write : String → Bool → String → List String → α)
    (sameTypes : types.map NamedType.unconstrained = otherTypes.map NamedType.unconstrained)
    {fields others : List Field} (varies : List.Forall₂ VariesInRegex fields others)
      {members : List α} (done : fields.mapM (fun field => do
      let type ← language.typeText types field.type
      let directives ← style.directives field
      return write field.name field.optional type directives) = .ok members) :
    ∃ otherMembers, others.mapM (fun field => do
        let type ← language.typeText otherTypes field.type
        let directives ← style.directives field
        return write field.name field.optional type directives) = .ok otherMembers ∧
      List.Forall₂ (SameMembers write) members otherMembers := by
  refine exists_mapM_related ?_ varies done
  rintro field other made ⟨alike, constraints⟩ done
  obtain ⟨type, isType, done⟩ := bind_eq_ok done
  obtain ⟨directives, areDirectives, done⟩ := bind_eq_ok done
  cases done
  obtain ⟨texts, areTexts, lines⟩ := exists_directives constraints areDirectives
  have typeSame : language.typeText otherTypes other.type = .ok type := by
    rw [← isType, ← typeText_unconstrained, ← sameTypes, typeText_unconstrained]
    exact congrArg (language.typeText types) (congrArg Field.type alike).symm
  refine ⟨write other.name other.optional type texts, ?_, ?_⟩
  · rw [typeSame, areTexts]
    rfl
  · have name : field.unconstrained.name = other.unconstrained.name := by rw [alike]
    have optional : field.unconstrained.optional = other.unconstrained.optional := by rw [alike]
    rw [show other.name = field.name from name.symm, show other.optional =
      field.optional from optional.symm]
    exact .intro _ _ _ lines

/-- A member of a Python class, from its parts. -/
def Python.writeMember (name : String) (optional : Bool) (type : String)
    (directives : List String) : Python.Member :=
  { name := Language.python.memberName name, type, optional, directives }

/-- A property of a Kotlin class, from its parts. -/
def Kotlin.writeMember (name : String) (optional : Bool) (type : String)
    (directives : List String) : Kotlin.Member :=
  { name := Language.kotlin.memberName name, type, optional, directives }

theorem Python.sameLines_line {made other : Python.Member}
    (same : SameMembers Python.writeMember made other) :
    SameLines made.line other.line := by
  obtain ⟨name, optional, type, directives⟩ := same
  cases directives with
  | nil => exact .refl _
  | cons first rest =>
      have inside := SameLines.intercalate ", " (.cons first rest)
      cases optional with
      | false => exact (SameLines.refl _).append (.between _ (.between _ inside _) _)
      | true => exact (SameLines.refl _).append (.between _ (.between _ inside _) _)

theorem Python.any_directives_eq {members others : List Python.Member}
    (same : List.Forall₂ (SameMembers Python.writeMember) members others) :
    others.any (!·.directives.isEmpty) = members.any (!·.directives.isEmpty) := by
  induction same with
  | nil => rfl
  | cons first _ ih =>
      obtain ⟨_, _, _, directives⟩ := first
      rw [List.any_cons, List.any_cons, ih]
      cases directives <;> rfl

theorem Kotlin.sameLines_lines {made other : Kotlin.Member}
    (same : SameMembers Kotlin.writeMember made other) :
    List.Forall₂ SameLines made.lines other.lines := by
  obtain ⟨name, optional, type, directives⟩ := same
  cases directives with
  | nil => exact List.forall₂_same.mpr fun _ _ => .refl _
  | cons first rest =>
      exact .cons (.between _ (.intercalate ", " (.cons first rest)) _) (.cons (.refl _) .nil)

end Members

/-! ## Units -/

theorem varyingTypes {fields others : List Field}
    (varies : List.Forall₂ VariesInRegex fields others) :
    others.map (·.type) = fields.map (·.type) := by
  induction varies with
  | nil => rfl
  | @cons field other _ _ first _ ih =>
      have type : field.unconstrained.type = other.unconstrained.type := by rw [first.same]
      exact List.cons_eq_cons.mpr ⟨type.symm, ih⟩

section Units

variable {style : Style} {types otherTypes : List NamedType} {fields others : List Field}
  (sameTypes : types.map NamedType.unconstrained = otherTypes.map NamedType.unconstrained)
  (varies : List.Forall₂ VariesInRegex fields others) (name : String)
include sameTypes varies

/-- Objects that differ in their members only have the same imports. -/
theorem Python.objectNames_eq :
    Python.objectNames otherTypes name others = Python.objectNames types name fields := by
  rw [Python.objectNames, Python.objectNames, varyingTypes varies,
    ← referencedNames_unconstrained, ← sameTypes,
    referencedNames_unconstrained]

theorem Python.exists_objectUnit {unit : Python.ObjectUnit}
    (done : Python.objectUnit style types name fields = .ok unit) :
    ∃ other, Python.objectUnit style otherTypes name others = .ok other ∧
      List.Forall₂ SameLines unit.lines other.lines := by
  rw [Python.objectUnit_eq] at done ⊢
  obtain ⟨members, areMembers, rfl⟩ := map_eq_ok done
  obtain ⟨otherMembers, areOthers, alike⟩ :=
    exists_members Python.writeMember sameTypes varies areMembers
  have pairs : Python.objectPairs otherTypes name others otherMembers =
      Python.objectPairs types name fields members := by
    unfold Python.objectPairs
    rw [varyingTypes varies, Python.any_directives_eq alike, Python.objectNames_eq sameTypes varies]
  rw [show others.mapM (Python.member style otherTypes) = .ok otherMembers from areOthers,
    Except.map, pairs, Python.objectNames_eq sameTypes varies]
  refine ⟨_, rfl, List.rel_append (List.forall₂_same.mpr fun _ _ => .refl _) ?_⟩
  -- the lines before the members are the same
  cases alike with
  | nil => exact List.forall₂_same.mpr fun _ _ => .refl _
  | cons first rest =>
      refine List.forall₂_map_left_iff.mpr (List.forall₂_map_right_iff.mpr ?_)
      refine List.forall₂_map_left_iff.mpr
        (List.forall₂_map_right_iff.mpr ((List.Forall₂.cons first rest).imp ?_))
      exact fun _ _ same => (SameLines.refl _).append (Python.sameLines_line same)

theorem Kotlin.exists_typeLines (sourceName : String) (synthesized : Bool) {lines : List String}
    (done : Kotlin.typeLines style types { name, sourceName, body := .object synthesized fields } =
      .ok lines) :
    ∃ otherLines, Kotlin.typeLines style otherTypes
      { name, sourceName, body := .object synthesized others } =
      .ok otherLines ∧ List.Forall₂ SameLines lines otherLines := by
  obtain ⟨definition, isDefinition, done⟩ := bind_eq_ok done
  obtain ⟨package, isPackage, done⟩ := bind_eq_ok done
  cases done
  obtain ⟨members, areMembers, rfl⟩ := map_eq_ok isDefinition
  obtain ⟨otherMembers, areOthers, alike⟩ :=
    exists_members Kotlin.writeMember sameTypes varies areMembers
  have defined : Kotlin.definitionLines style otherTypes
      { name, sourceName, body := .object synthesized others } =
      .ok (Kotlin.objectLines name otherMembers) := by
    show (others.mapM (Kotlin.member style otherTypes)).map (Kotlin.objectLines name) = _
    rw [show others.mapM (Kotlin.member style otherTypes) = .ok otherMembers from areOthers]
    rfl
  refine ⟨package ++ Kotlin.objectLines name otherMembers, ?_, ?_⟩
  · unfold Kotlin.typeLines
    rw [defined, isPackage]
    rfl
  refine List.rel_append (List.forall₂_same.mpr fun _ _ => .refl _) ?_
  cases alike with
  | nil => exact List.forall₂_same.mpr fun _ _ => .refl _
  | cons first rest =>
      refine List.rel_append (.cons (.refl _) ?_) (.cons (.refl _) .nil)
      exact List.rel_flatMap (.cons first rest) fun _ _ same => Kotlin.sameLines_lines same

/-- An object keeps the number of lines of its unit when its regular expressions change. -/
theorem exists_renderType (header sourceName : String) (synthesized : Bool) {body : String}
    (done : renderType style types header { name, sourceName, body := .object synthesized fields } =
      .ok body) :
    ∃ otherBody,
      renderType style otherTypes header { name, sourceName, body := .object synthesized others } =
        .ok otherBody ∧
      lineCount otherBody = lineCount body := by
  have written {lines otherLines : List String} (same : List.Forall₂ SameLines lines otherLines) :
      lineCount (header ++ unlines otherLines) = lineCount (header ++ unlines lines) := by
    have counted := SameLines.unlines same header ""
    rw [String.append_empty, String.append_empty] at counted
    exact counted.symm
  unfold renderType at done ⊢
  cases language : style.language with
  | python =>
      rw [language] at done
      obtain ⟨lines, areLines, done⟩ := bind_eq_ok done
      obtain ⟨unit, isUnit, rfl⟩ := map_eq_ok areLines
      cases done
      obtain ⟨other, isOther, same⟩ := Python.exists_objectUnit sameTypes varies name isUnit
      refine ⟨header ++ unlines other.lines, ?_, written same⟩
      show ((Python.objectUnit style otherTypes name others).map Python.ObjectUnit.lines >>= _) = _
      rw [isOther]
      rfl
  | kotlin =>
      rw [language] at done
      obtain ⟨lines, areLines, done⟩ := bind_eq_ok done
      cases done
      obtain ⟨otherLines, areOthers, same⟩ :=
        Kotlin.exists_typeLines sameTypes varies name sourceName synthesized areLines
      refine ⟨header ++ unlines otherLines, ?_, written same⟩
      show (Kotlin.typeLines _ _ _ >>= _) = _
      rw [areOthers]
      rfl

end Units

/-! ## What can be told from a text -/

/-- Lists of directives that the `validate` node of a property can compile to. -/
def Compilable (directives : List Directive) : Prop :=
  ∃ (rules : ConstraintRules) (path : PropertyPath) (node : Option Document.Node),
    (Schema.compileConstraints rules path node).outcome.1 = .ok directives

/-- The text of the directives of a property tells which they are, and no argument can start a line:
lists of directives with the same text are the same, every directive stands on one line, and the
unit of an object has as many lines with any other regular expressions. -/
theorem directives_determined_by_text (language : Language) :
    (∀ directives others texts otherTexts, Compilable directives → Compilable others →
      directives.mapM (directiveText language) = .ok texts →
      others.mapM (directiveText language) = .ok otherTexts →
      ", ".intercalate texts = ", ".intercalate otherTexts → directives = others) ∧
    (∀ directives texts, Compilable directives →
      directives.mapM (directiveText language) = .ok texts →
      ∀ text ∈ texts, SingleLine text) ∧
    ∀ (style : Style) (types otherTypes : List NamedType) (header name sourceName : String)
      (synthesized : Bool) (fields others : List Field) (body : String), style.language = language →
      types.map NamedType.unconstrained = otherTypes.map NamedType.unconstrained →
      List.Forall₂ VariesInRegex fields others →
      renderType style types header { name, sourceName, body := .object synthesized fields } =
        .ok body →
      ∃ otherBody,
        renderType style otherTypes header
          { name, sourceName, body := .object synthesized others } = .ok otherBody ∧
        lineCount otherBody = lineCount body := by
  refine ⟨?_, ?_, ?_⟩
  · rintro directives others texts otherTexts ⟨_, _, _, done⟩
      ⟨_, _, _, otherDone⟩ written otherWritten same
    exact directives_eq_of_intercalate (Schema.compileConstraints_wellFormed done)
      (Schema.compileConstraints_wellFormed otherDone) (forall₂_of_mapM_eq_ok written)
      (forall₂_of_mapM_eq_ok otherWritten) same
  · rintro directives texts ⟨_, _, _, done⟩ written text member
    obtain ⟨directive, isDirective, isText⟩ :=
      exists_left_of_mem (forall₂_of_mapM_eq_ok written) member
    exact singleLine_directiveText
      (Schema.compileConstraints_wellFormed done directive isDirective) isText
  · intro style types otherTypes header name sourceName synthesized fields others body
      _ sameTypes varies done
    exact exists_renderType sameTypes varies name header sourceName synthesized done

/-- A regular expression that looks like the end of one directive and the start of another, with a
line end between. -/
def injection : Directive :=
  { predicate := .regex, argument := .text "\"),\n Constraint(predicate = \"isAlpha" }

/-- The directives that it looks like. -/
def lookalike : List Directive :=
  [{ predicate := .regex, argument := .text "" }, { predicate := .isAlpha }]

/-- A regular expression without any signs. -/
def plainRegex : Directive := { predicate := .regex, argument := .text "a" }

/-- The field of a part, with some constraints. -/
def partField (constraints : List Directive) : Field :=
  { name := "code", sourceName := "code", type := .scalar .string, constraints }

/-- A part with some constraints on its field. -/
def part (constraints : List Directive) : NamedType :=
  { name := "Part", sourceName := "part", body := .object false [partField constraints] }

theorem injection_told_from_lookalike :
    (∃ texts others, [injection].mapM (directiveText .kotlin) = .ok texts ∧
      lookalike.mapM (directiveText .kotlin) = .ok others ∧ (∀ text ∈ texts, SingleLine text) ∧
      ", ".intercalate texts ≠ ", ".intercalate others) ∧
    ∃ body other, renderType { language := .kotlin } [] "" (part [plainRegex]) = .ok body ∧
      renderType { language := .kotlin } [] "" (part [injection]) = .ok other ∧
      lineCount other = lineCount body := by
  obtain ⟨determined, single, lines⟩ := directives_determined_by_text .kotlin
  have compiled : Compilable [injection] :=
    ⟨{ checkRegex := false }, ⟨"part", "code"⟩,
      some (.sequence 1 [.mapping 1 [("pattern", .scalar 1 (.text "regex")),
      ("value", .scalar 1 injection.argument)]]), by decide⟩
  have otherCompiled : Compilable lookalike :=
    ⟨{ checkRegex := false }, ⟨"part", "code"⟩,
      some (.sequence 1 [.mapping 1 [("pattern", .scalar 1 (.text "regex")),
      ("value", .scalar 1 (.text ""))], .mapping 1 [("pattern", .scalar 1 (.text "isLetter"))]]), by
        decide⟩
  refine ⟨?_, ?_⟩
  · refine ⟨_, _, rfl, rfl, single [injection] _ compiled rfl, fun same => ?_⟩
    have lists := determined [injection] lookalike _ _ compiled otherCompiled rfl rfl same
    exact absurd lists (by decide)
  · have varies : List.Forall₂ VariesInRegex [partField [plainRegex]] [partField [injection]] :=
      .cons ⟨rfl, .cons (.regex _ _) .nil⟩ .nil
    have rendered : renderType { language := .kotlin } [] "" (part [plainRegex]) = .ok _ := rfl
    obtain ⟨other, isOther, same⟩ :=
      lines { language := .kotlin } [] [] "" "Part" "part" false _ _ _ rfl rfl varies rendered
    exact ⟨_, other, rendered, isOther, same⟩

end SchemaCompiler.Target
