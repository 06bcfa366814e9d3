import SchemaCompiler.Target.Language

/-!
# String literals read back

A literal is written by a chain of replacements over the whole text, each of which sees the result
of the ones before. It is read by going over its characters once, from left to right. For a syntax
whose quote, escape and marker are single characters, the chain amounts to spelling every character
on its own (`escapeText_toList`), and the reader undoes one such spelling at a time
(`readText_spell`).
-/

namespace SchemaCompiler

/-! ## Replacing a single character -/

/-- Replacing one character is a replacement at every character. -/
theorem Text.replaceAll_singleton (target : Char) (replacement text : List Char) :
    Text.replaceAll [target] replacement text =
      text.flatMap fun c => if c = target then replacement else [c] := by
  unfold Text.replaceAll
  induction text with
  | nil => rfl
  | cons c rest ih =>
      rw [Text.replaceFrom, List.flatMap_cons]
      by_cases hit : c = target
      · subst hit
        simpa using ih
      · have miss : ¬ target = c := fun same => hit same.symm
        simpa [hit, miss] using ih

namespace LiteralSyntax

/-! ## The reader -/

/-- The signs of a syntax in which each of them is one character: all different, and none of them a
control character or the letter that stands for one. -/
structure Signs where
  quote : Char
  escape : Char
  /-- What starts an interpolation, if anything does. -/
  marker : Option Char
  distinct : (quote :: escape :: marker.toList).Nodup
  apart : ∀ sign ∈ quote :: escape :: marker.toList,
    ∀ control ∈ controls, sign ≠ control.1 ∧ sign ≠ control.2

namespace Signs

/-- The syntax with these signs. -/
def toSyntax (signs : Signs) : LiteralSyntax :=
  { quote := String.singleton signs.quote
    escape := String.singleton signs.escape
    marker := signs.marker.map String.singleton }

/-- The character that an escaped character stands for. -/
def unescaped (c : Char) : Char :=
  if c = 'n' then '\n' else if c = 'r' then '\r' else if c = 't' then '\t' else c

/-- Read the text of a literal up to the quote that ends it, and give what follows the quote. A line
break or a marker without an escape is an error, and so is a literal that does not end. -/
def readText (signs : Signs) : List Char → Option (List Char × List Char)
  | [] => none
  | c :: rest =>
    if c = signs.quote then some ([], rest)
    else if c = signs.escape then
      match rest with
      | [] => none
      | d :: after => (signs.readText after).map fun (text, left) => (unescaped d :: text, left)
    else if c = '\n' ∨ c = '\r' ∨ signs.marker = some c then none
    else (signs.readText rest).map fun (text, left) => (c :: text, left)

/-- Read the literal that a text starts with: the text it stands for, and what follows it. -/
def read (signs : Signs) (source : String) : Option (String × String) :=
  match source.toList with
  | [] => none
  | c :: rest =>
    if c = signs.quote then
      (signs.readText rest).map fun (text, left) => (String.ofList text, String.ofList left)
    else none

/-! ## The spelling of a character -/

/-- Is a character one of the signs? -/
def IsSign (signs : Signs) (c : Char) : Prop :=
  c = signs.quote ∨ c = signs.escape ∨ signs.marker = some c

instance (signs : Signs) (c : Char) : Decidable (signs.IsSign c) :=
  inferInstanceAs (Decidable (c = signs.quote ∨ c = signs.escape ∨ signs.marker = some c))

/-- Only line feed, carriage return and tab have letters. -/
theorem lookup_controls {c : Char} (lf : c ≠ '\n') (cr : c ≠ '\r') (tab : c ≠ '\t') :
    controls.lookup c = none := by
  simp [controls, List.lookup_cons, beq_false_of_ne lf, beq_false_of_ne cr, beq_false_of_ne tab]

/-- How a character is written in a literal. -/
def spell (signs : Signs) (c : Char) : List Char :=
  if signs.IsSign c then [signs.escape, c]
  else match controls.lookup c with
    | some letter => [signs.escape, letter]
    | none => [c]

theorem quote_ne_escape (signs : Signs) : signs.quote ≠ signs.escape := by
  have distinct := signs.distinct
  simp only [List.nodup_cons, List.mem_cons, not_or] at distinct
  exact distinct.1.1

theorem marker_ne {signs : Signs} {m : Char} (marked : signs.marker = some m) :
    m ≠ signs.quote ∧ m ≠ signs.escape := by
  have distinct := signs.distinct
  simp only [marked, Option.toList_some, List.nodup_cons, List.mem_cons, List.not_mem_nil, or_false,
    not_or] at distinct
  exact ⟨fun same => distinct.1.2 same.symm, fun same => distinct.2.1 same.symm⟩

/-- No sign is a control character or the letter of one. -/
theorem IsSign.apart {signs : Signs} {sign : Char} (isSign : signs.IsSign sign) :
    (sign ≠ '\n' ∧ sign ≠ 'n') ∧ (sign ≠ '\r' ∧ sign ≠ 'r') ∧ sign ≠ '\t' ∧ sign ≠ 't' := by
  have member : sign ∈ signs.quote :: signs.escape :: signs.marker.toList := by
    simpa [IsSign, Option.mem_toList, eq_comm] using isSign
  have apart := signs.apart sign member
  exact ⟨apart ('\n', 'n') (by decide), apart ('\r', 'r') (by decide),
    apart ('\t', 't') (by decide)⟩

/-! ## Writing as a chain of passes -/

/-- A pass over the whole text that writes one character differently. -/
def pass (target : Char) (replacement text : List Char) : List Char :=
  text.flatMap fun c => if c = target then replacement else [c]

theorem pass_append (target : Char) (replacement left right : List Char) :
    pass target replacement (left ++ right) =
      pass target replacement left ++ pass target replacement right := by
  simp [pass]

/-- A pass leaves a text without its character alone. -/
theorem pass_of_not_mem {target : Char} {replacement text : List Char} (absent : target ∉ text) :
    pass target replacement text = text := by
  induction text with
  | nil => rfl
  | cons c rest ih =>
      simp only [List.mem_cons, not_or] at absent
      have different : ¬ c = target := fun same => absent.1 same.symm
      have tail : rest.flatMap (fun c => if c = target then replacement else [c]) = rest :=
        ih absent.2
      simp [pass, different, tail]

/-- The pass that puts the escape before a sign. -/
def guardPass (signs : Signs) (sign : Char) : List Char → List Char :=
  pass sign [signs.escape, sign]

/-- The passes that guard the signs: the escape first, then the quote, then the marker. -/
def signPasses (signs : Signs) (text : List Char) : List Char :=
  let guarded := signs.guardPass signs.quote (signs.guardPass signs.escape text)
  match signs.marker with
  | some m => signs.guardPass m guarded
  | none => guarded

/-- The passes that write the control characters with letters. -/
def controlPasses (signs : Signs) (text : List Char) : List Char :=
  pass '\t' [signs.escape, 't'] (pass '\r' [signs.escape, 'r'] (pass '\n' [signs.escape, 'n'] text))

theorem escapeText_eq_passes (signs : Signs) (text : String) :
    (signs.toSyntax.escapeText text).toList =
      signs.controlPasses (signs.signPasses text.toList) := by
  simp only [escapeText, toSyntax, guard, spellControl, controls, List.foldl_cons, List.foldl_nil,
    String.toList_singleton, String.toList_ofList, Text.replaceAll_singleton, List.singleton_append,
    controlPasses, signPasses, guardPass, pass]
  cases signs.marker with
  | none => rfl
  | some m => simp [Text.replaceAll_singleton]

theorem signPasses_append (signs : Signs) (left right : List Char) :
    signs.signPasses (left ++ right) = signs.signPasses left ++ signs.signPasses right := by
  unfold signPasses guardPass
  cases signs.marker <;> simp [pass_append]

theorem controlPasses_append (signs : Signs) (left right : List Char) :
    signs.controlPasses (left ++ right) =
      signs.controlPasses left ++ signs.controlPasses right := by
  simp [controlPasses, pass_append]

/-- A sign is guarded once: the passes after its own find neither it nor the escape. -/
theorem signPasses_sign {signs : Signs} {sign : Char} (isSign : signs.IsSign sign) :
    signs.signPasses [sign] = [signs.escape, sign] := by
  have quoted := signs.quote_ne_escape
  unfold signPasses guardPass
  cases marked : signs.marker with
  | none =>
      rcases isSign with rfl | rfl | isMarker
      · simp [pass, quoted]
      · simp [pass, quoted.symm]
      · rw [marked] at isMarker
        cases isMarker
  | some m =>
      obtain ⟨notQuote, notEscape⟩ := marker_ne marked
      rcases isSign with rfl | rfl | isMarker
      · simp [pass, quoted, notQuote.symm, notEscape.symm]
      · simp [pass, quoted.symm, notEscape.symm]
      · rw [marked] at isMarker
        cases isMarker
        simp [pass, notQuote, notEscape]

/-- A character that is no sign passes unchanged. -/
theorem signPasses_other {signs : Signs} {c : Char} (other : ¬ signs.IsSign c) :
    signs.signPasses [c] = [c] := by
  simp only [IsSign, not_or] at other
  obtain ⟨notQuote, notEscape, notMarker⟩ := other
  unfold signPasses guardPass
  cases marked : signs.marker with
  | none => simp [pass, notQuote, notEscape]
  | some m =>
      have different : c ≠ m := by
        intro same
        exact notMarker (by rw [marked, same])
      simp [pass, notQuote, notEscape, different]

/-- A guarded sign has no control character in it. -/
theorem controlPasses_sign {signs : Signs} {sign : Char} (isSign : signs.IsSign sign) :
    signs.controlPasses [signs.escape, sign] = [signs.escape, sign] := by
  have isEscape : signs.IsSign signs.escape := .inr (.inl rfl)
  have clear : ∀ c, (signs.escape ≠ c ∧ sign ≠ c) → c ∉ [signs.escape, sign] := by
    intro c different member
    simp only [List.mem_cons, List.not_mem_nil, or_false] at member
    rcases member with same | same
    · exact different.1 same.symm
    · exact different.2 same.symm
  have escape := isEscape.apart
  have guarded := isSign.apart
  rw [controlPasses, pass_of_not_mem (clear '\n' ⟨escape.1.1, guarded.1.1⟩),
    pass_of_not_mem (clear '\r' ⟨escape.2.1.1, guarded.2.1.1⟩),
    pass_of_not_mem (clear '\t' ⟨escape.2.2.1, guarded.2.2.1⟩)]

/-- The passes over a single character give its spelling. -/
theorem passes_singleton (signs : Signs) (c : Char) :
    signs.controlPasses (signs.signPasses [c]) = signs.spell c := by
  by_cases isSign : signs.IsSign c
  · rw [signPasses_sign isSign, controlPasses_sign isSign, spell, if_pos isSign]
  · have isEscape : signs.IsSign signs.escape := .inr (.inl rfl)
    obtain ⟨_, ⟨escapeNotCr, _⟩, escapeNotTab, _⟩ := isEscape.apart
    rw [signPasses_other isSign, spell, if_neg isSign]
    -- the escape written for one control character must survive the passes for those after it
    by_cases lf : c = '\n'
    · subst lf
      simp [controlPasses, pass, controls, escapeNotCr, escapeNotTab]
    by_cases cr : c = '\r'
    · subst cr
      have letter : controls.lookup '\r' = some 'r' := rfl
      simp [controlPasses, pass, letter, escapeNotTab]
    by_cases tab : c = '\t'
    · subst tab
      have letter : controls.lookup '\t' = some 't' := rfl
      simp [controlPasses, pass, letter]
    simp [controlPasses, pass, lf, cr, tab, lookup_controls lf cr tab]

/-- The text of a literal spells every character of the text it stands for. -/
theorem escapeText_toList (signs : Signs) (text : String) :
    (signs.toSyntax.escapeText text).toList = text.toList.flatMap signs.spell := by
  rw [escapeText_eq_passes]
  -- every pass goes over the characters one by one, so the chain of passes does so too
  induction text.toList with
  | nil => cases marked : signs.marker <;> simp [signPasses, guardPass, controlPasses, pass, marked]
  | cons c rest ih =>
      rw [← List.singleton_append, signPasses_append, controlPasses_append, passes_singleton, ih]
      rfl

/-! ## Reading back -/

/-- The quote ends a literal. -/
theorem readText_quote (signs : Signs) (source : List Char) :
    signs.readText (signs.quote :: source) = some ([], source) := by
  rw [readText.eq_def]
  exact if_pos rfl

/-- The escape and a character are read as what the character stands for. -/
theorem readText_escape (signs : Signs) (c : Char) (source : List Char) :
    signs.readText (signs.escape :: c :: source) =
      (signs.readText source).map fun (text, left) => (unescaped c :: text, left) := by
  rw [readText, if_neg signs.quote_ne_escape.symm, if_pos rfl]

/-- Any character but a sign and a line break is read as itself. -/
theorem readText_plain {signs : Signs} {c : Char} (other : ¬ signs.IsSign c) (lf : c ≠ '\n')
    (cr : c ≠ '\r') (source : List Char) :
    signs.readText (c :: source) =
      (signs.readText source).map fun (text, left) => (c :: text, left) := by
  simp only [IsSign, not_or] at other
  rw [readText.eq_def]
  simp [other, lf, cr]

/-- The reader undoes the spelling of one character. -/
theorem readText_spell (signs : Signs) (c : Char) (source : List Char) :
    signs.readText (signs.spell c ++ source) =
      (signs.readText source).map fun (text, left) => (c :: text, left) := by
  by_cases isSign : signs.IsSign c
  · obtain ⟨⟨_, notN⟩, ⟨_, notR⟩, _, notT⟩ := isSign.apart
    have itself : unescaped c = c := by simp [unescaped, notN, notR, notT]
    rw [spell, if_pos isSign]
    simpa [itself] using signs.readText_escape c source
  · rw [spell, if_neg isSign]
    by_cases lf : c = '\n'
    · subst lf
      exact signs.readText_escape 'n' source
    by_cases cr : c = '\r'
    · subst cr
      exact signs.readText_escape 'r' source
    by_cases tab : c = '\t'
    · subst tab
      exact signs.readText_escape 't' source
    rw [lookup_controls lf cr tab]
    exact readText_plain isSign lf cr source

/-- A literal spells its text between quotes. -/
theorem toList_literal (signs : Signs) (text : String) :
    (signs.toSyntax.literal text).toList =
      signs.quote :: (text.toList.flatMap signs.spell ++ [signs.quote]) := by
  rw [literal, String.toList_append, String.toList_append, signs.escapeText_toList]
  simp [toSyntax]

theorem readText_flatMap_spell (signs : Signs) (text source : List Char) :
    signs.readText (text.flatMap signs.spell ++ signs.quote :: source) = some (text, source) := by
  induction text with
  | nil => exact signs.readText_quote source
  | cons c rest ih =>
      rw [List.flatMap_cons, List.append_assoc, readText_spell, ih]
      rfl

end Signs

end LiteralSyntax

namespace Target.Language

/-- The signs of the literals of a language. -/
def signs : Language → LiteralSyntax.Signs
  | python =>
    { quote := '"', escape := '\\', marker := none
      distinct := by decide
      apart := by simp [LiteralSyntax.controls] }
  | kotlin =>
    { quote := '"', escape := '\\', marker := some '$'
      distinct := by decide
      apart := by simp [LiteralSyntax.controls] }

end Target.Language

/-- **Literals read back.** In every syntax with signs of one character, and so in every target
language, reading the literal of a text gives the text and leaves what follows the literal. -/
theorem read_literal :
    (∀ (signs : LiteralSyntax.Signs) (text source : String),
      signs.read (signs.toSyntax.literal text ++ source) = some (text, source)) ∧
    ∀ language : Target.Language, language.literals = language.signs.toSyntax := by
  constructor
  · intro signs text source
    have spelled : (signs.toSyntax.literal text ++ source).toList =
        signs.quote :: (text.toList.flatMap signs.spell ++ signs.quote :: source.toList) := by
      rw [LiteralSyntax.literal, String.toList_append, String.toList_append, String.toList_append,
        signs.escapeText_toList]
      simp [LiteralSyntax.Signs.toSyntax]
    rw [LiteralSyntax.Signs.read, spelled]
    simp [signs.readText_flatMap_spell]
  · intro language
    cases language <;> rfl

end SchemaCompiler
