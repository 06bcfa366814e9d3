import Mathlib.Data.List.Forall2
import SchemaCompiler.Proofs.Shape

/-!
# The constants of enumerations

The constant of a value is a normal form. It is made of the runs of letters and digits of the value,
which are what the other characters leave when they cut the text (`runs`), and the runs of a
constant are its segments again, so that making a constant of a constant changes nothing. The values
of an enumeration are read one after the other against those before; a list is read exactly when
every value has a text, every text has a letter or digit, and no two texts share a constant.
-/

namespace SchemaCompiler.Naming

/-- What is left of a text when every character but letters and digits cuts it. -/
def runs (text : List Char) : List (List Char) :=
  (text.splitOnP (!·.isAlphanum)).filter (!·.isEmpty)

/-- The segments that constants are made of. -/
def IsSegment (piece : List Char) : Prop :=
  piece ≠ [] ∧ ∀ c ∈ piece, c.isUpper = true ∨ c.isDigit = true

/-- The underscore before segments of which the first starts with a digit. -/
def mark (pieces : List (List Char)) : List Char :=
  if pieces.head?.any fun first => first.head?.any Char.isDigit then ['_'] else []

/-! ## Runs -/

theorem runs_append_cons (before after : List Char) {c : Char} (cuts : c.isAlphanum = false) :
    runs (before ++ c :: after) = runs before ++ runs after := by
  unfold runs
  rw [List.splitOnP_append_cons before after (by simp [cuts]), List.filter_append]

theorem runs_cons {c : Char} (cuts : c.isAlphanum = false) (rest : List Char) :
    runs (c :: rest) = runs rest :=
  runs_append_cons [] rest cuts

theorem runs_eq_singleton {piece : List Char} (nonempty : piece ≠ [])
    (letters : ∀ c ∈ piece, c.isAlphanum = true) : runs piece = [piece] := by
  unfold runs
  rw [List.splitOnP_eq_singleton (fun c member => by simp [letters c member])]
  simp [nonempty]

/-- A letter or digit before another goes with it; before anything else it is a run of its own. -/
theorem runs_letter_cons {c : Char} (letter : c.isAlphanum = true) (rest : List Char) :
    runs (c :: rest) = if sameSegment c rest then prepend c (runs rest) else [c] :: runs rest := by
  cases rest with
  | nil => exact runs_eq_singleton (by simp) (by simpa using letter)
  | cons d after =>
      by_cases next : d.isAlphanum = true
      · simp only [sameSegment, next, if_true]
        unfold runs
        cases pieces : after.splitOnP (!·.isAlphanum) with
        | nil => exact absurd pieces (List.splitOnP_ne_nil _ _)
        | cons first others =>
            simp [List.splitOnP_cons_eq_if_modifyHead, letter, next, pieces, prepend]
      · rw [Bool.not_eq_true] at next
        simp only [sameSegment, next, Bool.false_eq_true, if_false]
        have alone : runs [c] = [[c]] := runs_eq_singleton (by simp) (by simpa using letter)
        rw [show c :: d :: after = [c] ++ d :: after from rfl, runs_append_cons _ _ next, alone,
          runs_cons next]
        rfl

theorem segments_eq_runs (text : List Char) : segments text = runs text := by
  unfold segments
  induction text with
  | nil => rfl
  | cons c rest ih =>
      by_cases letter : c.isAlphanum = true
      · rw [parts, if_pos letter, ih, runs_letter_cons letter]
      · rw [parts, if_neg letter, ih, runs_cons (by simpa using letter)]

/-! ## Constants -/

theorem upper_upper (text : List Char) : upper (upper text) = upper text := by
  rw [upper, upper, List.map_map]
  exact List.map_congr_left fun c _ => toUpper_toUpper c

theorem upper_joinUnderscore (pieces : List (List Char)) :
    upper (joinUnderscore pieces) = joinUnderscore (pieces.map upper) := by
  unfold joinUnderscore
  induction pieces with
  | nil => rfl
  | cons first rest ih =>
      cases rest with
      | nil => simp
      | cons second others =>
          have underscore : ['_'].map Char.toUpper = ['_'] := by decide
          rw [List.intercalate_cons_cons, List.map_cons, List.map_cons, List.intercalate_cons_cons,
            ← List.map_cons, ← ih, upper, List.map_append, List.map_append, underscore]
          rfl

theorem isSegment_upper {piece : List Char} (nonempty : piece ≠ [])
    (letters : ∀ c ∈ piece, c.isAlphanum = true) : IsSegment (upper piece) := by
  refine ⟨by simpa [upper] using nonempty, ?_⟩
  intro c member
  obtain ⟨d, isLetter, rfl⟩ := List.mem_map.mp member
  have letter : (d.toUpper.isUpper || d.toUpper.isLower || d.toUpper.isDigit) = true :=
    isAlphanum_toUpper (letters d isLetter)
  simpa [isLower_toUpper] using letter

/-- The segments of a value's constant. -/
def constantSegments (text : String) : List (List Char) := (runs text.toList).map upper

theorem isSegment_of_mem {text : String} {piece : List Char}
    (member : piece ∈ constantSegments text) :
    IsSegment piece := by
  unfold constantSegments at member
  obtain ⟨run, isRun, rfl⟩ := List.mem_map.mp member
  rw [← segments_eq_runs] at isRun
  exact isSegment_upper (ne_nil_of_mem_parts isRun) (isAlphanum_of_mem_parts isRun)

theorem toList_enumConstant (text : String) :
    (enumConstant text).toList =
      mark (constantSegments text) ++ joinUnderscore (constantSegments text) := by
  have joined : upper (joinUnderscore (segments text.toList)) =
      joinUnderscore (constantSegments text) := by
    rw [upper_joinUnderscore, segments_eq_runs]
    rfl
  have segment : ∀ piece ∈ constantSegments text, IsSegment piece := fun _ => isSegment_of_mem
  rw [enumConstant_eq, joined, String.toList_ofList]
  cases pieces : constantSegments text with
  | nil => rfl
  | cons first rest =>
      rw [pieces] at segment
      -- the first character of a constant is that of its first segment
      obtain ⟨c, more, rfl⟩ := List.exists_cons_of_ne_nil (segment first (by simp)).1
      have start : ∃ tail, joinUnderscore ((c :: more) :: rest) = c :: tail := by
        cases rest <;> simp [joinUnderscore, List.intercalate_cons_cons]
      obtain ⟨tail, start⟩ := start
      rw [start]
      by_cases digit : c.isDigit = true <;> simp [mark, markDigit, digit]

theorem runs_joinUnderscore {pieces : List (List Char)}
    (segment : ∀ piece ∈ pieces, IsSegment piece) :
    runs (joinUnderscore pieces) = pieces := by
  have alone {piece : List Char} (isSegment : IsSegment piece) : runs piece = [piece] := by
    refine runs_eq_singleton isSegment.1 fun c member => ?_
    show (c.isUpper || c.isLower || c.isDigit) = true
    rcases isSegment.2 c member with capital | digit
    · simp [capital]
    · simp [digit]
  induction pieces with
  | nil => rfl
  | cons first rest ih =>
      rw [List.forall_mem_cons] at segment
      cases rest with
      | nil => simpa [joinUnderscore] using alone segment.1
      | cons second others =>
          rw [joinUnderscore_cons_cons, runs_append_cons _ _ (by decide), alone segment.1,
            ih segment.2]
          rfl

/-- The segments of a constant are those it was made of. -/
theorem constantSegments_enumConstant (text : String) :
    constantSegments (enumConstant text) = constantSegments text := by
  have segment : ∀ piece ∈ constantSegments text, IsSegment piece := fun _ => isSegment_of_mem
  have found : runs (enumConstant text).toList = constantSegments text := by
    rw [toList_enumConstant, mark]
    split
    · rw [List.cons_append, List.nil_append, runs_cons (by decide), runs_joinUnderscore segment]
    · rw [List.nil_append, runs_joinUnderscore segment]
  rw [constantSegments, found, constantSegments, List.map_map]
  exact List.map_congr_left fun run _ => upper_upper run

theorem enumConstant_enumConstant (text : String) :
    enumConstant (enumConstant text) = enumConstant text := by
  rw [← String.toList_inj, toList_enumConstant, toList_enumConstant text,
    constantSegments_enumConstant]

theorem enumConstant_eq_empty_iff (text : String) :
    enumConstant text = "" ↔ ∀ c ∈ text.toList, c.isAlphanum = false := by
  rw [← parts_eq_nil_iff sameSegment, ← segments, ← String.toList_eq_nil_iff, toList_enumConstant,
    segments_eq_runs]
  have segment : ∀ piece ∈ constantSegments text, IsSegment piece := fun _ => isSegment_of_mem
  cases found : runs text.toList with
  | nil => simp [constantSegments, found, mark, joinUnderscore]
  | cons run rest =>
      have nonempty := (segment (upper run) (by simp [constantSegments, found])).1
      cases rest <;>
        simp [constantSegments, found, joinUnderscore, List.intercalate_cons_cons, nonempty]

end SchemaCompiler.Naming

namespace SchemaCompiler.Schema

open Document (Node Entries Scalar)

/-- An enumeration value: a scalar that is not null, with the text it is written as. -/
def IsValue (node : Node) (text : String) : Prop :=
  ∃ line value, node = .scalar line value ∧ value ≠ .null ∧ value.plain? = some text

/-- One value is read when it has a text whose constant is usable and new. -/
theorem enumConstants_cons {declaration : String} {seen : List (String × Scalar)} {node : Node}
    {rest : List Node} {values : List String} :
    enumConstants declaration seen (node :: rest) = .ok values ↔
      ∃ line value text others, node = .scalar line value ∧ value ≠ .null ∧
        value.plain? = some text ∧
        Naming.enumConstant text ≠ "" ∧ seen.lookup (Naming.enumConstant text) = none ∧
        enumConstants declaration (seen ++ [(Naming.enumConstant text, value)]) rest = .ok others ∧
        values = Naming.enumConstant text :: others := by
  constructor
  · intro read
    cases node with
    | absent | sequence | mapping =>
        simp only [enumConstants] at read
        exact absurd read failAt_ne_ok
    | scalar line value =>
        rw [enumConstants] at read
        split at read
        · exact absurd read fail_ne_ok
        next notNull =>
        split at read
        · cases read
        next text isText =>
        dsimp only at read
        split at read
        · obtain ⟨shown, _, read⟩ := bind_eq_ok read
          exact absurd read fail_ne_ok
        next usable =>
        split at read
        · obtain ⟨other, _, read⟩ := bind_eq_ok read
          obtain ⟨shown, _, read⟩ := bind_eq_ok read
          exact absurd read fail_ne_ok
        next new =>
        obtain ⟨others, readOthers, read⟩ := bind_eq_ok read
        cases read
        exact ⟨line, value, text, others,
          rfl, by simpa using notNull, isText, by simpa using usable, new,
          readOthers, rfl⟩
  · rintro ⟨line, value, text, others, rfl, notNull, isText, usable, new, readOthers, rfl⟩
    rw [enumConstants]
    simp only [beq_iff_eq, notNull, if_false, isText, String.isEmpty_iff, usable, new, readOthers]
    rfl

/-- A list of values is read exactly when their constants are usable, new and different from each
other. -/
theorem enumConstants_eq_ok_iff {declaration : String} {seen : List (String × Scalar)}
    {nodes : List Node} {values : List String} :
    enumConstants declaration seen nodes = .ok values ↔
      (∃ texts, List.Forall₂ IsValue nodes texts ∧ values = texts.map Naming.enumConstant) ∧
      (∀ value ∈ values, value ≠ "" ∧ seen.lookup value = none) ∧ values.Nodup := by
  induction nodes generalizing seen values with
  | nil =>
      constructor
      · rintro ⟨⟩
        exact ⟨⟨[], .nil, rfl⟩, by simp, .nil⟩
      · rintro ⟨⟨_, ⟨⟩, rfl⟩, _⟩
        rfl
  | cons node rest ih =>
      -- what was seen before a later value is what was seen before, and the constants in between
      have later (constant : String) (value : Scalar) (other : String) :
          (seen ++ [(constant, value)]).lookup other = none ↔
            seen.lookup other = none ∧ other ≠ constant := by
        have own : [(constant, value)].lookup other = none ↔ other ≠ constant := by
          rw [List.lookup_eq_none_iff]
          simp
        rw [List.lookup_append, Option.or_eq_none_iff, own]
      rw [enumConstants_cons]
      constructor
      · rintro ⟨line, value, text, others, rfl, notNull, isText, usable, new, readOthers, rfl⟩
        obtain ⟨⟨texts, areTexts, rfl⟩, news, distinct⟩ := ih.mp readOthers
        refine ⟨⟨text :: texts, .cons ⟨line, value, rfl, notNull, isText⟩ areTexts, rfl⟩, ?_, ?_⟩
        · refine List.forall_mem_cons.mpr ⟨⟨usable, new⟩, fun other member => ?_⟩
          exact ⟨(news other member).1, ((later _ _ _).mp (news other member).2).1⟩
        · refine List.nodup_cons.mpr ⟨fun member => ?_, distinct⟩
          exact ((later _ _ _).mp (news _ member).2).2 rfl
      · rintro ⟨⟨_, areTexts, rfl⟩, news, distinct⟩
        cases areTexts with
        | @cons _ text _ texts isValue areTexts =>
            obtain ⟨line, value, rfl, notNull, isText⟩ := isValue
            obtain ⟨first, news⟩ := List.forall_mem_cons.mp news
            obtain ⟨absent, distinct⟩ := List.nodup_cons.mp distinct
            refine ⟨line, value, text, _, rfl, notNull, isText, first.1, first.2, ih.mpr ?_, rfl⟩
            refine ⟨⟨texts, areTexts, rfl⟩, fun other member =>
              ⟨(news other member).1, ?_⟩, distinct⟩
            refine (later _ _ _).mpr ⟨(news other member).2, ?_⟩
            rintro rfl
            exact absent member

theorem resolveEnum_eq_ok_iff {declaration : String} {line : Int} {entries : Entries}
    {values : List String} :
    resolveEnum declaration line entries = .ok values ↔
      ∃ valuesLine items, entries.get? "enum" = some (.sequence valuesLine items) ∧ items ≠ [] ∧
        enumConstants declaration [] items = .ok values := by
  constructor
  · intro read
    unfold resolveEnum at read
    split at read
    · exact absurd read fail_ne_ok
    next valuesLine items nonempty found =>
      exact ⟨valuesLine, items, found, nonempty, read⟩
    · exact absurd read fail_ne_ok
    · exact absurd read fail_ne_ok
  · rintro ⟨valuesLine, items, found, nonempty, read⟩
    obtain ⟨first, rest, rfl⟩ := List.exists_cons_of_ne_nil nonempty
    unfold resolveEnum
    rw [found]
    exact read

/-- **Enumerations.** An enumeration is read exactly when its values are a list that is not empty,
of scalars that are not null and have a text, and the constants of these texts are not empty and all
different; they are then what is read, in order. A constant is a normal form: its own constant,
empty exactly for a text without letters and digits, and otherwise the runs of letters and digits of
the text as capitals, joined by single underscores, behind one more underscore exactly if a digit
comes first. -/
theorem enumeration_reads_distinct_constants :
    (∀ declaration line entries values, resolveEnum declaration line entries = .ok values ↔
      ∃ valuesLine items texts, entries.get? "enum" = some (.sequence valuesLine items) ∧
        items ≠ [] ∧
        List.Forall₂ IsValue items texts ∧ values = texts.map Naming.enumConstant ∧
        (∀ value ∈ values, value ≠ "") ∧ values.Nodup) ∧
    ∀ text, Naming.enumConstant (Naming.enumConstant text) = Naming.enumConstant text ∧
      (Naming.enumConstant text = "" ↔ ∀ c ∈ text.toList, c.isAlphanum = false) ∧
      ∃ pieces, pieces = (Naming.runs text.toList).map Naming.upper ∧
        (∀ piece ∈ pieces, Naming.IsSegment piece) ∧
        (Naming.enumConstant text).toList = Naming.mark pieces ++ ['_'].intercalate pieces := by
  refine ⟨fun declaration line entries values => ?_, fun text =>
    ⟨Naming.enumConstant_enumConstant text,
    Naming.enumConstant_eq_empty_iff text, Naming.constantSegments text, rfl, fun _ =>
      Naming.isSegment_of_mem,
    Naming.toList_enumConstant text⟩⟩
  rw [resolveEnum_eq_ok_iff]
  constructor
  · rintro ⟨valuesLine, items, found, nonempty, read⟩
    obtain ⟨⟨texts, areTexts, made⟩, usable, distinct⟩ := enumConstants_eq_ok_iff.mp read
    exact ⟨valuesLine, items, texts, found, nonempty, areTexts, made, fun value member =>
      (usable value member).1,
      distinct⟩
  · rintro ⟨valuesLine, items, texts, found, nonempty, areTexts, made, usable, distinct⟩
    refine ⟨valuesLine, items, found, nonempty, enumConstants_eq_ok_iff.mpr ?_⟩
    exact ⟨⟨texts, areTexts, made⟩, fun value member => ⟨usable value member, rfl⟩, distinct⟩

end SchemaCompiler.Schema
