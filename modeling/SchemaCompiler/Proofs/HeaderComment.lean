import SchemaCompiler.Proofs.ImportListing

/-!
# Comments stay in the header

The comment of a unit holds text that the schema's author does not write, such as the name of a
file. It is cut into lines by every character that ends a line anywhere, so no line of the header
has an end inside, and each starts as a comment of the target language (`splitOn_header`). Behind
the header stands what the unit would be without one, and the checks that units go through do not
look at it (`generate_under_header`).
-/

namespace SchemaCompiler.Target

open Schema (NamedType TypeGraph bind_eq_ok map_map)

/-- The unit of a type with a header before its text. Shared units have a header of their own. -/
def OutputUnit.under (header : String) (unit : OutputUnit) : OutputUnit :=
  if unit.shared then unit else { unit with body := header ++ unit.body }

@[simp] theorem OutputUnit.name_under (header : String) (unit : OutputUnit) :
    (unit.under header).name = unit.name := by
  unfold under
  split <;> rfl

/-! ## The units under a header -/

section Under

variable (style : Style) (graph : TypeGraph) (comment : String)

theorem header_eq_empty_iff :
    style.header comment = "" ↔ comment = "" ∨ style.comments = false := by
  rw [Style.header]
  split
  next off => simpa using off
  next on =>
    have written : ¬(comment = "" ∨ style.comments = false) := by simpa using on
    simp [written]

theorem unitIn_under (orders : NamedType → UnitOrder) (type : NamedType) :
    unitIn orders style graph comment type =
      (unitIn orders style graph "" type).map (.under (style.header comment)) := by
  have bare : style.header "" = "" := (header_eq_empty_iff style "").mpr (.inl rfl)
  simp only [unitIn, renderTypeIn, map_map, bare, OutputUnit.under, String.empty_append,
    Bool.false_eq_true, if_false]

theorem map_under_shared {shared : List OutputUnit} (made : sharedIn style graph = .ok shared)
    (header : String) :
    shared.map (.under header) = shared := by
  refine (List.map_congr_left fun unit member => ?_).trans shared.map_id
  unfold sharedIn at made
  split at made
  · obtain ⟨_, _, made⟩ := bind_eq_ok made
    obtain ⟨validation, _, made⟩ := bind_eq_ok made
    obtain ⟨marker, _, made⟩ := bind_eq_ok made
    cases made
    rcases List.mem_pair.mp member with rfl | rfl <;> rfl
  · cases made
    cases member

/-- Units are refused by their names, whatever header they have. -/
theorem withShared_under (units : List OutputUnit) (header : String) :
    withShared style graph (units.map (.under header)) =
      (withShared style graph units).map (List.map (.under header)) := by
  unfold withShared
  cases made : sharedIn style graph with
  | error failure => rfl
  | ok shared =>
      have together : units.map (.under header) ++ shared =
          (units ++ shared).map (.under header) := by
        rw [List.map_append, map_under_shared style graph made]
      have checked : checkFiles style.language [] ((units ++ shared).map (.under header)) =
          checkFiles style.language [] (units ++ shared) :=
          checkFiles_congr (by simp [Function.comp_def])
      show (checkFiles _ _ _ >>= fun _ => Except.ok _) =
        (checkFiles _ _ _ >>= fun _ => Except.ok _).map _
      rw [together, checked]
      cases checkFiles style.language [] (units ++ shared) <;> rfl

/-- Generating with a comment puts a header before the unit of each type, and changes nothing
else. -/
theorem generate_under_header : generate style graph comment =
    (generate style graph "").map (List.map (.under (style.header comment))) := by
  let order : NamedType → UnitOrder := fun _ => Python.writtenOrder
  have ofTypes : graph.types.mapM (unitIn order style graph comment) =
      (graph.types.mapM (unitIn order style graph "")).map
        (List.map (.under (style.header comment))) := by
    have looked : (graph.types.mapM (unitIn order style graph comment)).map (List.map id) =
        (graph.types.mapM (unitIn order style graph "")).map
          (List.map (.under (style.header comment))) := by
      refine mapM_map_congr fun type => ?_
      rw [unitIn_under, map_map]
      rfl
    rw [← looked, List.map_id_fun]
    cases graph.types.mapM (unitIn order style graph comment) <;> rfl
  rw [generate_eq_generateIn, generate_eq_generateIn, generateIn, generateIn, ofTypes]
  cases graph.types.mapM (unitIn order style graph "") with
  | error failure => rfl
  | ok units => exact withShared_under style graph units _

/-- The lines of a header are comments with the text of the comment, up to an empty one. -/
theorem splitOn_header (written : style.header comment ≠ "") :
    (style.header comment).toList.splitOn '\n' =
      (Text.linesFrom [] comment.toList).map (style.language.commentStart.toList ++ ' ' :: ·) ++
        [[], []] := by
  have single : ∀ line ∈ headerLines style comment, SingleLine line :=
    fun line member => (headerLines_cases member).1
  rw [Ne, header_eq_empty_iff] at written
  rw [header_eq, splitOn_unlines single, headerLines, if_neg (by simpa using written), Text.lines]
  simp [Function.comp_def]

end Under

/-- **A comment does not leave its header.** The units under a comment are the units without one,
with a header before the text of each type. The header is empty if the comment is, or comments are
turned off. Otherwise its lines start as comments of the language and show, between them, the
characters of the comment that end no line; the last line is empty. There are no carriage
returns. -/
theorem comment_stays_in_header (style : Style) (graph : TypeGraph) (comment : String) :
    generate style graph comment =
      (generate style graph "").map (List.map (.under (style.header comment))) ∧
    '\r' ∉ (style.header comment).toList ∧
    (style.header comment = "" ↔ comment = "" ∨ style.comments = false) ∧
    ∃ texts : List (List Char), texts.flatten = comment.toList.filter (!Text.isLineEnd ·) ∧
      (style.header comment).toList.splitOn '\n' =
        if style.header comment = "" then [[]]
        else texts.map (style.language.commentStart.toList ++ ' ' :: ·) ++ [[], []] := by
  refine ⟨generate_under_header style graph comment, ?_, header_eq_empty_iff style comment,
    Text.linesFrom [] comment.toList, flatten_linesFrom [] comment.toList, ?_⟩
  · rw [header_eq]
    exact return_not_mem_unlines fun line member => (headerLines_cases member).1
  · split
    next empty => simp [empty]
    next written => exact splitOn_header style comment written

end SchemaCompiler.Target
