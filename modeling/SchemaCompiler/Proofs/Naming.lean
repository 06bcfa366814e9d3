import SchemaCompiler.Proofs.Matching

/-!
# When a name is usable

A text has words exactly when it has a letter or digit. Type names and field names are made from
words that are not empty, so one of them is empty exactly when the other is. No name has other
characters than letters, digits and underscores.
-/

namespace SchemaCompiler.Naming

theorem capitalize_ne_nil {word : List Char} (nonempty : word ≠ []) : capitalize word ≠ [] := by
  cases word with
  | nil => exact absurd rfl nonempty
  | cons c rest => simp [capitalize]

theorem typeName_eq_empty_iff (text : String) : typeName text = "" ↔ words text.toList = [] := by
  have parts : ∀ word ∈ words text.toList, capitalize word ≠ [] :=
    fun word member => capitalize_ne_nil (ne_nil_of_mem_words member)
  rw [typeName, ← String.toList_eq_nil_iff, String.toList_ofList]
  cases found : words text.toList with
  | nil => simp
  | cons word rest =>
      have first := parts word (by simp [found])
      simp [first]

theorem fieldName_eq_empty_iff (text : String) : fieldName text = "" ↔ words text.toList = [] := by
  unfold fieldName
  cases found : words text.toList with
  | nil => simp
  | cons word rest =>
      have first : word ≠ [] := ne_nil_of_mem_words (by rw [found]; exact List.mem_cons_self)
      rw [← String.toList_eq_nil_iff, String.toList_ofList]
      simp [lower, first]

/-- A name that gives a field gives a type as well. -/
theorem typeName_ne_empty_of_fieldName {text : String} (usable : (fieldName text).isEmpty = false) :
    typeName text ≠ "" := by
  rw [Ne, typeName_eq_empty_iff, ← fieldName_eq_empty_iff]
  intro empty
  simp [empty] at usable

/-- The elements of an array always have a usable name. -/
theorem typeName_item_ne_empty (owner : String) : typeName (owner ++ "Item") ≠ "" := by
  rw [Ne, typeName_eq_empty_iff, words_eq_nil_iff]
  intro separators
  have letter := separators 'I' (by simp)
  exact absurd letter (by decide)

/-! ## The characters of names -/

/-- Texts of letters, digits and underscores. -/
def IsPlain (text : String) : Prop := ∀ c ∈ text.toList, c.isAlphanum = true ∨ c = '_'

/-- Letters are alphanumeric. -/
theorem isAlphanum_of_letter {c : Char} (letter : c.isUpper = true ∨ c.isLower = true) :
    c.isAlphanum = true := by
  show (c.isUpper || c.isLower || c.isDigit) = true
  rw [Bool.or_eq_true, Bool.or_eq_true]
  exact .inl letter

theorem toUpper_of_not_isLower {c : Char} (other : ¬c.isLower = true) : c.toUpper = c :=
  dif_neg (mt isLower_iff.mpr other)

theorem toLower_of_not_isUpper {c : Char} (other : ¬c.isUpper = true) : c.toLower = c :=
  dif_neg (mt isUpper_iff.mpr other)

theorem val_toUpper {c : Char} (small : c.isLower = true) :
    c.toUpper.val = c.val + ('A'.val - 'a'.val) := by
  rw [show c.toUpper = _ from dif_pos (isLower_iff.mp small)]

theorem val_toLower {c : Char} (capital : c.isUpper = true) :
    c.toLower.val = c.val + ('a'.val - 'A'.val) := by
  rw [show c.toLower = _ from dif_pos (isUpper_iff.mp capital)]

theorem isUpper_toUpper {c : Char} (small : c.isLower = true) : c.toUpper.isUpper = true := by
  have bounds := isLower_iff.mp small
  rw [isUpper_iff, val_toUpper small]
  grind

theorem isLower_toLower {c : Char} (capital : c.isUpper = true) : c.toLower.isLower = true := by
  have bounds := isUpper_iff.mp capital
  rw [isLower_iff, val_toLower capital]
  grind

theorem isAlphanum_toUpper {c : Char} (alphanumeric : c.isAlphanum = true) :
    c.toUpper.isAlphanum = true := by
  by_cases small : c.isLower = true
  · exact isAlphanum_of_letter (.inl (isUpper_toUpper small))
  · rwa [toUpper_of_not_isLower small]

theorem isAlphanum_toLower {c : Char} (alphanumeric : c.isAlphanum = true) :
    c.toLower.isAlphanum = true := by
  by_cases capital : c.isUpper = true
  · exact isAlphanum_of_letter (.inr (isLower_toLower capital))
  · rwa [toLower_of_not_isUpper capital]

theorem isLower_toUpper (c : Char) : c.toUpper.isLower = false := by
  by_cases small : c.isLower = true
  · exact not_isLower_of_isUpper (isUpper_toUpper small)
  · rwa [toUpper_of_not_isLower small, ← Bool.not_eq_true]

theorem isUpper_toLower (c : Char) : c.toLower.isUpper = false := by
  by_cases capital : c.isUpper = true
  · exact not_isUpper_of_isLower (isLower_toLower capital)
  · rwa [toLower_of_not_isUpper capital, ← Bool.not_eq_true]

theorem toUpper_toUpper (c : Char) : c.toUpper.toUpper = c.toUpper :=
  toUpper_of_not_isLower (Bool.eq_false_iff.mp (isLower_toUpper c))

theorem toLower_toLower (c : Char) : c.toLower.toLower = c.toLower :=
  toLower_of_not_isUpper (Bool.eq_false_iff.mp (isUpper_toLower c))

theorem toLower_toUpper (c : Char) : c.toUpper.toLower = c.toLower := by
  by_cases small : c.isLower = true
  · rw [toLower_of_not_isUpper (c := c) (by simp [not_isUpper_of_isLower small])]
    apply Char.ext
    rw [val_toLower (isUpper_toUpper small), val_toUpper small]
    grind
  · rw [toUpper_of_not_isLower small]

theorem isAlphanum_of_mem_capitalize {word : List Char}
    (letters : ∀ c ∈ word, c.isAlphanum = true) :
    ∀ c ∈ capitalize word, c.isAlphanum = true := by
  cases word with
  | nil => simp [capitalize]
  | cons first rest =>
      rw [List.forall_mem_cons] at letters
      exact List.forall_mem_cons.mpr ⟨isAlphanum_toUpper letters.1, letters.2⟩

theorem isAlphanum_of_mem_flatMap_capitalize {pieces : List (List Char)}
    (letters : ∀ word ∈ pieces, ∀ c ∈ word, c.isAlphanum = true) :
    ∀ c ∈ pieces.flatMap capitalize, c.isAlphanum = true := by
  intro c member
  obtain ⟨word, isWord, here⟩ := List.mem_flatMap.mp member
  exact isAlphanum_of_mem_capitalize (letters word isWord) c here

theorem mem_intercalate {α : Type} {separator : List α} {pieces : List (List α)} {item : α}
    (member : item ∈ separator.intercalate pieces) :
    item ∈ separator ∨ ∃ piece ∈ pieces, item ∈ piece := by
  induction pieces with
  | nil => simp at member
  | cons first rest ih =>
      cases rest with
      | nil => exact .inr ⟨first, by simp, by simpa using member⟩
      | cons second others =>
          rw [List.intercalate_cons_cons, List.mem_append, List.mem_append] at member
          rcases member with (inFirst | inSeparator) | later
          · exact .inr ⟨first, by simp, inFirst⟩
          · exact .inl inSeparator
          · rcases ih later with inSeparator | ⟨piece, isPiece, here⟩
            · exact .inl inSeparator
            · exact .inr ⟨piece, by simp [isPiece], here⟩

theorem isAlphanum_of_mem_typeName (text : String) :
    ∀ c ∈ (typeName text).toList, c.isAlphanum = true := by
  intro c member
  rw [typeName, String.toList_ofList] at member
  exact isAlphanum_of_mem_flatMap_capitalize (fun word => isAlphanum_of_mem_words) c member

theorem typeName_plain (text : String) : IsPlain (typeName text) :=
  fun c member => .inl (isAlphanum_of_mem_typeName text c member)

theorem isAlphanum_of_mem_fieldName (text : String) :
    ∀ c ∈ (fieldName text).toList, c.isAlphanum = true := by
  intro c member
  have letters : ∀ word ∈ words text.toList, ∀ c ∈ word, c.isAlphanum = true :=
    fun word => isAlphanum_of_mem_words
  unfold fieldName at member
  cases found : words text.toList with
  | nil => simp [found] at member
  | cons first rest =>
      rw [found, List.forall_mem_cons] at letters
      simp only [found, String.toList_ofList] at member
      rcases List.mem_append.mp member with inFirst | inRest
      · obtain ⟨d, isFirst, rfl⟩ := List.mem_map.mp inFirst
        exact isAlphanum_toLower (letters.1 d isFirst)
      · exact isAlphanum_of_mem_flatMap_capitalize letters.2 c inRest

theorem fieldName_plain (text : String) : IsPlain (fieldName text) :=
  fun c member => .inl (isAlphanum_of_mem_fieldName text c member)

theorem moduleName_plain (text : String) : IsPlain (moduleName text) := by
  intro c member
  rw [moduleName, String.toList_ofList] at member
  rcases mem_intercalate member with separator | ⟨piece, isPiece, here⟩
  · exact .inr (List.mem_singleton.mp separator)
  · obtain ⟨word, isWord, rfl⟩ := List.mem_map.mp isPiece
    obtain ⟨d, isLetter, rfl⟩ := List.mem_map.mp here
    exact .inl (isAlphanum_toLower (isAlphanum_of_mem_words isWord d isLetter))

/-- Constants have no small letters. -/
theorem enumConstant_plain (text : String) :
    IsPlain (enumConstant text) ∧ ∀ c ∈ (enumConstant text).toList, c.isLower = false := by
  have capitals : ∀ c ∈ upper (joinUnderscore (segments text.toList)),
      (c.isAlphanum = true ∨ c = '_') ∧ c.isLower = false := by
    intro c member
    obtain ⟨d, isJoined, rfl⟩ := List.mem_map.mp member
    refine ⟨?_, isLower_toUpper d⟩
    rcases mem_intercalate isJoined with separator | ⟨piece, isPiece, here⟩
    · rw [List.mem_singleton.mp separator]
      exact .inr rfl
    · exact .inl (isAlphanum_toUpper (isAlphanum_of_mem_parts isPiece d here))
  have both : ∀ c ∈ (enumConstant text).toList, (c.isAlphanum = true ∨ c = '_') ∧
      c.isLower = false := by
    intro c member
    rw [enumConstant_eq, String.toList_ofList] at member
    cases found : upper (joinUnderscore (segments text.toList)) with
    | nil => simp [found, markDigit] at member
    | cons first rest =>
        rw [found] at capitals
        rw [found, markDigit] at member
        split at member
        · rcases List.mem_cons.mp member with rfl | later
          · exact ⟨.inr rfl, by decide⟩
          · exact capitals c later
        · exact capitals c member
  exact ⟨fun c member => (both c member).1, fun c member => (both c member).2⟩

end SchemaCompiler.Naming
