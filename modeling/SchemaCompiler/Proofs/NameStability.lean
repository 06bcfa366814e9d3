import SchemaCompiler.Proofs.EnumConstant
import SchemaCompiler.Proofs.ModuleName

/-!
# Names of names

Joining words makes new neighbours, and a name is cut again at other places than the text it was
made from: `a b` is the type `AB`, which is one word. But a type name can be spelled without cutting
the text into words, since all that matters is whether the character before is a letter
(`flatMap_capitalize`), and what is spelled once is spelled the same again (`spell_spell`). The
first word of a field name is in small letters or digits, and so are the words of a module name,
which the underscores keep apart.
-/

namespace SchemaCompiler.Naming

/-! ## Spelling -/

/-- A text without separators, and with capitals where no letter stands before, given whether one
does at the start. -/
def spell (behindLetter : Bool) : List Char → List Char
  | [] => []
  | c :: rest =>
    if c.isAlphanum then (if behindLetter then c else c.toUpper) :: spell (!c.isDigit) rest
      else spell false rest

/-- Behind a digit, no small letter belongs to the same word. -/
theorem toUpper_of_sameWord {c d : Char} {after : List Char}
    (joined : sameWord c (d :: after) = true) (digit : c.isDigit = true) : d.toUpper = d := by
  refine toUpper_of_not_isLower fun small => ?_
  simp only [sameWord, Bool.or_eq_true, Bool.and_eq_true] at joined
  grind [not_isDigit_of_isLower, not_isDigit_of_isUpper]

/-- Behind a letter, every small letter belongs to the same word. -/
theorem toUpper_of_not_sameWord {c d : Char} {after : List Char} (letter : c.isAlphanum = true)
    (noDigit : c.isDigit = false) (apart : ¬sameWord c (d :: after) = true) : d.toUpper = d := by
  refine toUpper_of_not_isLower fun small => apart ?_
  have isLetter : (c.isUpper || c.isLower || c.isDigit) = true := letter
  rw [noDigit, Bool.or_false, Bool.or_eq_true] at isLetter
  rcases isLetter with capital | isSmall
  · simp [sameWord, small, capital]
  · simp [sameWord, small, isSmall]

/-- The words of a text with capitals are how it is spelled. -/
theorem flatMap_capitalize (text : List Char) :
    (words text).flatMap capitalize = spell false text := by
  induction text with
  | nil => rfl
  | cons c rest ih =>
      rw [words_cons, spell]
      split
      next letter =>
        split
        next joined =>
          cases rest with
          | nil => simp [sameWord] at joined
          | cons d after =>
              have next := isAlphanum_of_sameWord joined
              obtain ⟨tail, others, cut, _⟩ := exists_words_cons next after
              have kept : (if !c.isDigit then d else d.toUpper) = d := by
                cases digit : c.isDigit with
                | false => rfl
                | true => exact toUpper_of_sameWord joined digit
              rw [cut, spell, if_pos next] at ih
              rw [cut, spell, if_pos next, kept, ← (List.cons.inj ih).2]
              rfl
        next apart =>
          have unmarked : spell (!c.isDigit) rest = spell false rest := by
            cases digit : c.isDigit with
            | true => rfl
            | false =>
                cases rest with
                | nil => rfl
                | cons d after =>
                    rw [spell, spell, toUpper_of_not_sameWord letter digit apart]
                    rfl
          rw [unmarked, ← ih]
          rfl
      · exact ih

theorem spell_spell {inner outer : Bool} (behind : inner = true → outer = true) (text : List Char) :
    spell outer (spell inner text) = spell inner text := by
  induction text generalizing inner outer with
  | nil => rfl
  | cons c rest ih =>
      rw [spell]
      split
      next letter =>
        have same : (if inner then c else c.toUpper).isAlphanum = true ∧
            (if inner then c else c.toUpper).isDigit = c.isDigit ∧
            (if outer then (if inner then c else c.toUpper)
              else (if inner then c else c.toUpper).toUpper) =
              if inner then c else c.toUpper := by
          cases inner with
          | false =>
              refine ⟨isAlphanum_toUpper letter, isDigit_toUpper c, ?_⟩
              cases outer with
              | false => exact toUpper_toUpper c
              | true => rfl
          | true => exact ⟨letter, rfl, by rw [behind rfl]; rfl⟩
        rw [spell, if_pos same.1, same.2.1, same.2.2, ih id]
      · exact ih (by simp)

theorem spell_append (behindLetter : Bool) (left right : List Char) :
    ∃ between, spell behindLetter (left ++ right) =
      spell behindLetter left ++ spell between right := by
  induction left generalizing behindLetter with
  | nil => exact ⟨behindLetter, rfl⟩
  | cons c rest ih =>
      rw [List.cons_append, spell, spell]
      split
      · obtain ⟨between, same⟩ := ih (!c.isDigit)
        exact ⟨between, by rw [same, List.cons_append]⟩
      · exact ih false

theorem spell_of_digits {text : List Char} (digits : ∀ c ∈ text, c.isDigit = true)
    (behindLetter : Bool) :
    spell behindLetter text = text := by
  induction text generalizing behindLetter with
  | nil => rfl
  | cons c rest ih =>
      rw [List.forall_mem_cons] at digits
      have kept : c.toUpper = c := by
        refine toUpper_of_not_isLower fun small => ?_
        rw [not_isDigit_of_isLower small] at digits
        cases digits.1
      rw [spell, if_pos (by simp [Char.isAlphanum, digits.1]), kept, ite_self, ih digits.2]

theorem spell_of_small {text : List Char} (small : ∀ c ∈ text, c.isLower = true) :
    spell true text = text := by
  induction text with
  | nil => rfl
  | cons c rest ih =>
      rw [List.forall_mem_cons] at small
      rw [spell, if_pos (isAlphanum_of_letter (.inr small.1)), not_isDigit_of_isLower small.1]
      exact congrArg (c :: ·) (ih small.2)

/-! ## Type names -/

theorem typeName_eq (text : String) : typeName text = String.ofList (spell false text.toList) := by
  rw [typeName, flatMap_capitalize]

theorem typeName_typeName (text : String) : typeName (typeName text) = typeName text := by
  rw [typeName_eq, typeName_eq text, String.toList_ofList, spell_spell id]

theorem typeName_append {suffix : String}
    (same : ∀ behindLetter, spell behindLetter suffix.toList = suffix.toList) (text : String) :
    typeName (typeName text ++ suffix) = typeName text ++ suffix := by
  obtain ⟨between, spelled⟩ := spell_append false (typeName text).toList suffix.toList
  have own : spell false (typeName text).toList = (typeName text).toList := by
    rw [typeName_eq, String.toList_ofList, spell_spell id]
  rw [typeName_eq, String.toList_append, spelled, own, same, ← String.toList_append,
    String.ofList_toList]

/-! ## Words in small letters -/

theorem lower_lower (text : List Char) : lower (lower text) = lower text := by
  rw [lower, lower, List.map_map]
  exact List.map_congr_left fun c _ => toLower_toLower c

/-- A word in small letters consists of digits or of small letters. -/
theorem lower_cases {word : List Char} (isWord : IsWord word) :
    (∀ c ∈ lower word, c.isDigit = true) ∨ ∀ c ∈ lower word, c.isLower = true := by
  simp only [lower, List.forall_mem_map, isDigit_toLower]
  have capital (c : Char) := @isLower_toLower c
  have small (c : Char) := @toLower_of_isLower c
  unfold IsWord at isWord
  grind

/-- A word that starts with no capital has none. -/
theorem lower_eq_self {word : List Char} (isWord : IsWord word)
    (start : ∀ c ∈ word.head?, c.isUpper = false) :
    lower word = word := by
  cases word with
  | nil => rfl
  | cons c rest =>
      have first := start c rfl
      refine (List.map_congr_left fun d member => toLower_of_not_isUpper ?_).trans (List.map_id _)
      unfold IsWord at isWord
      grind [not_isUpper_of_isLower, not_isDigit_of_isUpper]

/-- Small letters, or digits, are one word. -/
theorem words_eq_singleton {word : List Char} (nonempty : word ≠ [])
    (kinds : (∀ c ∈ word, c.isDigit = true) ∨ ∀ c ∈ word, c.isLower = true) :
    words word = [word] := by
  induction word with
  | nil => exact absurd rfl nonempty
  | cons c rest ih =>
      have letter : c.isAlphanum = true := by
        show (c.isUpper || c.isLower || c.isDigit) = true
        grind
      rw [words_cons, if_pos letter]
      cases rest with
      | nil => rfl
      | cons d after =>
          have joined : sameWord c (d :: after) = true := by
            unfold sameWord
            grind
          rw [if_pos joined, ih (by simp) (by grind)]
          rfl

/-! ## Field names -/

/-- The words behind the first are those of a text. -/
theorem exists_words_tail (text : List Char) : ∃ suffix, (words text).tail = words suffix := by
  induction text with
  | nil => exact ⟨[], rfl⟩
  | cons c rest ih =>
      rw [words_cons]
      split
      · split
        · cases cut : words rest with
          | nil => exact ⟨[], rfl⟩
          | cons first others => rwa [cut] at ih
        · exact ⟨rest, rfl⟩
      · exact ih

/-- A name is its own field name if its spelling is settled and no capital starts it. -/
theorem fieldName_eq_self {name : String} (letters : ∀ c ∈ name.toList, c.isAlphanum = true)
    (settled : spell true name.toList = name.toList)
    (start : ∀ c ∈ name.toList.head?, c.isUpper = false) :
    fieldName name = name := by
  have spelled := flatMap_capitalize name.toList
  have whole := flatten_words name.toList
  rw [List.filter_eq_self.mpr letters] at whole
  unfold fieldName
  cases cut : words name.toList with
  | nil =>
      rw [cut] at whole
      exact (String.toList_eq_nil_iff.mp whole.symm).symm
  | cons first rest =>
      have isFirst : first ∈ words name.toList := by rw [cut]; exact List.mem_cons_self
      obtain ⟨c, tail, rfl⟩ := List.exists_cons_of_ne_nil (ne_nil_of_mem_words isFirst)
      have letter : c.isAlphanum = true := isAlphanum_of_mem_words isFirst c List.mem_cons_self
      rw [cut] at whole spelled
      rw [← whole, List.flatten_cons, List.cons_append] at settled start spelled
      rw [spell, if_pos letter] at settled spelled
      have same : rest.flatMap capitalize = rest.flatten :=
        List.append_cancel_left ((List.cons.inj spelled).2.trans (List.cons.inj settled).2)
      show String.ofList (lower (c :: tail) ++ rest.flatMap capitalize) = name
      rw [lower_eq_self (isWord_of_mem_words isFirst) start, same, ← List.flatten_cons, whole,
        String.ofList_toList]

theorem fieldName_fieldName (text : String) : fieldName (fieldName text) = fieldName text := by
  refine fieldName_eq_self (isAlphanum_of_mem_fieldName text) ?_ fun c head => ?_
  · obtain ⟨suffix, behind⟩ := exists_words_tail text.toList
    unfold fieldName
    cases cut : words text.toList with
    | nil => rfl
    | cons first rest =>
        rw [cut, List.tail_cons] at behind
        have isWord : IsWord first := isWord_of_mem_words (by rw [cut]; exact List.mem_cons_self)
        have own : spell true (lower first) = lower first := by
          rcases lower_cases isWord with digits | small
          · exact spell_of_digits digits true
          · exact spell_of_small small
        obtain ⟨between, spelled⟩ := spell_append true (lower first) (rest.flatMap capitalize)
        rw [String.toList_ofList, spelled, own, behind, flatMap_capitalize, spell_spell (by simp)]
  · rw [head?_fieldName] at head
    obtain ⟨d, _, rfl⟩ := Option.map_eq_some_iff.mp head
    exact isUpper_toLower d

/-! ## Module names -/

theorem words_append_underscore (before after : List Char) :
    words (before ++ '_' :: after) = words before ++ words after := by
  induction before with
  | nil => rfl
  | cons c rest ih =>
      -- what belongs to one word does not depend on what stands behind an underscore
      have same : sameWord c (rest ++ '_' :: after) = sameWord c rest := by
        have lower : '_'.isLower = false := by decide
        have upper : '_'.isUpper = false := by decide
        have digit : '_'.isDigit = false := by decide
        cases rest with
        | nil => simp [sameWord, lower, upper, digit]
        | cons d more => cases more <;> simp [sameWord, lower]
      rw [List.cons_append, words_cons, words_cons, ih, same]
      split
      · split
        next joined =>
          cases rest with
          | nil => simp [sameWord] at joined
          | cons d more =>
              obtain ⟨tail, others, cut, _⟩ :=
                exists_words_cons (isAlphanum_of_sameWord joined) more
              rw [cut]
              rfl
        · rfl
      · rfl

theorem words_joinUnderscore {pieces : List (List Char)}
    (each : ∀ piece ∈ pieces, words piece = [piece]) :
    words (joinUnderscore pieces) = pieces := by
  induction pieces with
  | nil => rfl
  | cons first rest ih =>
      rw [List.forall_mem_cons] at each
      cases rest with
      | nil => simpa [joinUnderscore] using each.1
      | cons second others =>
          rw [joinUnderscore_cons_cons, words_append_underscore, each.1, ih each.2]
          rfl

theorem moduleName_moduleName (text : String) : moduleName (moduleName text) = moduleName text := by
  have again : words (moduleName text).toList = (words text.toList).map lower := by
    rw [moduleName, String.toList_ofList, words_joinUnderscore]
    intro piece member
    obtain ⟨word, isWord, rfl⟩ := List.mem_map.mp member
    refine words_eq_singleton ?_ (lower_cases (isWord_of_mem_words isWord))
    simpa [lower] using ne_nil_of_mem_words isWord
  rw [moduleName, again, List.map_map, moduleName]
  simp only [Function.comp_def, lower_lower]

/-! ## What all names of a text share -/

/-- A text in small letters and without underscores. -/
def fold (text : List Char) : List Char := (lower text).filter (· != '_')

theorem fold_append (left right : List Char) : fold (left ++ right) = fold left ++ fold right := by
  simp [fold, lower]

theorem fold_lower (text : List Char) : fold (lower text) = fold text :=
  by rw [fold, lower_lower, fold]

theorem fold_upper (text : List Char) : fold (upper text) = fold text := by
  have same : lower (upper text) = lower text := by
    rw [lower, upper, List.map_map]
    exact List.map_congr_left fun c _ => toLower_toUpper c
  rw [fold, same, fold]

theorem fold_flatMap {change : List Char → List Char}
    (same : ∀ word, fold (change word) = fold word) (pieces : List (List Char)) :
    fold (pieces.flatMap change) = fold pieces.flatten := by
  induction pieces with
  | nil => rfl
  | cons word rest ih =>
      rw [List.flatMap_cons, List.flatten_cons, fold_append, fold_append, same, ih]

theorem fold_capitalize (word : List Char) : fold (capitalize word) = fold word := by
  cases word with
  | nil => rfl
  | cons c rest =>
      have same : lower (c.toUpper :: rest) = lower (c :: rest) := by
        rw [lower, List.map_cons, toLower_toUpper, ← List.map_cons, lower]
      rw [capitalize, fold, same, fold]

theorem fold_joinUnderscore (pieces : List (List Char)) :
    fold (joinUnderscore pieces) = fold pieces.flatten := by
  unfold joinUnderscore
  induction pieces with
  | nil => rfl
  | cons first rest ih =>
      cases rest with
      | nil => simp
      | cons second others =>
          have underscore : fold ['_'] = [] := by decide
          rw [List.intercalate_cons_cons, fold_append, fold_append, underscore, ih, List.append_nil,
            ← fold_append, ← List.flatten_cons]

/-- The letters and digits of a text are what its words consist of, in small letters. -/
theorem fold_letters (text : List Char) :
    fold (text.filter Char.isAlphanum) = lower (text.filter Char.isAlphanum) := by
  refine List.filter_eq_self.mpr fun c member => ?_
  obtain ⟨d, isLetter, rfl⟩ := List.mem_map.mp member
  have letter := isAlphanum_toLower (List.mem_filter.mp isLetter).2
  by_contra underscore
  rw [show d.toLower = '_' by simpa using underscore] at letter
  exact absurd letter (by decide)

theorem fold_typeName (text : String) :
    fold (typeName text).toList = lower (text.toList.filter Char.isAlphanum) := by
  rw [typeName, String.toList_ofList, fold_flatMap fold_capitalize, flatten_words,
    fold_letters]

theorem fold_fieldName (text : String) :
    fold (fieldName text).toList = lower (text.toList.filter Char.isAlphanum) := by
  rw [← fold_letters, ← flatten_words, fieldName]
  cases words text.toList with
  | nil => rfl
  | cons first rest =>
      rw [String.toList_ofList, fold_append, fold_lower, fold_flatMap fold_capitalize,
        List.flatten_cons, fold_append]

theorem fold_moduleName (text : String) :
    fold (moduleName text).toList = lower (text.toList.filter Char.isAlphanum) := by
  rw [moduleName, String.toList_ofList, fold_joinUnderscore, ← List.flatMap_def,
    fold_flatMap fold_lower, flatten_words, fold_letters]

theorem fold_enumConstant (text : String) :
    fold (enumConstant text).toList = lower (text.toList.filter Char.isAlphanum) := by
  have unmarked : fold (mark (constantSegments text)) = [] := by
    unfold mark
    split <;> decide
  rw [toList_enumConstant, fold_append, unmarked, List.nil_append, fold_joinUnderscore,
    constantSegments, ← List.flatMap_def, fold_flatMap fold_upper, ← segments_eq_runs, segments,
    flatten_parts, fold_letters]

theorem moduleName_eq_empty_iff (text : String) :
    moduleName text = "" ↔ ∀ c ∈ text.toList, c.isAlphanum = false := by
  constructor
  · intro empty
    have none := fold_moduleName text
    rw [empty, String.toList_empty, show fold [] = [] from rfl] at none
    simpa [lower] using none.symm
  · intro separators
    rw [moduleName, (words_eq_nil_iff text.toList).mpr separators]
    rfl

/-- **Names are stable.** The words of a text are its letters and digits, none lost. Making a name
of a name changes nothing. All four names of a text have the same letters and digits, those of the
text, so that they are empty exactly if it has none. A type name with `Item` or a number behind it
is again a type name. -/
theorem names_stable (text : String) :
    (words text.toList).flatten = text.toList.filter Char.isAlphanum ∧
    (∀ convert ∈ [typeName, fieldName, moduleName], convert (convert text) = convert text) ∧
    (∀ convert ∈ [typeName, fieldName, moduleName, enumConstant],
      fold (convert text).toList = lower (text.toList.filter Char.isAlphanum) ∧
      (convert text = "" ↔ ∀ c ∈ text.toList, c.isAlphanum = false)) ∧
    typeName (typeName text ++ "Item") = typeName text ++ "Item" ∧
    ∀ number, typeName (Schema.SymbolTable.numbered (typeName text) number) =
      Schema.SymbolTable.numbered (typeName text) number := by
  have noWords := words_eq_nil_iff text.toList
  refine ⟨flatten_words text.toList, ?_, ?_, ?_, fun number => ?_⟩
  · simp only [List.forall_mem_cons, List.not_mem_nil, false_imp_iff, implies_true, and_true]
    exact ⟨typeName_typeName text, fieldName_fieldName text, moduleName_moduleName text⟩
  · simp only [List.forall_mem_cons, List.not_mem_nil, false_imp_iff, implies_true, and_true]
    exact ⟨⟨fold_typeName text, (typeName_eq_empty_iff text).trans noWords⟩,
      ⟨fold_fieldName text, (fieldName_eq_empty_iff text).trans noWords⟩,
      ⟨fold_moduleName text, moduleName_eq_empty_iff text⟩, fold_enumConstant text,
      enumConstant_eq_empty_iff text⟩
  · exact typeName_append (by decide) text
  · refine typeName_append (fun behindLetter => ?_) text
    rw [String.toList_ofList]
    exact spell_of_digits (fun c => Nat.isDigit_of_mem_toDigits (by decide) (by decide))
      behindLetter

end SchemaCompiler.Naming
