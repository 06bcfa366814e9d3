import Mathlib.Data.List.TakeWhile
import SchemaCompiler.Naming

/-!
# How names are cut

The matchers of names try one alternative after the other and give characters back, but what they
find can be told from left to right. The words of a text are its letters and digits, cut where two
neighbours do not go together (`parts sameWord`), so no letter or digit is lost. A constant is made
of the longest runs of letters and digits (`segments`), with one underscore between neighbours.
-/

namespace SchemaCompiler

/-! ## Searching a text -/

namespace Text.Matcher

variable {matcher : Matcher} {isOf : Char → Bool}

theorem pieces_of_cover (skip : Nat) (covered rest : List Char) (length : covered.length = skip) :
    matcher.pieces skip (covered ++ rest) = matcher.pieces 0 rest := by
  induction covered generalizing skip with
  | nil =>
      cases length
      rfl
  | cons c covered ih =>
      cases length
      exact ih covered.length rfl

/-- Where the matcher takes a start of the text, this is the first piece. -/
theorem pieces_of_match {c : Char} {word rest : List Char}
    (found : (matcher.rests (c :: word ++ rest)).head? = some rest) :
    matcher.pieces 0 (c :: word ++ rest) = .found (c :: word) :: matcher.pieces 0 rest := by
  have length : matcher.length? (c :: (word ++ rest)) = some (word.length + 1) := by
    rw [length?, ← List.cons_append, found]
    simp
    omega
  rw [List.cons_append, pieces, length]
  simp [pieces_of_cover word.length word rest rfl]

theorem pieces_of_no_match {c : Char} {rest : List Char} (none : matcher.rests (c :: rest) = []) :
    matcher.pieces 0 (c :: rest) = .between c :: matcher.pieces 0 rest := by
  rw [pieces, length?, none]
  rfl

/-- Repetition takes all it can, at first. -/
theorem head?_restsOfMany (isOf : Char → Bool) (text : List Char) :
    (restsOfMany isOf text).head? = some (text.dropWhile isOf) := by
  induction text with
  | nil => rfl
  | cons c rest ih =>
      rw [restsOfMany]
      by_cases here : isOf c = true
      · rw [if_pos here, List.head?_append, ih, List.dropWhile_cons_of_pos here]
        rfl
      · rw [if_neg here, List.dropWhile_cons_of_neg here]
        rfl

theorem rests_atLeastOne {c : Char} (here : isOf c = true) (rest : List Char) :
    (atLeastOne isOf).rests (c :: rest) = restsOfMany isOf rest := by
  simp [atLeastOne, rests, here]

theorem rests_atLeastOne_eq_nil {c : Char} (other : isOf c = false) (rest : List Char) :
    (atLeastOne isOf).rests (c :: rest) = [] := by
  simp [atLeastOne, rests, other]

end Text.Matcher

namespace Naming

open Text (Matcher trim)

/-! ## Parts -/

/-- Prepend a character to the first part of a text that has been cut into parts. -/
def prepend (c : Char) : List (List Char) → List (List Char)
  | [] => [[c]]
  | part :: rest => (c :: part) :: rest

/-- Cut a text into parts of letters and digits. `joins c rest` says whether the character `c`
belongs to the same part as the first character of `rest`, which follows it. -/
def parts (joins : Char → List Char → Bool) : List Char → List (List Char)
  | [] => []
  | c :: rest =>
    if c.isAlphanum then
      if joins c rest then prepend c (parts joins rest) else [c] :: parts joins rest
    else parts joins rest

/-- Two letters or digits in a row belong to one word when they are of one kind, or a capital and
the small letter after it. The last capital of a run starts a new word when a small letter follows
it. -/
def sameWord (c : Char) : List Char → Bool
  | [] => false
  | d :: after =>
    (c.isLower && d.isLower) || (c.isDigit && d.isDigit) || (c.isUpper && d.isLower) ||
    (c.isUpper && d.isUpper && !(after.head?.any Char.isLower))

/-- Two letters or digits in a row always belong to one segment. -/
def sameSegment (_ : Char) : List Char → Bool
  | [] => false
  | d :: _ => d.isAlphanum

/-- The maximal runs of letters and digits of a text. -/
def segments (text : List Char) : List (List Char) := parts sameSegment text

theorem parts_of_joins {joins : Char → List Char → Bool} {c : Char} {rest : List Char}
    (letter : c.isAlphanum = true) (joined : joins c rest = true) :
    parts joins (c :: rest) = prepend c (parts joins rest) := by
  rw [parts, if_pos letter, if_pos joined]

theorem parts_of_not_joins {joins : Char → List Char → Bool} {c : Char} {rest : List Char}
    (letter : c.isAlphanum = true) (alone : joins c rest = false) :
    parts joins (c :: rest) = [c] :: parts joins rest := by
  rw [parts, if_pos letter, if_neg (by simp [alone])]

theorem parts_of_not_letter {joins : Char → List Char → Bool} {c : Char}
    (other : c.isAlphanum = false) (rest : List Char) :
    parts joins (c :: rest) = parts joins rest := by
  rw [parts, if_neg (by simp [other])]

theorem prepend_ne_nil (c : Char) (pieces : List (List Char)) : prepend c pieces ≠ [] := by
  cases pieces <;> simp [prepend]

/-- A text has no parts exactly when it has no letter or digit. -/
theorem parts_eq_nil_iff (joins : Char → List Char → Bool) (text : List Char) :
    parts joins text = [] ↔ ∀ c ∈ text, c.isAlphanum = false := by
  induction text with
  | nil => simp [parts]
  | cons c rest ih =>
      by_cases alphanumeric : c.isAlphanum = true
      · by_cases joined : joins c rest = true
        · simp [parts, alphanumeric, joined, prepend_ne_nil]
        · simp [parts, alphanumeric, joined]
      · simp [parts, alphanumeric, ih]

/-- What holds of single letters and digits, and still holds with one more in front, holds of every
part. -/
theorem of_mem_parts {joins : Char → List Char → Bool} (holds : List Char → Prop)
    (one : ∀ c, c.isAlphanum = true → holds [c])
    (more : ∀ c part, c.isAlphanum = true → holds part → holds (c :: part)) {text part : List Char}
    (member : part ∈ parts joins text) : holds part := by
  induction text generalizing part with
  | nil => cases member
  | cons c rest ih =>
      cases letter : c.isAlphanum with
      | false =>
          rw [parts_of_not_letter letter] at member
          exact ih member
      | true =>
          cases joined : joins c rest with
          | false =>
              rw [parts_of_not_joins letter joined] at member
              rcases List.mem_cons.mp member with rfl | later
              · exact one c letter
              · exact ih later
          | true =>
              rw [parts_of_joins letter joined] at member
              cases cut : parts joins rest with
              | nil =>
                  rw [cut] at member
                  rw [List.mem_singleton.mp member]
                  exact one c letter
              | cons first others =>
                  rw [cut] at member ih
                  rcases List.mem_cons.mp member with rfl | later
                  · exact more c first letter (ih List.mem_cons_self)
                  · exact ih (List.mem_cons_of_mem _ later)

theorem ne_nil_of_mem_parts {joins : Char → List Char → Bool} {text part : List Char}
    (member : part ∈ parts joins text) : part ≠ [] :=
  of_mem_parts (· ≠ []) (fun c _ => List.cons_ne_nil c [])
    (fun c part _ _ => List.cons_ne_nil c part) member

/-- Parts consist of letters and digits. -/
theorem isAlphanum_of_mem_parts {joins : Char → List Char → Bool} {text part : List Char}
    (member : part ∈ parts joins text) : ∀ c ∈ part, c.isAlphanum = true :=
  of_mem_parts (fun part => ∀ c ∈ part, c.isAlphanum = true)
    (fun _ letter => List.forall_mem_singleton.mpr letter)
    (fun _ _ letter others => List.forall_mem_cons.mpr ⟨letter, others⟩) member

/-! ## Kinds of characters -/

theorem isUpper_iff {c : Char} : c.isUpper = true ↔ 65 ≤ c.val ∧ c.val ≤ 90 := decide_eq_true_iff

theorem isLower_iff {c : Char} : c.isLower = true ↔ 97 ≤ c.val ∧ c.val ≤ 122 := by
  show (decide (97 ≤ c.val) && decide (c.val ≤ 122)) = true ↔ _
  rw [Bool.and_eq_true, decide_eq_true_iff, decide_eq_true_iff]

theorem isDigit_iff {c : Char} : c.isDigit = true ↔ 48 ≤ c.val ∧ c.val ≤ 57 := by
  show (decide (48 ≤ c.val) && decide (c.val ≤ 57)) = true ↔ _
  rw [Bool.and_eq_true, decide_eq_true_iff, decide_eq_true_iff]

theorem isAlphanum_iff {c : Char} :
    c.isAlphanum = true ↔ c.isLower = true ∨ c.isUpper = true ∨ c.isDigit = true := by
  show (c.isUpper || c.isLower || c.isDigit) = true ↔ _
  rw [Bool.or_eq_true, Bool.or_eq_true]
  exact ⟨fun kinds => by grind, fun kinds => by grind⟩

theorem not_isUpper_of_isLower {c : Char} (small : c.isLower = true) : c.isUpper = false := by
  rw [isLower_iff] at small
  rw [← Bool.not_eq_true, isUpper_iff]
  grind

theorem not_isDigit_of_isLower {c : Char} (small : c.isLower = true) : c.isDigit = false := by
  rw [isLower_iff] at small
  rw [← Bool.not_eq_true, isDigit_iff]
  grind

theorem not_isDigit_of_isUpper {c : Char} (capital : c.isUpper = true) : c.isDigit = false := by
  rw [isUpper_iff] at capital
  rw [← Bool.not_eq_true, isDigit_iff]
  grind

theorem not_isLower_of_isUpper {c : Char} (capital : c.isUpper = true) : c.isLower = false := by
  rw [← Bool.not_eq_true]
  intro small
  rw [not_isUpper_of_isLower small] at capital
  cases capital

/-! ## Words -/

/-- A text whose first word ends where a rest of it starts. -/
def CutsBefore (text rest : List Char) : Prop :=
  ∃ c tail, text = c :: tail ++ rest ∧ parts sameWord text = (c :: tail) :: parts sameWord rest

theorem CutsBefore.cons {c : Char} {text rest : List Char} (cuts : CutsBefore text rest)
    (letter : c.isAlphanum = true) (joined : sameWord c text = true) :
    CutsBefore (c :: text) rest := by
  obtain ⟨d, tail, rfl, cut⟩ := cuts
  refine ⟨c, d :: tail, rfl, ?_⟩
  rw [parts_of_joins letter joined, cut]
  rfl

theorem CutsBefore.of_alone {c : Char} {rest : List Char} (letter : c.isAlphanum = true)
    (alone : sameWord c rest = false) : CutsBefore (c :: rest) rest :=
  ⟨c, [], rfl, parts_of_not_joins letter alone⟩

/-- A run of one kind is a word, where only this kind goes on with it. -/
theorem cutsBefore_dropWhile {isOf : Char → Bool}
    (letter : ∀ c, isOf c = true → c.isAlphanum = true)
    (joins : ∀ c rest, isOf c = true → sameWord c rest = rest.head?.any isOf) {c : Char}
    (here : isOf c = true) (rest : List Char) :
    CutsBefore (c :: rest) (rest.dropWhile isOf) := by
  induction rest generalizing c with
  | nil => exact .of_alone (letter c here) (joins c [] here)
  | cons d after ih =>
      by_cases next : isOf d = true
      · rw [List.dropWhile_cons_of_pos next]
        refine (ih next).cons (letter c here) ?_
        rw [joins c _ here]
        simpa using next
      · rw [List.dropWhile_cons_of_neg next]
        refine .of_alone (letter c here) ?_
        rw [joins c _ here]
        simpa using next

theorem cutsBefore_small {c : Char} (small : c.isLower = true) (rest : List Char) :
    CutsBefore (c :: rest) (rest.dropWhile Char.isLower) := by
  refine cutsBefore_dropWhile (fun c small => isAlphanum_iff.mpr (.inl small)) ?_ small rest
  intro c rest small
  cases rest with
  | nil => rfl
  | cons d after =>
      simp [sameWord, small, not_isUpper_of_isLower small, not_isDigit_of_isLower small]

theorem cutsBefore_digit {c : Char} (digit : c.isDigit = true) (rest : List Char) :
    CutsBefore (c :: rest) (rest.dropWhile Char.isDigit) := by
  refine cutsBefore_dropWhile (fun c digit => isAlphanum_iff.mpr (.inr (.inr digit))) ?_ digit rest
  intro c rest digit
  have noSmall : c.isLower = false := by grind [not_isDigit_of_isLower]
  have noCapital : c.isUpper = false := by grind [not_isDigit_of_isUpper]
  cases rest with
  | nil => rfl
  | cons d after => simp [sameWord, digit, noSmall, noCapital]

/-- What is left behind a run of capitals that no small letter follows, the first of which is given
already. -/
def behindCapitals (rest : List Char) : Option (List Char) :=
  ((Matcher.restsOfMany Char.isUpper rest).flatMap (Matcher.notBefore Char.isLower).rests).head?

/-- The last capital of a run is given back if a small letter follows. -/
theorem behindCapitals_cons (d : Char) (after : List Char) :
    behindCapitals (d :: after) =
      if d.isUpper then (behindCapitals after).or (some (d :: after))
      else if d.isLower then none else some (d :: after) := by
  unfold behindCapitals
  rw [Matcher.restsOfMany]
  by_cases capital : d.isUpper = true
  · simp [capital, Matcher.rests, not_isLower_of_isUpper capital, List.head?_append]
  · by_cases small : d.isLower = true
    · simp [capital, small, Matcher.rests]
    · simp [capital, small, Matcher.rests]

/-- Capitals are given back as far as none is left exactly before a small letter. -/
theorem behindCapitals_eq_none_iff (rest : List Char) :
    behindCapitals rest = none ↔ rest.head?.any Char.isLower = true := by
  cases rest with
  | nil => simp [behindCapitals, Matcher.restsOfMany, Matcher.rests]
  | cons d after =>
      rw [behindCapitals_cons]
      by_cases capital : d.isUpper = true
      · simp [capital, not_isLower_of_isUpper capital]
      · simp [capital]

theorem cutsBefore_capital {c : Char} (capital : c.isUpper = true) (rest : List Char) :
    CutsBefore (c :: rest) ((behindCapitals rest).getD (rest.dropWhile Char.isLower)) := by
  have letter {c : Char} (capital : c.isUpper = true) := isAlphanum_iff.mpr (.inr (.inl capital))
  have noSmall := not_isLower_of_isUpper capital
  have noDigit := not_isDigit_of_isUpper capital
  induction rest generalizing c with
  | nil => exact .of_alone (letter capital) rfl
  | cons d after ih =>
      rw [behindCapitals_cons]
      by_cases next : d.isUpper = true
      · have nextNoSmall := not_isLower_of_isUpper next
        rw [if_pos next]
        cases behind : behindCapitals after with
        | none =>
            -- a small letter follows: the second capital starts a word
            have small := (behindCapitals_eq_none_iff after).mp behind
            refine .of_alone (letter capital) ?_
            simp [sameWord, noSmall, noDigit, nextNoSmall, small]
        | some rest =>
            have other : after.head?.any Char.isLower = false := by
              rw [← Bool.not_eq_true, ← behindCapitals_eq_none_iff, behind]
              simp
            have cuts := ih next nextNoSmall (not_isDigit_of_isUpper next)
            rw [behind] at cuts
            exact cuts.cons (letter capital) (by simp [sameWord, capital, next, other])
      · rw [if_neg next]
        by_cases small : d.isLower = true
        · rw [if_pos small, Option.getD_none, List.dropWhile_cons_of_pos small]
          exact (cutsBefore_small small after).cons (letter capital)
            (by simp [sameWord, capital, small])
        · rw [if_neg small]
          exact .of_alone (letter capital) (by simp [sameWord, noSmall, noDigit, next, small])

/-- The first way in which a word can be found at a letter or digit is the one that counts, and
there the text is cut. -/
theorem head?_rests_wordMatcher {c : Char} (letter : c.isAlphanum = true) (rest : List Char) :
    ∃ after, (wordMatcher.rests (c :: rest)).head? = some after ∧ CutsBefore (c :: rest) after := by
  rw [isAlphanum_iff] at letter
  unfold wordMatcher
  simp only [Matcher.rests, List.head?_append]
  rcases letter with small | capital | digit
  · refine ⟨_, ?_, cutsBefore_small small rest⟩
    rw [Matcher.rests_atLeastOne small, Matcher.head?_restsOfMany]
    rfl
  · refine ⟨_, ?_, cutsBefore_capital capital rest⟩
    rw [Matcher.rests_atLeastOne_eq_nil (not_isLower_of_isUpper capital),
      Matcher.rests_atLeastOne capital, if_pos capital]
    show (Option.none.or ((behindCapitals rest).or _)) = _
    cases behindCapitals rest <;> simp [Matcher.head?_restsOfMany]
  · refine ⟨_, ?_, cutsBefore_digit digit rest⟩
    have noSmall : c.isLower = false := by grind [not_isDigit_of_isLower]
    have noCapital : c.isUpper = false := by grind [not_isDigit_of_isUpper]
    rw [Matcher.rests_atLeastOne_eq_nil noSmall, Matcher.rests_atLeastOne_eq_nil noCapital,
      Matcher.rests_atLeastOne digit, Matcher.head?_restsOfMany]
    simp [noCapital]

theorem rests_wordMatcher_eq_nil {c : Char} (other : c.isAlphanum = false) (rest : List Char) :
    wordMatcher.rests (c :: rest) = [] := by
  have kinds : ¬(c.isLower = true ∨ c.isUpper = true ∨ c.isDigit = true) := by
    simp [← isAlphanum_iff, other]
  simp only [not_or, Bool.not_eq_true] at kinds
  simp [wordMatcher, Matcher.atLeastOne, Matcher.rests, kinds]

theorem findAll_wordMatcher (text : List Char) :
    wordMatcher.findAll text = parts sameWord text := by
  -- a word can be of any length, so the induction is on the length of the text
  induction length : text.length using Nat.strongRecOn generalizing text with
  | ind size ih =>
      cases text with
      | nil => rfl
      | cons c rest =>
          cases letter : c.isAlphanum with
          | false =>
              rw [Matcher.findAll, Matcher.pieces_of_no_match
                (rests_wordMatcher_eq_nil letter rest), parts_of_not_letter letter,
                ← ih rest.length (by simp [← length]) rest rfl]
              rfl
          | true =>
              obtain ⟨after, found, d, tail, cut, parts⟩ := head?_rests_wordMatcher letter rest
              have shorter : after.length < size := by
                rw [← length, cut, List.cons_append, List.length_cons, List.length_append]
                omega
              rw [parts, ← ih after.length shorter after rfl]
              rw [cut] at found ⊢
              rw [Matcher.findAll, Matcher.pieces_of_match found]
              rfl

/-- What stands for a space between words has no kind, and neither has the space. -/
theorem isOf_spaced {isOf : Char → Bool} (none : [' ', '_', '-', '.'].any isOf = false) (c : Char) :
    isOf (spaced c) = isOf c := by
  simp only [List.any_cons, List.any_nil, Bool.or_false, Bool.or_eq_false_iff] at none
  unfold spaced
  split
  next separator =>
    simp only [Bool.or_eq_true, beq_iff_eq] at separator
    rcases separator with (rfl | rfl) | rfl <;> simp [none]
  next => rfl

theorem parts_map_spaced (text : List Char) :
    parts sameWord (text.map spaced) = parts sameWord text := by
  have small := @isOf_spaced Char.isLower (by decide)
  have capital := @isOf_spaced Char.isUpper (by decide)
  have digit := @isOf_spaced Char.isDigit (by decide)
  have alphanumeric := @isOf_spaced Char.isAlphanum (by decide)
  have same (c : Char) (rest : List Char) : sameWord (spaced c) (rest.map spaced) =
      sameWord c rest := by
    cases rest with
    | nil => rfl
    | cons d after => cases after <;> simp [sameWord, small, capital, digit]
  induction text with
  | nil => rfl
  | cons c rest ih =>
      rw [List.map_cons]
      cases letter : c.isAlphanum with
      | false =>
          rw [parts_of_not_letter letter, parts_of_not_letter ((alphanumeric c).trans letter), ih]
      | true =>
          have kept : spaced c = c := by
            refine if_neg fun separator => ?_
            simp only [Bool.or_eq_true, beq_iff_eq] at separator
            rcases separator with (rfl | rfl) | rfl <;> revert letter <;> decide
          rw [parts, parts, same, kept, ih]

/-- **Words.** The alternatives of the matcher, tried in order, cut a text where its characters do
not go together. -/
theorem words_eq_parts (text : List Char) : words text = parts sameWord text := by
  rw [words, findAll_wordMatcher, parts_map_spaced]

theorem words_cons (c : Char) (rest : List Char) :
    words (c :: rest) =
      if c.isAlphanum then if sameWord c rest then prepend c (words rest) else [c] :: words rest
      else words rest := by
  simp only [words_eq_parts, parts]

theorem ne_nil_of_mem_words {text word : List Char} (member : word ∈ words text) : word ≠ [] :=
  ne_nil_of_mem_parts (words_eq_parts text ▸ member)

theorem isAlphanum_of_mem_words {text word : List Char} (member : word ∈ words text) :
    ∀ c ∈ word, c.isAlphanum = true :=
  isAlphanum_of_mem_parts (words_eq_parts text ▸ member)

theorem words_eq_nil_iff (text : List Char) :
    words text = [] ↔ ∀ c ∈ text, c.isAlphanum = false := by
  rw [words_eq_parts, parts_eq_nil_iff]

/-! ## Segments -/

theorem joinUnderscore_cons_cons (first second : List Char) (rest : List (List Char)) :
    joinUnderscore (first :: second :: rest) = first ++ '_' :: joinUnderscore (second :: rest) := by
  simp [joinUnderscore, List.intercalate_cons_cons]

theorem joinUnderscore_prepend (c : Char) {pieces : List (List Char)} (nonempty : pieces ≠ []) :
    joinUnderscore (prepend c pieces) = c :: joinUnderscore pieces := by
  cases pieces with
  | nil => exact absurd rfl nonempty
  | cons first rest =>
      cases rest with
      | nil => simp [joinUnderscore, prepend]
      | cons second others => simp [prepend, joinUnderscore_cons_cons]

theorem replaceAll_letter {c : Char} (letter : c.isAlphanum = true) (rest : List Char) :
    separatorMatcher.replaceAll ['_'] (c :: rest) =
      c :: separatorMatcher.replaceAll ['_'] rest := by
  have none : separatorMatcher.rests (c :: rest) = [] :=
    Matcher.rests_atLeastOne_eq_nil (by simp [letter]) rest
  rw [Matcher.replaceAll, Matcher.pieces_of_no_match none]
  rfl

theorem replaceAll_separators {c : Char} (separates : c.isAlphanum = false) (rest : List Char) :
    separatorMatcher.replaceAll ['_'] (c :: rest) =
      '_' :: separatorMatcher.replaceAll ['_'] (rest.dropWhile (!·.isAlphanum)) := by
  have whole : c :: rest =
      c :: rest.takeWhile (!·.isAlphanum) ++ rest.dropWhile (!·.isAlphanum) := by
    rw [List.cons_append, List.takeWhile_append_dropWhile]
  have found : (separatorMatcher.rests (c :: rest)).head? =
      some (rest.dropWhile (!·.isAlphanum)) := by
    rw [separatorMatcher, Matcher.rests_atLeastOne (by simp [separates]), Matcher.head?_restsOfMany]
  rw [whole] at found
  rw [Matcher.replaceAll, whole, Matcher.pieces_of_match found]
  rfl

/-- A letter or digit before what the rest becomes: only underscores at the end are too much. -/
theorem joinUnderscore_segments_letter {c : Char} (letter : c.isAlphanum = true)
    (rest : List Char) :
    ∃ extra, (∀ d ∈ extra, d = '_') ∧
      c :: ((if rest.head?.any (!·.isAlphanum) then ['_'] else []) ++
        joinUnderscore (segments rest)) = joinUnderscore (segments (c :: rest)) ++ extra := by
  cases rest with
  | nil => exact ⟨[], by simp, by simp [letter, segments, parts, sameSegment, joinUnderscore]⟩
  | cons d after =>
      cases next : d.isAlphanum with
      | true =>
          have goesOn : segments (c :: d :: after) = prepend c (segments (d :: after)) :=
            parts_of_joins letter next
          have some : segments (d :: after) ≠ [] := by
            rw [segments, Ne, parts_eq_nil_iff]
            intro none
            simp [next] at none
          refine ⟨[], by simp, ?_⟩
          rw [goesOn, joinUnderscore_prepend c some]
          simp [next]
      | false =>
          have ends : segments (c :: d :: after) = [c] :: segments (d :: after) :=
            parts_of_not_joins letter next
          rw [ends]
          cases segments (d :: after) with
          | nil => exact ⟨['_'], by simp, by simp [next, joinUnderscore]⟩
          | cons first others =>
              refine ⟨[], by simp, ?_⟩
              rw [joinUnderscore_cons_cons]
              simp [next]

/-- With an underscore for what separates, the segments of a text stand between single
underscores. -/
theorem replaceAll_eq_join (text : List Char) :
    ∃ trail, (∀ c ∈ trail, c = '_') ∧
      separatorMatcher.replaceAll ['_'] text =
        (if text.head?.any (!·.isAlphanum) then ['_'] else []) ++
          joinUnderscore (segments text) ++ trail := by
  induction text with
  | nil => exact ⟨[], by simp, rfl⟩
  | cons c rest ih =>
      obtain ⟨trail, underscores, joined⟩ := ih
      cases letter : c.isAlphanum with
      | true =>
          obtain ⟨extra, more, behind⟩ := joinUnderscore_segments_letter letter rest
          refine ⟨extra ++ trail, List.forall_mem_append.mpr ⟨more, underscores⟩, ?_⟩
          rw [replaceAll_letter letter, joined, ← List.cons_append, behind]
          simp [letter]
      | false =>
          rw [segments, parts_of_not_letter letter, ← segments]
          refine ⟨trail, underscores, ?_⟩
          rw [replaceAll_separators letter]
          cases rest with
          | nil => simpa [letter] using joined
          | cons d after =>
              cases next : d.isAlphanum with
              | false =>
                  rw [List.dropWhile_cons_of_pos (by simp [next]),
                    ← replaceAll_separators next, joined]
                  simp [letter, next]
              | true =>
                  rw [List.dropWhile_cons_of_neg (by simp [next]), joined]
                  simp [letter, next]

theorem dropWhile_append_eq {isOf : Char → Bool} {before text : List Char}
    (left : ∀ c ∈ before, isOf c = true) (first : ∀ c ∈ text.head?, isOf c = false) :
    (before ++ text).dropWhile isOf = text := by
  rw [List.dropWhile_append_of_pos left]
  cases text with
  | nil => rfl
  | cons c rest => exact List.dropWhile_cons_of_neg (by simp [first c rfl])

/-- A text is what is left when the characters around it are taken away, if none of them is at its
ends. -/
theorem trim_eq {isOf : Char → Bool} {before text after : List Char}
    (left : ∀ c ∈ before, isOf c = true) (right : ∀ c ∈ after, isOf c = true)
    (first : ∀ c ∈ text.head?, isOf c = false) (last : ∀ c ∈ text.getLast?, isOf c = false) :
    trim isOf (before ++ text ++ after) = text := by
  unfold trim
  cases text with
  | nil =>
      have all : (before ++ [] ++ after).dropWhile isOf = [] := by
        rw [List.dropWhile_eq_nil_iff]
        intro c member
        rcases List.mem_append.mp member with inBefore | inAfter
        · exact left c (by simpa using inBefore)
        · exact right c inAfter
      rw [all]
      rfl
  | cons c rest =>
      rw [List.append_assoc, dropWhile_append_eq left (by simpa using first), List.reverse_append,
        dropWhile_append_eq (by simpa using right) (by simpa only [List.head?_reverse] using last),
        List.reverse_reverse]

theorem exists_trim (isOf : Char → Bool) (text : List Char) : ∃ before after,
    text = before ++ trim isOf text ++ after ∧
      (∀ c ∈ before, isOf c = true) ∧ ∀ c ∈ after, isOf c = true := by
  let rest := text.dropWhile isOf
  refine ⟨text.takeWhile isOf, (rest.reverse.takeWhile isOf).reverse, ?_, ?_, ?_⟩
  · have back := congrArg List.reverse (rest.reverse.takeWhile_append_dropWhile (p := isOf))
    rw [List.reverse_append, List.reverse_reverse] at back
    rw [List.append_assoc, show trim isOf text ++ _ = rest from back,
      List.takeWhile_append_dropWhile]
  · exact fun c member => List.mem_takeWhile_imp member
  · exact fun c member => List.mem_takeWhile_imp (List.mem_reverse.mp member)

theorem segments_separators_append {before : List Char}
    (separate : ∀ c ∈ before, c.isAlphanum = false) (text : List Char) :
    segments (before ++ text) = segments text := by
  induction before with
  | nil => rfl
  | cons c rest ih =>
      rw [List.forall_mem_cons] at separate
      exact (parts_of_not_letter separate.1 _).trans (ih separate.2)

theorem segments_append_separators {after : List Char}
    (separate : ∀ c ∈ after, c.isAlphanum = false) (text : List Char) :
    segments (text ++ after) = segments text := by
  induction text with
  | nil => simpa [segments, parts] using segments_separators_append separate []
  | cons c rest ih =>
      have same : sameSegment c (rest ++ after) = sameSegment c rest := by
        cases rest with
        | nil =>
            cases after with
            | nil => rfl
            | cons d more => exact separate d (by simp)
        | cons d more => rfl
      rw [segments] at ih
      rw [List.cons_append, segments, segments, parts, parts, same, ih, segments]

/-- White space has no letters and digits. -/
theorem not_isAlphanum_of_isSeparating {c : Char} (separates : Text.isSeparating c = true) :
    c.isAlphanum = false := by
  rw [← Bool.not_eq_true, isAlphanum_iff, isLower_iff, isUpper_iff, isDigit_iff]
  simp only [UInt32.le_iff_toNat_le]
  change ¬(97 ≤ c.toNat ∧ c.toNat ≤ 122 ∨ 65 ≤ c.toNat ∧ c.toNat ≤ 90 ∨ 48 ≤ c.toNat ∧ c.toNat ≤ 57)
  simp only [Text.isSeparating, Text.isBlank, Bool.or_eq_true, Bool.and_eq_true, decide_eq_true_eq,
    beq_iff_eq] at separates
  omega

theorem segments_trim (text : List Char) :
    segments (trim Text.isSeparating text) = segments text := by
  obtain ⟨before, after, whole, left, right⟩ := exists_trim Text.isSeparating text
  have same : segments (before ++ trim Text.isSeparating text ++ after) =
      segments (trim Text.isSeparating text) := by
    rw [segments_append_separators fun c member => not_isAlphanum_of_isSeparating (right c member),
      segments_separators_append fun c member => not_isAlphanum_of_isSeparating (left c member)]
  rw [← same, ← whole]

theorem joinUnderscore_ne_nil {first : List Char} (rest : List (List Char))
    (nonempty : first ≠ []) : joinUnderscore (first :: rest) ≠ [] := by
  cases rest with
  | nil => simpa [joinUnderscore] using nonempty
  | cons second others => simp [joinUnderscore_cons_cons]

/-- The ends of joined segments are those of the first and the last. -/
theorem joinUnderscore_ends {holds : Char → Prop} {pieces : List (List Char)}
    (each : ∀ piece ∈ pieces, piece ≠ [] ∧ ∀ c ∈ piece, holds c) :
    (∀ c ∈ (joinUnderscore pieces).head?, holds c) ∧
      ∀ c ∈ (joinUnderscore pieces).getLast?, holds c := by
  induction pieces with
  | nil => simp [joinUnderscore]
  | cons first rest ih =>
      rw [List.forall_mem_cons] at each
      obtain ⟨⟨nonempty, own⟩, others⟩ := each
      cases rest with
      | nil =>
          have alone : joinUnderscore [first] = first := by simp [joinUnderscore]
          rw [alone]
          exact ⟨fun c head => own c (List.mem_of_mem_head? head),
            fun c last => own c (List.mem_of_getLast? last)⟩
      | cons second more =>
          obtain ⟨c, tail, rfl⟩ := List.exists_cons_of_ne_nil nonempty
          have goesOn := joinUnderscore_ne_nil more (others second List.mem_cons_self).1
          rw [joinUnderscore_cons_cons]
          refine ⟨fun d head => ?_, fun d last => (ih others).2 d ?_⟩
          · cases head
            exact own c List.mem_cons_self
          · rw [Option.mem_def, List.getLast?_append, List.getLast?_cons] at last
            simpa [List.getLast?_eq_some_getLast goesOn] using last

/-- **Constants.** What the replacements leave of a value are its segments with single underscores
between them. -/
theorem enumConstant_eq (text : String) :
    enumConstant text =
      String.ofList (markDigit (upper (joinUnderscore (segments text.toList)))) := by
  have letters : ∀ piece ∈ segments text.toList, piece ≠ [] ∧ ∀ c ∈ piece, (c == '_') = false := by
    refine fun piece isPiece => ⟨ne_nil_of_mem_parts isPiece, fun c member => ?_⟩
    have letter := isAlphanum_of_mem_parts isPiece c member
    rw [beq_eq_false_iff_ne]
    rintro rfl
    exact absurd letter (by decide)
  obtain ⟨trail, underscores, joined⟩ := replaceAll_eq_join (trim Text.isSeparating text.toList)
  have ends := joinUnderscore_ends letters
  rw [segments_trim] at joined
  have trimmed : trim (· == '_')
      (separatorMatcher.replaceAll ['_'] (trim Text.isSeparating text.toList)) =
      joinUnderscore (segments text.toList) := by
    rw [joined]
    refine trim_eq ?_ (by simpa using underscores) ends.1 ends.2
    split <;> simp
  rw [enumConstant, trimmed]

end Naming

end SchemaCompiler
