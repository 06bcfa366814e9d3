import SchemaCompiler.Proofs.SourceText
import SchemaCompiler.Target.Python

/-!
# Reading imports

What a Python unit imports and defines is read off its text, line by line. An import is a line that
starts with `from`, after spaces if it stands in a block; a block for type checkers starts at the
line `if TYPE_CHECKING:` and goes on as long as lines are indented or empty. The readers know
nothing of how units are written. Lines that units write are read back as the imports they were
written from, and lines of other kinds as none (`Quiet`).
-/

namespace SchemaCompiler.Target.Python

/-! ## The reader -/

/-- A name that a unit imports from a module. -/
structure ImportedName where
  module : String
  /-- The name in the module. -/
  name : String
  /-- The name in the unit. -/
  binding : String
  /-- Is the import for type checkers only? -/
  guarded : Bool
  deriving DecidableEq, Repr

/-- What follows a text at the start of a line. -/
def after? (start line : List Char) : Option (List Char) :=
  if start <+: line then some (line.drop start.length) else none

/-- A name of an import, and the name that it gets. -/
def readItem (text : List Char) : String × String :=
  let item := text.dropWhile (· == ' ')
  let name := item.takeWhile (· != ' ')
  let binding := (after? " as ".toList (item.dropWhile (· != ' '))).getD name
  (String.ofList name, String.ofList binding)

/-- The imports of a statement. -/
def readImport (guarded : Bool) (statement : List Char) : List ImportedName :=
  match after? "from ".toList statement with
  | none => []
  | some rest =>
    match after? " import ".toList (rest.dropWhile (· != ' ')) with
    | none => []
    | some items =>
      (items.splitOn ',').map fun item =>
        { module := String.ofList (rest.takeWhile (· != ' '))
          name := (readItem item).1
          binding := (readItem item).2
          guarded }

/-- The line that starts a block for type checkers. -/
def guardLine : List Char := "if TYPE_CHECKING:".toList

/-- The imports of lines. The first of them follows a line of a block for type checkers if
`guarded`. -/
def importsIn (guarded : Bool) : List (List Char) → List ImportedName
  | [] => []
  | line :: rest =>
    let statement := line.dropWhile (· == ' ')
    -- an empty line does not end a block
    let inside := guarded && (line.head? == some ' ' || statement.isEmpty)
    readImport inside statement ++ importsIn (inside || line == guardLine) rest

/-- The imports of a unit. -/
def importsOf (body : String) : List ImportedName := importsIn false (sourceLines body)

/-- Does a character belong to a name? -/
def isNameChar (c : Char) : Bool := c.isAlphanum || c == '_'

/-- The name that a line defines: a class, a function or a variable of the module. -/
def definedBy? (line : List Char) : Option String :=
  match (after? "class ".toList line).or (after? "def ".toList line) with
  | some rest => some (String.ofList (rest.takeWhile isNameChar))
  | none =>
    let rest := line.dropWhile isNameChar
    if " = ".toList <+: rest ∨ ": TypeAlias = ".toList <+: rest then
      some (String.ofList (line.takeWhile isNameChar))
    else none

/-- The names that a unit defines. -/
def definedNames (body : String) : List String := (sourceLines body).filterMap definedBy?

/-! ## What lines start with -/

theorem after?_append (start rest : List Char) : after? start (start ++ rest) = some rest := by
  rw [after?, if_pos (List.prefix_append start rest), List.drop_left]

theorem after?_eq_none {start line : List Char} (other : ¬start <+: line) :
    after? start line = none :=
  if_neg other

/-- What starts a text and has not the character behind a piece of it starts the piece. -/
theorem prefix_of_prefix_append_cons {start before after : List Char} {c : Char} (apart : c ∉ start)
    (starts : start <+: before ++ c :: after) : start <+: before := by
  induction before generalizing start with
  | nil =>
      cases start with
      | nil => exact List.nil_prefix
      | cons d rest =>
          obtain ⟨rfl, _⟩ := List.cons_prefix_cons.mp starts
          simp at apart
  | cons b before ih =>
      cases start with
      | nil => exact List.nil_prefix
      | cons d rest =>
          obtain ⟨rfl, further⟩ := List.cons_prefix_cons.mp starts
          rw [List.mem_cons, not_or] at apart
          exact List.cons_prefix_cons.mpr ⟨rfl, ih apart.2 further⟩

theorem ne_space_of_plain {name : String} (plain : Naming.IsPlain name) :
    ∀ c ∈ name.toList, c ≠ ' ' := by
  rintro c member rfl
  exact absurd (plain ' ' member) (by decide)

/-- A keyword and a space never start a line that starts with a plain name and a colon. -/
theorem not_prefix_of_plain {start name rest : List Char} (plain : ∀ c ∈ name, c ≠ ' ')
    (space : ' ' ∈ start) (noColon : ':' ∉ start) : ¬start <+: name ++ ':' :: rest := by
  intro starts
  have inName := prefix_of_prefix_append_cons noColon starts
  exact plain ' ' (inName.subset space) rfl

/-! ## Lines without imports -/

/-- Lines that import nothing and start no block. -/
def Quiet (line : List Char) : Prop :=
  ¬"from ".toList <+: line.dropWhile (· == ' ') ∧ line ≠ guardLine

instance (line : List Char) : Decidable (Quiet line) := inferInstanceAs (Decidable (_ ∧ _))

theorem readImport_eq_nil {guarded : Bool} {statement : List Char}
    (other : ¬"from ".toList <+: statement) :
    readImport guarded statement = [] := by
  rw [readImport, after?_eq_none other]

theorem importsIn_quiet {lines : List (List Char)} (quiet : ∀ line ∈ lines, Quiet line)
    (guarded : Bool) :
    importsIn guarded lines = [] := by
  induction lines generalizing guarded with
  | nil => rfl
  | cons line rest ih =>
      rw [List.forall_mem_cons] at quiet
      rw [importsIn, readImport_eq_nil quiet.1.1, ih quiet.2]
      rfl

/-- Lines without imports can be left out where no block is open. -/
theorem importsIn_quiet_append {lines rest : List (List Char)}
    (quiet : ∀ line ∈ lines, Quiet line) :
    importsIn false (lines ++ rest) = importsIn false rest := by
  induction lines with
  | nil => rfl
  | cons line more ih =>
      rw [List.forall_mem_cons] at quiet
      rw [List.cons_append, importsIn, readImport_eq_nil quiet.1.1, beq_false_of_ne quiet.1.2]
      exact ih quiet.2

theorem dropWhile_space {line : List Char} (noSpace : line.head? ≠ some ' ') :
    line.dropWhile (· == ' ') = line := by
  cases line with
  | nil => rfl
  | cons c rest =>
      have other : c ≠ ' ' := by simpa using noSpace
      simp [other]

/-- A line that starts otherwise than an import or a block has no imports. -/
theorem quiet_of_head {line : List Char} {c : Char} (first : line.head? = some c)
    (noImport : c ≠ 'f') (noBlock : c ≠ 'i') (noSpace : c ≠ ' ') : Quiet line := by
  obtain ⟨rest, rfl⟩ : ∃ rest, line = c :: rest := by
    cases line with
    | nil => cases first
    | cons d rest => exact ⟨rest, by cases first; rfl⟩
  constructor
  · rw [dropWhile_space (by simpa using noSpace)]
    intro starts
    exact noImport (List.cons_prefix_cons.mp starts).1.symm
  · intro same
    exact noBlock (List.cons.inj same).1

/-- An indented line has no imports unless it is one. -/
theorem quiet_indented {line : String} (noSpace : line.toList.head? ≠ some ' ')
    (noImport : ¬"from ".toList <+: line.toList) : Quiet ("    " ++ line).toList := by
  have start : ("    " ++ line).toList.dropWhile (· == ' ') = line.toList := by
    rw [String.toList_append]
    exact dropWhile_space noSpace
  constructor
  · rwa [start]
  · intro same
    have space : ("    " ++ line).toList.head? = some ' ' := by simp
    rw [same] at space
    exact absurd space (by decide)

theorem head?_named {name : String} (plain : Naming.IsPlain name) (rest : List Char) :
    (name.toList ++ ':' :: rest).head? ≠ some ' ' := by
  have spaceless := ne_space_of_plain plain
  cases characters : name.toList with
  | nil => simp
  | cons c others => simpa using spaceless c (by simp [characters])

/-- A line that starts with a plain name and a colon has no imports, indented or not. -/
theorem quiet_named {name line : String} (plain : Naming.IsPlain name) {rest : List Char}
    (starts : line.toList = name.toList ++ ':' :: rest) :
    Quiet line.toList ∧ Quiet ("    " ++ line).toList := by
  have spaceless := ne_space_of_plain plain
  have head := head?_named plain rest
  have noImport : ¬"from ".toList <+: name.toList ++ ':' :: rest :=
    not_prefix_of_plain spaceless (by decide) (by decide)
  have noBlock : ¬"if ".toList <+: name.toList ++ ':' :: rest :=
    not_prefix_of_plain spaceless (by decide) (by decide)
  rw [← starts] at head noImport noBlock
  refine ⟨⟨?_, ?_⟩, quiet_indented head noImport⟩
  · rwa [dropWhile_space head]
  · intro same
    rw [same] at noBlock
    exact noBlock (by decide)

/-! ## Import lines -/

/-- Imports that are read as they are written. -/
structure Import.Readable (item : Import) : Prop where
  module : ' ' ∉ item.module.toList
  names : item.names ≠ []
  separate : ∀ name ∈ item.names, ',' ∉ name.toList
  single : SingleLine item.line

/-- A name as an import writes it, read. -/
def importedAs (guarded : Bool) (module name : String) : ImportedName :=
  { module, name := (readItem name.toList).1, binding := (readItem name.toList).2, guarded }

/-- The imported names of an import. -/
def Import.imported (guarded : Bool) (item : Import) : List ImportedName :=
  item.names.map (importedAs guarded item.module)

/-- A list with commas and spaces is one with commas, whose items have a space before them. -/
theorem intercalate_comma_space (before name : List Char) (rest : List (List Char)) :
    before ++ ", ".toList.intercalate (name :: rest) =
      [','].intercalate ((before ++ name) :: rest.map (' ' :: ·)) := by
  induction rest generalizing before name with
  | nil => simp
  | cons next more ih =>
      rw [List.intercalate_cons_cons, List.map_cons, List.intercalate_cons_cons]
      have inner := ih [' '] next
      rw [List.singleton_append] at inner
      rw [← List.singleton_append (l := next), ← inner]
      simp

theorem splitOn_comma (names : List (List Char)) (nonempty : names ≠ [])
    (separate : ∀ name ∈ names, ',' ∉ name) :
    ((", ".toList.intercalate names).splitOn ',').map readItem = names.map readItem := by
  obtain ⟨first, rest, rfl⟩ := List.exists_cons_of_ne_nil nonempty
  rw [List.forall_mem_cons] at separate
  have spaced := intercalate_comma_space [] first rest
  rw [List.nil_append, List.nil_append] at spaced
  have split : (", ".toList.intercalate (first :: rest)).splitOn ',' =
      first :: rest.map (' ' :: ·) := by
    rw [spaced]
    refine List.splitOn_intercalate ',' ?_ (by simp)
    rw [List.forall_mem_cons, List.forall_mem_map]
    exact ⟨separate.1, fun name member => by simp [separate.2 name member]⟩
  -- a space before an item is dropped when the item is read
  have space (name : List Char) : readItem (' ' :: name) = readItem name := rfl
  rw [split, List.map_cons, List.map_map, List.map_cons]
  exact congrArg _ (List.map_congr_left fun name _ => space name)

theorem takeWhile_append_space {word : List Char} (noSpace : ' ' ∉ word) (rest : List Char) :
    (word ++ ' ' :: rest).takeWhile (· != ' ') = word ∧
      (word ++ ' ' :: rest).dropWhile (· != ' ') = ' ' :: rest := by
  have kept : ∀ c ∈ word, (c != ' ') = true := by
    intro c member
    rw [bne_iff_ne]
    rintro rfl
    exact noSpace member
  constructor
  · rw [List.takeWhile_append_of_pos kept]
    simp
  · rw [List.dropWhile_append_of_pos kept]
    simp

/-- An import is read as the names that it was written with. -/
theorem readImport_line {item : Import} (readable : item.Readable) (guarded : Bool) :
    readImport guarded item.line.toList = item.imported guarded := by
  let items := ", ".toList.intercalate (item.names.map String.toList)
  have spelled : item.line.toList =
      "from ".toList ++ (item.module.toList ++ ' ' :: ("import ".toList ++ items)) := by
    simp [Import.line, items]
  obtain ⟨taken, dropped⟩ := takeWhile_append_space readable.module ("import ".toList ++ items)
  have behind : after? " import ".toList (' ' :: ("import ".toList ++ items)) = some items :=
    after?_append " import ".toList items
  have read : (items.splitOn ',').map readItem = (item.names.map String.toList).map readItem :=
    splitOn_comma (item.names.map String.toList) (by simpa using readable.names)
      (by simpa using readable.separate)
  -- the module goes up to the first space, and the names are what stands between commas
  rw [readImport, spelled, after?_append]
  dsimp only
  rw [taken, dropped, behind, String.ofList_toList, Import.imported]
  have pairs := congrArg (List.map fun pair : String × String =>
    ({ module := item.module, name := pair.1, binding := pair.2, guarded } : ImportedName)) read
  rw [List.map_map, List.map_map, List.map_map] at pairs
  exact pairs

/-- Imports are read one after the other where no block is open. -/
theorem importsIn_imports {items : List Import} (readable : ∀ item ∈ items, item.Readable)
    (rest : List (List Char)) :
    importsIn false (items.map (·.line.toList) ++ rest) =
      items.flatMap (Import.imported false) ++ importsIn false rest := by
  induction items with
  | nil => rfl
  | cons item more ih =>
      rw [List.forall_mem_cons] at readable
      -- the line starts with a letter, and not like that of a block
      have start : item.line.toList.dropWhile (· == ' ') = item.line.toList := by
        simp [Import.line]
      have first : item.line.toList.head? = some 'f' := by simp [Import.line]
      have other : (item.line.toList == guardLine) = false := by
        refine beq_false_of_ne fun same => ?_
        rw [same] at first
        exact absurd first (by decide)
      rw [List.map_cons, List.cons_append, importsIn, start, other, List.flatMap_cons,
        List.append_assoc]
      rw [← ih readable.2, ← readImport_line readable.1]
      rfl

/-- Indented imports in a block are for type checkers. -/
theorem importsIn_guarded {items : List Import} (readable : ∀ item ∈ items, item.Readable)
    (rest : List (List Char)) :
    importsIn true (items.map (fun item => ("    " ++ item.line).toList) ++ rest) =
      items.flatMap (Import.imported true) ++ importsIn true rest := by
  induction items with
  | nil => rfl
  | cons item more ih =>
      rw [List.forall_mem_cons] at readable
      have start : ("    " ++ item.line).toList.dropWhile (· == ' ') = item.line.toList := by
        simp [Import.line]
      -- the indentation keeps the block open
      have space : ("    " ++ item.line).toList.head? = some ' ' := by simp
      rw [List.map_cons, List.cons_append, importsIn, start, space, List.flatMap_cons,
        List.append_assoc]
      rw [← ih readable.2, ← readImport_line readable.1]
      rfl

/-! ## The lines of a unit -/

/-- The import that every unit starts with. -/
def futureImport : Import := { module := "__future__", names := ["annotations"] }

/-- The lines that units of types have in common: imports, imports for type checkers, and what
follows. -/
def unitLines (block : ImportBlock) (checked : List Import) (rest : List String) : List String :=
  ["from __future__ import annotations", ""] ++ block.lines ++
  (if checked.isEmpty then [] else ["", "if TYPE_CHECKING:"] ++
    indented (checked.map Import.line)) ++ rest

theorem Import.Readable.indented {item : Import} (readable : item.Readable) :
    SingleLine ("    " ++ item.line) :=
  SingleLine.append (by decide) readable.single

theorem futureImport_readable : futureImport.Readable where
  module := by decide
  names := by decide
  separate := by decide
  single := by decide

/-- A header imports nothing. -/
theorem importsOf_header {style : Style} (python : style.language = .python) (comment : String)
    {lines : List String} (single : ∀ line ∈ lines, SingleLine line) :
    importsOf (style.header comment ++ unlines lines) =
      importsIn false (lines.map String.toList ++ [[]]) := by
  have header : ∀ line ∈ (headerLines style comment).map String.toList, Quiet line := by
    rw [List.forall_mem_map]
    intro line member
    obtain ⟨_, rfl | ⟨after, rfl⟩⟩ := headerLines_cases member
    · decide
    · rw [python]
      refine quiet_of_head (c := '#') ?_ (by decide) (by decide) (by decide)
      simp [Language.commentStart]
  rw [importsOf, sourceLines_header style comment single, importsIn_quiet_append header]

section Unit

variable {block : ImportBlock} {checked : List Import} {rest : List String}

theorem singleLine_unitLines (imports : ∀ item ∈ block.standard ++ block.package, item.Readable)
    (guarded : ∀ item ∈ checked, item.Readable) (single : ∀ line ∈ rest, SingleLine line) :
    ∀ line ∈ unitLines block checked rest, SingleLine line := by
  rw [List.forall_mem_append] at imports
  unfold unitLines ImportBlock.lines
  simp only [List.forall_mem_append]
  refine ⟨⟨⟨by decide, ⟨?_, ?_⟩, ?_⟩, ?_⟩, single⟩
  · simpa using fun item member => (imports.1 item member).single
  · split <;> decide
  · simpa using fun item member => (imports.2 item member).single
  · split
    · simp
    · rw [List.forall_mem_append]
      refine ⟨by decide, ?_⟩
      simpa [Python.indented] using fun item member => (guarded item member).indented

theorem importsIn_block (imports : ∀ item ∈ block.standard ++ block.package, item.Readable)
    (more : List (List Char)) :
    importsIn false (block.lines.map String.toList ++ more) =
      (block.standard ++ block.package).flatMap (Import.imported false) ++
        importsIn false more := by
  rw [List.forall_mem_append] at imports
  have gap : ∀ line ∈ (if block.standard.isEmpty || block.package.isEmpty then []
      else [""]).map String.toList, Quiet line := by split <;> decide
  unfold ImportBlock.lines
  simp only [List.map_append, List.map_map, Function.comp_def, List.append_assoc,
    List.flatMap_append]
  rw [importsIn_imports imports.1, importsIn_quiet_append gap, importsIn_imports imports.2]

theorem importsIn_checked (guarded : ∀ item ∈ checked, item.Readable) {more : List (List Char)}
    (quiet : ∀ line ∈ more, Quiet line) :
    importsIn false ((if checked.isEmpty then [] else ["", "if TYPE_CHECKING:"] ++
      indented (checked.map Import.line)).map String.toList ++ more) =
        checked.flatMap (Import.imported true) := by
  split
  next empty =>
    rw [List.isEmpty_iff.mp empty]
    exact importsIn_quiet quiet false
  next =>
    have inBlock := importsIn_guarded guarded more
    rw [importsIn_quiet quiet, List.append_nil] at inBlock
    rw [← inBlock]
    simp only [indented, List.map_append, List.map_map, Function.comp_def]
    rfl

/-- The imports of a unit are those that it was written with: at run time those of its block, and
for type checkers those that are checked only. -/
theorem importsOf_unit {style : Style} (python : style.language = .python) (comment : String)
    (imports : ∀ item ∈ block.standard ++ block.package, item.Readable)
    (guarded : ∀ item ∈ checked, item.Readable)
    (others : ∀ line ∈ rest, SingleLine line ∧ Quiet line.toList) :
    importsOf (style.header comment ++ unlines (unitLines block checked rest)) =
      futureImport.imported false ++
        (block.standard ++ block.package).flatMap (Import.imported false) ++
        checked.flatMap (Import.imported true) := by
  have single := singleLine_unitLines imports guarded fun line member => (others line member).1
  have quiet : ∀ line ∈ rest.map String.toList ++ [[]], Quiet line := by
    rw [List.forall_mem_append, List.forall_mem_map]
    exact ⟨fun line member => (others line member).2, by decide⟩
  rw [importsOf_header python comment single]
  have first := importsIn_imports (List.forall_mem_singleton.mpr futureImport_readable)
    (["".toList] ++ (block.lines.map String.toList ++
      ((if checked.isEmpty then [] else ["", "if TYPE_CHECKING:"] ++
        indented (checked.map Import.line)).map String.toList ++ (rest.map String.toList ++ [[]]))))
  have empty : ∀ line ∈ ["".toList], Quiet line := by decide
  rw [List.flatMap_singleton, importsIn_quiet_append empty, importsIn_block imports,
    importsIn_checked guarded quiet] at first
  rw [List.append_assoc, ← first]
  simp only [unitLines, List.map_append, List.append_assoc]
  rfl

end Unit

/-! ## Definitions -/

theorem isNameChar_of_plain {name : String} (plain : Naming.IsPlain name) :
    ∀ c ∈ name.toList, isNameChar c = true := by
  intro c member
  simpa [isNameChar] using plain c member

/-- A plain name is taken whole, up to a character that cannot be in names. -/
theorem takeWhile_plain {name : String} (plain : Naming.IsPlain name) {c : Char}
    (ends : isNameChar c = false) (rest : List Char) :
    (name.toList ++ c :: rest).takeWhile isNameChar = name.toList ∧
      (name.toList ++ c :: rest).dropWhile isNameChar = c :: rest := by
  have inName := isNameChar_of_plain plain
  constructor
  · rw [List.takeWhile_append_of_pos inName]
    simp [ends]
  · rw [List.dropWhile_append_of_pos inName]
    simp [ends]

theorem definedBy?_class {name : String} (plain : Naming.IsPlain name) {c : Char}
    (ends : isNameChar c = false) (rest : List Char) :
    definedBy? ("class ".toList ++ (name.toList ++ c :: rest)) = some name := by
  rw [definedBy?, after?_append, Option.some_or]
  dsimp only
  rw [(takeWhile_plain plain ends rest).1, String.ofList_toList]

theorem definedBy?_alias {name : String} (plain : Naming.IsPlain name) (target : List Char) :
    definedBy? (name.toList ++ (": TypeAlias = ".toList ++ target)) = some name := by
  have spaceless := ne_space_of_plain plain
  have noClass : after? "class ".toList (name.toList ++ (": TypeAlias = ".toList ++ target)) =
      none :=
    after?_eq_none (not_prefix_of_plain spaceless (by decide) (by decide))
  have noFunction : after? "def ".toList (name.toList ++ (": TypeAlias = ".toList ++ target)) =
      none :=
    after?_eq_none (not_prefix_of_plain spaceless (by decide) (by decide))
  have parts := takeWhile_plain plain (c := ':') (by decide) (" TypeAlias = ".toList ++ target)
  have taken : (name.toList ++ (": TypeAlias = ".toList ++ target)).takeWhile isNameChar =
    name.toList := parts.1
  have dropped : (name.toList ++ (": TypeAlias = ".toList ++ target)).dropWhile isNameChar =
      ": TypeAlias = ".toList ++ target := parts.2
  rw [definedBy?, noClass, noFunction]
  dsimp only [Option.or]
  rw [taken, dropped, if_pos (.inr (List.prefix_append _ target)), String.ofList_toList]

/-- A unit defines what one of its lines defines. -/
theorem mem_definedNames (style : Style) (comment : String) {lines : List String}
    {line name : String} (single : ∀ line ∈ lines, SingleLine line) (member : line ∈ lines)
    (defines : definedBy? line.toList = some name) :
    name ∈ definedNames (style.header comment ++ unlines lines) := by
  rw [definedNames, sourceLines_header style comment single, List.mem_filterMap]
  exact ⟨line.toList, by simp [List.mem_map_of_mem member], defines⟩

end SchemaCompiler.Target.Python
