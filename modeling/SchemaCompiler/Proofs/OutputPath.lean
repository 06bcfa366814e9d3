import SchemaCompiler.Output.Sink
import SchemaCompiler.Proofs.FileTree
import SchemaCompiler.Proofs.Naming

/-!
# Where units are written

The last name on the path of a unit is its file, with the ending of the language. So units are never
written where a temporary file or a support file of the language is, and units of plain names are
written into the output directory itself, each to the place that its file names.
-/

namespace SchemaCompiler

open FileSystem (Path Place)
open Target (Language OutputUnit)

/-! ## Texts of paths -/

theorem splitOn_append {separator : Char} {ending : List Char} (whole : separator ∉ ending)
    (text : List Char) :
    ∃ front last, (text ++ ending).splitOn separator = front ++ [last ++ ending] := by
  induction text with
  | nil => exact ⟨[], [], by simpa using List.splitOn_eq_singleton whole⟩
  | cons c rest ih =>
      obtain ⟨front, last, split⟩ := ih
      unfold List.splitOn at split ⊢
      rw [List.cons_append, List.splitOnP_cons_eq_if_modifyHead, split]
      split
      · exact ⟨[] :: front, last, rfl⟩
      · cases front with
        | nil => exact ⟨[], c :: last, rfl⟩
        | cons piece pieces => exact ⟨(c :: piece) :: pieces, last, rfl⟩

namespace FileSystem.Path

/-- Names of two or more characters are not left out of paths. -/
theorem isIdle_append {stem ending : List Char} (long : 2 ≤ ending.length) :
    isIdle (stem ++ ending) = false := by
  have length : 2 ≤ (stem ++ ending).length := by
    rw [List.length_append]
    omega
  unfold isIdle
  cases shape : stem ++ ending with
  | nil => simp [shape] at length
  | cons first rest =>
      cases rest with
      | nil => simp [shape] at length
      | cons second others => simp

/-- A text with an ending describes a path whose last name has the ending. -/
theorem ofText_parts {ending : String} (whole : '/' ∉ ending.toList)
    (long : 2 ≤ ending.toList.length) (text : String) :
    ∃ front stem, (ofText (text ++ ending)).parts = front ++ [stem ++ ending] := by
  obtain ⟨front, last, split⟩ := splitOn_append whole text.toList
  refine ⟨(front.filter (!isIdle ·)).map String.ofList, String.ofList last, ?_⟩
  rw [ofText, String.toList_append, split, List.filter_append, List.map_append]
  simp [isIdle_append long]

/-- A text without slashes describes the path of one name. -/
theorem ofText_of_name {name : String} (whole : '/' ∉ name.toList)
    (busy : isIdle name.toList = false) :
    ofText name = { parts := [name] } := by
  have relative : anchorOf name.toList = "" := by
    unfold anchorOf
    split <;> simp_all
  rw [ofText, relative, List.splitOn_eq_singleton whole]
  simp [busy]

/-- The last name of a path, unless it is a step back, is the last name of its place. -/
theorem place_concat {path : Path} {front : List String} {name : String}
    (parts : path.parts = front ++ [name]) (forward : name ≠ "..") (here : Place) :
    path.place here = collapse (path.start here) front ++ [name] := by
  rw [place, parts, collapse_concat forward]

/-- A name below a directory leads to a place in it. -/
theorem place_join {name : String} (whole : '/' ∉ name.toList) (busy : isIdle name.toList = false)
    (forward : name ≠ "..") (directory : Path) (here : Place) :
    (directory.join (ofText name)).place here = directory.place here ++ [name] := by
  rw [ofText_of_name whole busy]
  exact collapse_concat forward (directory.start here) directory.parts

end FileSystem.Path

/-! ## Files of units -/

/-- What the files of a language end in. -/
def Target.Language.ending : Language → String
  | python => ".py"
  | kotlin => ".kt"

theorem Target.Language.exists_stem (language : Language) (name : String) :
    ∃ stem, language.fileName name = stem ++ language.ending := by
  cases language with
  | python => exact ⟨Naming.moduleName name, rfl⟩
  | kotlin => exact ⟨name, rfl⟩

theorem getLast?_append_string (stem ending : String) {last : Char}
    (ends : ending.toList.getLast? = some last) :
    (stem ++ ending).toList.getLast? = some last := by
  rw [String.toList_append, List.getLast?_append, ends]
  rfl

/-- The ending of a file tells it from names that end in another letter. -/
theorem ending_ne {name : String} {last : Char} (ends : name.toList.getLast? = some last)
    (apart : last ≠ 'y' ∧ last ≠ 't') (language : Language) (stem : String) :
    stem ++ language.ending ≠ name := by
  intro same
  cases language with
  | python =>
      have own := getLast?_append_string stem Language.python.ending (show _ = some 'y' by decide)
      rw [same, ends] at own
      exact apart.1 (Option.some.inj own)
  | kotlin =>
      have own := getLast?_append_string stem Language.kotlin.ending (show _ = some 't' by decide)
      rw [same, ends] at own
      exact apart.2 (Option.some.inj own)

/-- No temporary file has the ending of a language. -/
theorem ending_ne_temporaryName (language : Language) (stem name : String) (number : Nat) :
    stem ++ language.ending ≠ FileSystem.Disk.temporaryName name number :=
  ending_ne (getLast?_append_string _ ".tmp" (show _ = some 'p' by decide))
    (by decide) language stem

theorem ending_ne_back (language : Language) (stem : String) : stem ++ language.ending ≠ ".." :=
  ending_ne (show _ = some '.' by decide) (by decide) language stem

namespace Output.Sink

theorem pathOf_parts (sink : Sink) (unit : OutputUnit) :
    ∃ front stem, (sink.pathOf unit).parts = front ++ [stem ++ sink.language.ending] := by
  obtain ⟨stem, isFile⟩ := sink.language.exists_stem unit.name
  obtain ⟨front, last, parts⟩ : ∃ front last,
      (Path.ofText (sink.language.fileName unit.name)).parts =
        front ++ [last ++ sink.language.ending] := by
    rw [isFile]
    cases sink.language <;> exact Path.ofText_parts (by decide) (by decide) stem
  unfold pathOf Path.join
  split
  · exact ⟨front, last, parts⟩
  · exact ⟨sink.directory.parts ++ front, last, by rw [parts, List.append_assoc]⟩

/-- A unit is written to a file with the ending of the language. -/
theorem place_pathOf (sink : Sink) (unit : OutputUnit) (here : Place) :
    ∃ directory stem, (sink.pathOf unit).place here =
      directory ++ [stem ++ sink.language.ending] := by
  obtain ⟨front, stem, parts⟩ := sink.pathOf_parts unit
  exact ⟨_, stem, Path.place_concat parts (ending_ne_back sink.language stem) here⟩

/-- A unit whose name has no slash is written into the output directory. -/
theorem place_pathOf_of_name (sink : Sink) {unit : OutputUnit}
    (whole : '/' ∉ (sink.language.fileName unit.name).toList) (here : Place) :
    (sink.pathOf unit).place here =
      sink.directory.place here ++ [sink.language.fileName unit.name] := by
  obtain ⟨stem, isFile⟩ := sink.language.exists_stem unit.name
  refine Path.place_join whole ?_ ?_ sink.directory here
  · rw [isFile, String.toList_append]
    exact Path.isIdle_append (by cases sink.language <;> decide)
  · rw [isFile]
    exact ending_ne_back sink.language stem

end Output.Sink

/-! ## Python files -/

/-- The name of a module starts with a letter or a digit. -/
theorem Naming.isAlphanum_of_head?_moduleName {text : String} {c : Char}
    (first : (moduleName text).toList.head? = some c) : c.isAlphanum = true := by
  rw [moduleName, String.toList_ofList, joinUnderscore] at first
  cases found : words text.toList with
  | nil =>
      rw [found] at first
      cases first
  | cons word rest =>
      have isWord : word ∈ words text.toList := by simp [found]
      obtain ⟨letter, tail, rfl⟩ := List.exists_cons_of_ne_nil (ne_nil_of_mem_words isWord)
      have isLetter := isAlphanum_of_mem_words isWord letter (by simp)
      have same : letter.toLower = c := by
        rw [found] at first
        cases rest with
        | nil => simpa [lower] using first
        | cons second others => simpa [lower, List.intercalate_cons_cons] using first
      rw [← same]
      exact isAlphanum_toLower isLetter

theorem slash_not_mem_python (name : String) : '/' ∉ (Language.python.fileName name).toList := by
  intro slash
  have member : '/' ∈ (Naming.moduleName name ++ ".py").toList := slash
  rw [String.toList_append, List.mem_append] at member
  rcases member with inName | inEnding
  · rcases Naming.moduleName_plain name _ inName with letter | underscore
    · exact absurd letter (by decide)
    · cases underscore
  · exact absurd inEnding (by decide)

/-- No unit is written to the support file of Python. -/
theorem fileName_ne_support (language : Language) {file : String × String}
    (isSupport : file ∈ language.supportFiles) (name : String) :
    language.fileName name ≠ file.1 := by
  cases language with
  | kotlin => cases isSupport
  | python =>
      cases List.mem_singleton.mp isSupport
      intro same
      have head : (Naming.moduleName name ++ ".py").toList.head? = some '_' := by
        rw [show Naming.moduleName name ++ ".py" = "__init__.py" from same]
        decide
      rw [String.toList_append, List.head?_append] at head
      cases first : (Naming.moduleName name).toList.head? with
      | none =>
          rw [first] at head
          exact absurd head (by decide)
      | some c =>
          rw [first] at head
          cases head
          exact absurd (Naming.isAlphanum_of_head?_moduleName first) (by decide)

end SchemaCompiler
