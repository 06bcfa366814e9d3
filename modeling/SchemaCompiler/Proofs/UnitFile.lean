import SchemaCompiler.Proofs.Confinement
import SchemaCompiler.Proofs.ModuleName

/-!
# The files of a document

Whatever a document calls its types, their units are named by letters and digits, and so are the
shared units. In both languages such a name gives a file that is a single part of a path and no
support file. So a write of the units of a document changes files in the output directory only.
-/

namespace SchemaCompiler

open FileSystem (Path Place)
open Output (Sink SinkState)
open Target (Language OutputUnit)

/-! ## Names of files -/

namespace Target.Language

/-- Files that are named by letters, digits and underscores and by the ending of a language. The
first character is neither an underscore nor a dot. -/
structure PlainFile (language : Language) (file : String) : Prop where
  stem : ∃ stem, stem ≠ "" ∧ Naming.IsPlain stem ∧ file = stem ++ language.ending
  start : ∀ c ∈ file.toList.head?, c ≠ '_' ∧ c ≠ '.'

variable {language : Language} {file : String}

theorem PlainFile.of_stem {stem : String} (plain : Naming.IsPlain stem)
    (start : stem.toList.head?.any Char.isAlphanum = true) :
    language.PlainFile (stem ++ language.ending) := by
  cases chars : stem.toList with
  | nil =>
      rw [chars] at start
      cases start
  | cons first rest =>
      have letter : first.isAlphanum = true := by simpa [chars] using start
      refine ⟨⟨stem, ?_, plain, rfl⟩, ?_⟩
      · rintro rfl
        cases chars
      · rw [String.toList_append, chars]
        rintro c ⟨⟩
        constructor
        · rintro rfl
          exact absurd letter (by decide)
        · rintro rfl
          exact absurd letter (by decide)

/-- Units that are named by letters and digits have such files in each language. -/
theorem plainFile_fileName (language : Language) {name : String} (nonempty : name ≠ "")
    (letters : ∀ c ∈ name.toList, c.isAlphanum = true) :
    language.PlainFile (language.fileName name) := by
  obtain ⟨first, rest, chars⟩ :=
    List.exists_cons_of_ne_nil (mt String.toList_eq_nil_iff.mp nonempty)
  have letter : first.isAlphanum = true := letters first (by simp [chars])
  cases language with
  | python =>
      -- underscores only stand between words, so the module starts as the name does
      have head := Naming.head?_moduleName name
      rw [Python.leading?_of_letters letters, chars] at head
      refine .of_stem (Naming.moduleName_plain name) ?_
      rw [head]
      exact Naming.isAlphanum_toLower letter
  | kotlin =>
      refine .of_stem (fun c member => .inl (letters c member)) ?_
      rw [chars]
      exact letter

theorem PlainFile.whole (plain : language.PlainFile file) : '/' ∉ file.toList := by
  obtain ⟨stem, _, isPlain, rfl⟩ := plain.stem
  rw [String.toList_append, List.mem_append]
  rintro (inStem | inEnding)
  · exact absurd (isPlain '/' inStem) (by decide)
  · cases language <;> exact absurd inEnding (by decide)

/-- As a path, the file is a single name. -/
theorem PlainFile.ofText_eq (plain : language.PlainFile file) :
    Path.ofText file = { parts := [file] } := by
  refine Path.ofText_of_name plain.whole ?_
  obtain ⟨stem, _, _, rfl⟩ := plain.stem
  rw [String.toList_append]
  exact Path.isIdle_append (by cases language <;> decide)

theorem PlainFile.ne_init (plain : language.PlainFile file) : file ≠ "__init__.py" := by
  rintro rfl
  have underscore : "__init__.py".toList.head? = some '_' := by decide
  exact (plain.start '_' underscore).1 rfl

end Target.Language

/-! ## Units of a document -/

namespace Compiler

open Schema Target

variable {compiler : Compiler} {name : String} {root : Option Document.Node}
    {units : List OutputUnit}

/-- Every unit of a document is named by letters and digits. -/
theorem letters_of_generate (done : (compiler.generate name root).outcome.1 = .ok units)
    {unit : OutputUnit} (member : unit ∈ units) :
    unit.name ≠ "" ∧ ∀ c ∈ unit.name.toList, c.isAlphanum = true := by
  obtain ⟨graph, ofTypes, shared, compiles, rfl, generated⟩ := generate_eq_ok done
  rcases List.mem_append.mp member with ofType | isShared
  · obtain ⟨type, isType, body, _, rfl⟩ := generated.exists_type ofType
    have follows := followsSource_of_compile compiles type isType
    exact ⟨follows.name_ne_empty, follows.letters⟩
  · have fixed : ∀ name ∈ [validationUnit, markerUnit], name ≠ "" ∧
        name.toList.all Char.isAlphanum = true := by
      decide
    have named :
      unit.name ∈ [validationUnit, markerUnit] := by
        simpa using (generated.of_mem_shared isShared).2.2
    exact (fixed unit.name named).imp_right List.all_eq_true.mp

theorem plainFile_of_generate (done : (compiler.generate name root).outcome.1 = .ok units)
    {unit : OutputUnit} (member : unit ∈ units) (language : Language) :
    language.PlainFile (unit.file language) := by
  obtain ⟨nonempty, letters⟩ := letters_of_generate done member
  exact language.plainFile_fileName nonempty letters

end Compiler

/-! ## Writing into a directory -/

/-- The names of the files in the output directory that a write of units may change. -/
def Output.Sink.fileNames (sink : Sink) (units : List OutputUnit) : List String :=
  units.map (·.file sink.language) ++ sink.language.supportFiles.map (·.1)

/-- A write of units with plain files changes only these and the support files, all in the output
directory. -/
theorem Output.Sink.write_inside {units : List OutputUnit} {start : SinkState}
    (plain : ∀ unit ∈ units, start.sink.language.PlainFile (unit.file start.sink.language))
    {settings : Settings} {place : Place}
    (changed : ((write settings units).run.run start).2.content? place ≠ start.content? place) :
    ∃ file ∈ start.sink.fileNames units, place =
      start.sink.directory.place start.disk.here ++ [file] := by
  rcases (write_confined settings units start).kept.content place with
    same | ⟨_, ⟨unit, member, fills⟩ | ⟨file, isSupport, fills⟩, _⟩
  · exact absurd same changed
  -- without a slash in the file, the path of the unit adds one name to the output directory
  · refine ⟨unit.file start.sink.language, List.mem_append_left _ (List.mem_map_of_mem member), ?_⟩
    exact fills.target.symm.trans
      (start.sink.place_pathOf_of_name (plain unit member).whole start.disk.here)
  · refine ⟨file.1, List.mem_append_right _ (List.mem_map_of_mem isSupport), ?_⟩
    exact fills.target.symm.trans (support_eq start isSupport)

namespace Compiler

/-- **The files of a document stay inside the output directory.** In both languages the file of each
unit is named by letters, digits and underscores before the ending of the language. It is a single
part of a path, it starts with neither an underscore nor a dot, and it is not `__init__.py`. No two
units of the document have one file. So whatever sink the units are written with, and whatever
strikes the disk, the files that change are those of the units and the support files, each directly
in the output directory. -/
theorem generate_stays_inside {compiler : Compiler} {name : String} {root : Option Document.Node}
    {units : List OutputUnit} (done : (compiler.generate name root).outcome.1 = .ok units) :
    (∀ unit ∈ units, ∀ language : Language,
      language.PlainFile (unit.file language) ∧
      Path.ofText (unit.file language) = { parts := [unit.file language] } ∧
      unit.file language ≠ "__init__.py") ∧
    (units.map (·.file compiler.language)).Nodup ∧
    ∀ (settings : Settings) (start : SinkState) (place : Place),
      ((Sink.write settings units).run.run start).2.content? place ≠ start.content? place →
      ∃ file ∈ start.sink.fileNames units, place =
        start.sink.directory.place start.disk.here ++ [file] := by
  refine ⟨fun unit member language => ?_, ?_, fun settings start place changed => ?_⟩
  · have plain := plainFile_of_generate done member language
    exact ⟨plain, plain.ofText_eq, plain.ne_init⟩
  · obtain ⟨graph, ofTypes, shared, _, rfl, generated⟩ := generate_eq_ok done
    exact generated.files
  · exact Sink.write_inside (fun unit member => plainFile_of_generate done member _) changed

/-- A document whose keys have slashes, dots and a letter that is not ASCII. The object without a
name asks for that of the second declaration. -/
def steppingBack : Document.Node :=
  .mapping 1 [("D", .mapping 1 [
    ("../étc/__init__.py", .mapping 2
      [("type", .scalar 2 (.text "object")), ("properties", .mapping 3 [
      ("/A b", .mapping 3 [("type", .scalar 3 (.text "object"))]),
      ("..\\_list", .mapping 4 [("type", .scalar 4 (.text "array")), ("items", .mapping 4 [
        ("type", .scalar 4 (.text "object"))])])])]),
    ("a/b", .mapping 5 [("type", .scalar 5 (.text "string"))])])]

theorem steppingBack_stays_inside :
    ∃ units, ((bareCompiler .python).generate "d" (some steppingBack)).outcome.1 = .ok units ∧
      units.map (·.file .python) = ["tc_init_py.py", "ab.py", "ab_2.py", "list_item.py"] ∧
      (∀ unit ∈ units, ∀ language : Language, language.PlainFile (unit.file language)) ∧
      (units.map (·.file .python)).Nodup ∧
      ∀ settings place, place.head? ≠ some "out" →
        ((Sink.write settings units).run.run Sink.nearlyFull).2.content? place =
          Sink.nearlyFull.content? place := by
  have files : ((bareCompiler .python).generate "d" (some steppingBack)).outcome.1.toOption.map
      (·.map (·.file .python)) = some ["tc_init_py.py", "ab.py", "ab_2.py", "list_item.py"] := by
        decide +kernel
  obtain ⟨units, found, named⟩ := Option.map_eq_some_iff.mp files
  have done := Schema.eq_ok_of_toOption found
  obtain ⟨plain, distinct, inside⟩ := generate_stays_inside done
  refine ⟨units, done, named, fun unit member language => (plain unit member language).1,
    distinct, ?_⟩
  intro settings place outside
  by_contra changed
  obtain ⟨file, _, rfl⟩ := inside settings Sink.nearlyFull place changed
  have directory : Sink.nearlyFull.sink.directory.place Sink.nearlyFull.disk.here =
    ["out"] := by decide
  exact outside (by rw [directory]; rfl)

end Compiler

end SchemaCompiler
