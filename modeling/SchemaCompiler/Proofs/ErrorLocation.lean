import SchemaCompiler.Proofs.CompileFault
import SchemaCompiler.Proofs.Compilation

/-!
# Errors point into the document

Whatever stage an error comes from, it is passed on under the name of the document that was
compiled. Errors of the search for the section say no more than a line. All others are errors of one
declaration: they name it by its key in the section, and the line, if there is one, is that of a
node below that key. This holds as well for what is done long after the node was met, such as
linking aliases, compiling constraints and looking for cycles.
-/

namespace SchemaCompiler

open Document (Node Entries)

namespace Schema

/-- Failures that leave it open which document they are in. -/
def Failure.Unplaced : Failure → Prop
  | .error found => found.location.document = none
  | .fault _ => True

theorem findSteps_unplaced (passed : List String) (node : Node) (steps : List PathStep) :
    Outcome Failure.Unplaced (fun _ => True) (findSteps passed node steps) := by
  induction steps generalizing passed node with
  | nil => exact .ok trivial
  | cons step rest ih =>
      cases step with
      | other type => exact .error trivial
      | key name =>
          cases node with
          | mapping line entries =>
              rw [findSteps]
              split
              · exact ih _ _
              · exact .error rfl
          | scalar | sequence => exact .error rfl
          | absent => exact .error trivial

theorem findSection_unplaced (root : Option Node) (path : SectionPath) :
    Outcome Failure.Unplaced (fun _ => True) (findSection root path) := by
  unfold findSection
  cases root with
  | none =>
      cases path with
      | missing => exact .error trivial
      | steps | mapping | set | other => exact .error rfl
  | some node =>
      cases node with
      | scalar | sequence | absent =>
          cases path with
          | missing => exact .error trivial
          | steps | mapping | set | other => exact .error rfl
      | mapping line entries =>
          cases path with
          | missing | mapping | set | other => exact .error trivial
          | steps steps =>
              refine (findSteps_unplaced [] (.mapping line entries) steps).bind fun found _ => ?_
              obtain ⟨keys, node⟩ := found
              cases node with
              | mapping => exact .ok trivial
              | scalar | sequence => exact .error rfl
              | absent => exact .error trivial

/-- The error before its document was named. -/
theorem exists_of_within {α : Type} {name : String} {result : Except Failure α} {error : Error}
    (failed : result.mapError (·.within name) = .error (.error error)) :
    ∃ raw : Error, result = .error (.error raw) ∧ error = raw.within name := by
  cases result with
  | ok value => cases failed
  | error failure =>
      cases failure with
      | error raw =>
          cases failed
          exact ⟨raw, rfl, rfl⟩
      | fault fault => cases failed

theorem document_within {error : Error} (unplaced : error.location.document = none)
    (name : String) :
    (error.within name).location.document = some name := by
  show some (error.location.document.getD name) = some name
  rw [unplaced]
  rfl

end Schema

namespace Compiler

open Schema (Error)

/-- **Errors point into the document.** An error of compiling a document names that document. Once
the section of declarations has been found, it names one of them by its key, and its line is that of
a node below that key. -/
theorem errors_point_into_document (compiler : Compiler) {name : String} {root : Option Node}
    {error : Error} (failed : (compiler.compile name root).outcome.1 = .error (.error error)) :
    error.location.document = some name ∧
    ∀ line entries, Schema.findSection root compiler.settings.sectionPath = .ok (line, entries) →
      ∃ key node, (key, node) ∈ entries ∧ error.location.declaration = some key ∧
        ∀ line ∈ error.location.line, ∃ inner, node.Inside inner ∧ inner.line? = some line := by
  rw [(compiler.compile_gives name root).outcome_eq] at failed
  obtain ⟨raw, raised, rfl⟩ := Schema.exists_of_within failed
  cases search : Schema.findSection root compiler.settings.sectionPath with
  | error failure =>
      rw [search] at raised
      cases raised
      have unplaced := (Schema.findSection_unplaced _ _).failure _ search
      exact ⟨Schema.document_within unplaced name, fun _ _ found => by cases found⟩
  | ok found =>
      obtain ⟨line, entries⟩ := found
      rw [search] at raised
      have inside : entries.Inside (.mapping line entries) := Node.Inside.self.entries
      obtain ⟨entry, member, fails⟩ := (Schema.compileSection_yields inside name _).failure _ raised
      cases fails with
      | error here =>
          refine ⟨Schema.document_within here.document name, ?_⟩
          rintro _ _ ⟨⟩
          exact ⟨entry.1, entry.2, member, here.named, here.line⟩

/-- A compiler of documents that have their declarations under one key. -/
def underKey : Compiler :=
  { settings := { schemasPath := some (.list [.text "D"]) }, language := .python }

/-- The declaration of a shelf, whose books have a title with a length that is no number. -/
def shelfNode : Node :=
  .mapping 4 [("type", .scalar 4 (.text "object")), ("properties", .mapping 5 [
    ("books", .mapping 6 [("type", .scalar 6 (.text "array")), ("items", .mapping 7 [
      ("type", .scalar 7 (.text "object")), ("properties", .mapping 8 [
        ("title", .mapping 9 [("type", .scalar 9 (.text "string")), ("validate", .sequence 10 [
          .mapping 11
            [("pattern", .scalar 11 (.text "minLength")),
              ("value", .scalar 12 (.text "two"))]])])])])])])]

/-- A document that declares a shelf behind something else. -/
def shelfDocument : Node :=
  .mapping 1 [("D", .mapping 2 [
    ("tag", .mapping 3 [("type", .scalar 3 (.text "string"))]),
    ("shelf", shelfNode)])]

def lengthError : Error where
  cause := .lengthExpected "minLength" "str 'two'"
  location :=
    { document := some "a.yaml"
      declaration := some "shelf"
      field := some "books[].title"
      line := some 11 }

/-- Lengths are looked at last. The error of this one names the shelf, and a line below it. -/
theorem length_error_points_into_shelf :
    (underKey.compile "a.yaml" (some shelfDocument)).outcome.1 = .error (.error lengthError) ∧
      lengthError.location.document = some "a.yaml" ∧
      ∃ inner, shelfNode.Inside inner ∧ inner.line? = some 11 := by
  have failed : (underKey.compile "a.yaml" (some shelfDocument)).outcome.1 =
      .error (.error lengthError) := by
    decide +kernel
  obtain ⟨document, points⟩ := errors_point_into_document underKey failed
  refine ⟨failed, document, ?_⟩
  obtain ⟨key, node, member, named, lines⟩ := points 2 _ rfl
  cases named
  -- the other declaration has another name
  rcases List.mem_cons.mp member with other | shelf
  · exact absurd (congrArg Prod.fst other) (show "shelf" ≠ "tag" by decide)
  · cases List.mem_singleton.mp shelf
    exact lines 11 rfl

end Compiler

end SchemaCompiler
