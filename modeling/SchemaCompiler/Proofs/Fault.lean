import SchemaCompiler.Proofs.Analysis

/-!
# How declarations fail

Reading a declaration can end in a fault for two reasons. An integer with too many digits cannot be
shown, and a text can be a regular expression that cannot be checked. Either value stands in the
tree of the declaration (`Raises`). A place that is open would be a third reason, but trees of
documents have none. Every other failure is an error, and it names the declaration and a line of its
tree (`FailsIn`).

Each function of the analysis is taken by itself: what it yields, given that what it reads stands in
the tree. A section fails as one of its declarations does (`FailsAmong`).
-/

namespace SchemaCompiler

namespace Document

/-! ## Nodes in a tree -/

/-- The nodes that stand in a tree. -/
inductive Node.Inside (root : Node) : Node → Prop
  | self : root.Inside root
  | item {line : Int} {items : List Node} {node : Node} :
      root.Inside (.sequence line items) → node ∈ items → root.Inside node
  | entry {line : Int} {entries : Entries} {key : String} {node : Node} :
      root.Inside (.mapping line entries) → (key, node) ∈ entries → root.Inside node

theorem Node.Inside.trans {root middle node : Node} (first : root.Inside middle)
    (second : middle.Inside node) :
    root.Inside node := by
  induction second with
  | self => exact first
  | item _ member ih => exact .item ih member
  | entry _ member ih => exact .entry ih member

/-- Entries whose values stand in a tree. -/
def Entries.Inside (root : Node) (entries : Entries) : Prop :=
  ∀ entry ∈ entries, root.Inside entry.2

theorem Node.Inside.entries {root : Node} {line : Int} {entries : Entries}
    (inside : root.Inside (.mapping line entries)) : entries.Inside root :=
  fun _ member => .entry inside member

/-- What is found under a key stands where the entries stand. -/
theorem Entries.Inside.get? {root node : Node} {entries : Entries} {key : String}
    (inside : entries.Inside root) (found : entries.get? key = some node) : root.Inside node := by
  obtain ⟨place, placed, present⟩ := Option.bind_eq_some_iff.mp found
  cases Node.eq_of_present? present
  obtain ⟨before, after, rfl, _⟩ := List.lookup_eq_some_iff.mp placed
  exact inside (key, node) (by simp)

/-- The scalar under a key is null or stands where the entries stand. -/
theorem Entries.Inside.scalar {root : Node} {entries : Entries} (inside : entries.Inside root)
    (key : String) :
    entries.scalar key = .null ∨ ∃ line, root.Inside (.scalar line (entries.scalar key)) := by
  unfold Entries.scalar
  cases found : (entries.get? key).bind Node.scalar? with
  | none => exact .inl rfl
  | some value =>
      obtain ⟨node, isNode, isScalar⟩ := Option.bind_eq_some_iff.mp found
      cases node with
      | scalar line other =>
          cases isScalar
          exact .inr ⟨line, inside.get? isNode⟩
      | sequence | mapping | absent => cases isScalar

end Document

namespace Schema

open Document (Node Entries Scalar)

/-! ## Faults and values of results -/

/-- The failures that are errors, or one of some faults. -/
def Failure.In (allowed : Fault → Prop) : Failure → Prop
  | .error _ => True
  | .fault cause => allowed cause

/-- Results that are a value of some kind, an error, or one of some faults. -/
abbrev Yields {α : Type} (allowed : Fault → Prop) (holds : α → Prop) (result : Except Failure α) :
    Prop :=
  Outcome (Failure.In allowed) holds result

end Schema

namespace Outcome

open Schema

variable {α : Type} {allowed : Fault → Prop} {holds : α → Prop} {result : Except Failure α}

theorem fail (cause : Cause) (location : Location) :
    Yields allowed holds (Schema.fail cause location : Except Failure α) := .error trivial

theorem ofFault {fault : Fault} (isAllowed : allowed fault) :
    Yields allowed holds (.error (.fault fault) : Except Failure α) := .error isAllowed

theorem allowFaults {wider : Fault → Prop} (first : Yields allowed holds result)
    (more : ∀ fault, allowed fault → wider fault) : Yields wider holds result :=
  first.allow fun failure here => by
    cases failure with
    | error error => trivial
    | fault fault => exact more fault here

/-- What fails with errors only has no faults. -/
theorem ofResult (result : Except Error α) :
    Yields allowed (fun _ => True) (result.mapError Failure.error) := by
  cases result with
  | error error => exact .error trivial
  | ok value => exact .ok trivial

/-- Naming the document in a failure keeps faults. -/
theorem within (document : String) (first : Yields allowed holds result) :
    Yields allowed holds (result.mapError (·.within document)) :=
  first.mapError fun failure here => by
    cases failure with
    | error error => trivial
    | fault fault => exact here

end Outcome

namespace Schema

open Document (Node Entries Scalar)

/-- Computations that have such an outcome whatever was recorded before. -/
def Logged.Yields {α : Type} (allowed : Failure → Prop) (holds : α → Prop)
    (computation : Logged α) : Prop :=
  ∀ log, Outcome allowed holds (computation.run log).1

namespace Logged.Yields

variable {α β : Type} {allowed wider : Failure → Prop} {holds : α → Prop} {computation : Logged α}

theorem ofExcept {result : Except Failure α} (yields : Outcome allowed holds result) :
    Logged.Yields allowed holds (Logged.ofExcept result) := fun _ => yields

theorem pure {value : α} (here : holds value) : Logged.Yields allowed holds (pure value) :=
  fun _ => .ok here

theorem note (entry : LogEntry) : Logged.Yields allowed (fun _ => True) (Logged.note entry) :=
  fun _ => .ok trivial

theorem allow (first : Logged.Yields allowed holds computation)
    (more : ∀ failure, allowed failure → wider failure) : Logged.Yields wider holds computation :=
  fun log => (first log).allow more

theorem bind {next : α → Logged β} {after : β → Prop}
    (first : Logged.Yields allowed holds computation)
    (second : ∀ value, holds value → Logged.Yields allowed after (next value)) :
    Logged.Yields allowed after (computation >>= next) := by
  intro log
  have here := first log
  show Outcome allowed after
    (ExceptT.bindCont next (computation.run log).1 (computation.run log).2).1
  cases outcome : (computation.run log).1 with
  | error failure =>
      rw [outcome] at here
      exact .error (here.failure failure rfl)
  | ok value =>
      rw [outcome] at here
      exact second value (here.value value rfl) _

end Logged.Yields

/-! ## Failures of a declaration -/

/-- The faults that compiling a tree can end in, each with the value in the tree that it comes from.
Regular expressions are looked into only if they are checked. -/
inductive Raises (root : Node) (checksRegex : Bool) : Fault → Prop
  | integer {line : Int} {value : Int} :
      root.Inside (.scalar line (.int value)) → Number.decimal? value = none →
      Raises root checksRegex .integerTooLong
  | pattern {line : Int} {text : String} {fault : Pattern.Fault} :
      checksRegex = true → root.Inside (.scalar line (.text text)) →
      Pattern.check text.toList = .error (.fault fault) → Raises root checksRegex (.pattern fault)

/-- Trees without open places. -/
def Complete (root : Node) : Prop := ¬root.Inside .absent

/-- The locations in a declaration: its name, and the line of a node in its tree or none. The
document is not named yet. -/
structure Location.In (root : Node) (name : String) (location : Location) : Prop where
  named : location.declaration = some name
  line : ∀ line ∈ location.line, ∃ node, root.Inside node ∧ node.line? = some line
  document : location.document = none

/-- How a declaration can fail: with an error in it, for a value in its tree, or at an open place of
its tree. -/
inductive FailsIn (root : Node) (name : String) (checksRegex : Bool) : Failure → Prop
  | error {error : Error} :
      error.location.In root name → FailsIn root name checksRegex (.error error)
  | value {fault : Fault} :
      Raises root checksRegex fault → FailsIn root name checksRegex (.fault fault)
  | gap : root.Inside .absent → FailsIn root name checksRegex (.fault .nodeAbsent)

section Tree

variable {root : Node} {name : String} {checksRegex : Bool} {α : Type} {holds : α → Prop}
    {location : Location}

theorem Location.In.ofName (name : String) (field : Option String) :
    Location.In root name { declaration := some name, field } := ⟨rfl, by simp, rfl⟩

theorem Location.In.ofNode {node : Node} (inside : root.Inside node) (name : String)
    (field : Option String) :
    Location.In root name { declaration := some name, field, line := node.line? } :=
  ⟨rfl, fun _ found => ⟨node, inside, found⟩, rfl⟩

theorem fail_yields (here : location.In root name) (cause : Cause) :
    Outcome (FailsIn root name checksRegex) holds (fail cause location) := .error (.error here)

theorem failAt_yields {node : Node} (inside : root.Inside node) (here : location.In root name)
    (cause : Cause) :
    Outcome (FailsIn root name checksRegex) holds (failAt node cause location) := by
  cases node with
  | scalar line | sequence line | mapping line =>
      refine .error (.error ⟨here.named, ?_, here.document⟩)
      rintro _ ⟨⟩
      exact ⟨_, inside, rfl⟩
  | absent => exact .error (.gap inside)

theorem plain?_eq_none {scalar : Scalar} (unshown : scalar.plain? = none) :
    ∃ value, scalar = .int value ∧ Number.decimal? value = none := by
  cases scalar with
  | int value => exact ⟨value, rfl, unshown⟩
  | null | bool | float | text => cases unshown

theorem shown?_eq_none {scalar : Scalar} (unshown : scalar.shown? = none) :
    scalar.plain? = none := by
  cases scalar with
  | text => cases unshown
  | null | bool | int | float => exact unshown

theorem showScalar_yields {line : Int} {scalar : Scalar}
    (inside : root.Inside (.scalar line scalar)) :
    Outcome (FailsIn root name checksRegex) (fun _ => True) (showScalar scalar) := by
  unfold showScalar
  split
  · exact .ok trivial
  next unshown =>
    obtain ⟨value, rfl, long⟩ := plain?_eq_none (shown?_eq_none unshown)
    exact .error (.value (.integer inside long))

theorem showEntry_yields {entries : Entries} (inside : entries.Inside root) (key : String) :
    Outcome (FailsIn root name checksRegex) (fun _ => True) (showScalar (entries.scalar key)) := by
  rcases inside.scalar key with isNull | ⟨line, stands⟩
  · rw [isNull]
    exact .ok trivial
  · exact showScalar_yields stands

/-! ## Analysis -/

theorem referenceText_yields {node : Node} (inside : root.Inside node)
    (here : location.In root name) :
    Outcome (FailsIn root name checksRegex) (fun _ => True) (referenceText location node) := by
  unfold referenceText
  split
  · exact .ok trivial
  · exact failAt_yields inside here _

theorem provisionalBody_yields {entries : Entries} (inside : entries.Inside root)
    (here : location.In root name) :
    Outcome (FailsIn root name checksRegex) (fun _ => True) (provisionalBody location entries) := by
  unfold provisionalBody
  dsimp only
  split
  · exact .ok trivial
  split
  · exact .ok trivial
  split
  · exact .ok trivial
  split
  · exact .ok trivial
  split
  next node found =>
    exact (referenceText_yields (inside.get? found) here).bind fun _ _ => .ok trivial
  split
  · exact fail_yields here _
  next =>
    split
    · exact (showEntry_yields inside "type").bind fun _ _ => fail_yields here _
    · exact .ok trivial
  next => exact (showEntry_yields inside "type").bind fun _ _ => fail_yields here _

theorem provisional_yields {node : Node} (inside : root.Inside node) (name : String) :
    Outcome (FailsIn root name checksRegex) (fun _ => True) (provisional name node) := by
  have here := Location.In.ofNode inside name none
  unfold provisional
  dsimp only
  split
  · exact failAt_yields inside here _
  split
  next => exact (provisionalBody_yields inside.entries here).bind fun _ _ => .ok trivial
  next => exact failAt_yields inside here _

/-- What is still to be compiled for a declaration: nodes of its tree. -/
def Defers (root : Node) (name : String) (pending : List Pending) : Prop :=
  ∀ one ∈ pending, one.path.declaration = name ∧ root.Inside one.node

theorem defers_nil : Defers root name [] := by simp [Defers]

/-- Shapes for which only nodes of a declaration are still to be compiled. -/
def Shape.Defers (root : Node) (name : String) (shape : Shape) : Prop :=
  ∀ start, Schema.Defers root name (shape.pending start)

def FieldShapes.Defers (root : Node) (name : String) (fields : FieldShapes) : Prop :=
  ∀ owner start, Schema.Defers root name (fields.pending owner start)

theorem nameShape_yields (here : location.In root name) (known : String → Bool) (target : String)
    (pointer : Bool) :
    Outcome (FailsIn root name checksRegex) (Shape.Defers root name)
      (nameShape known target pointer location) := by
  have declared (target : String) : (Shape.declared target).Defers root name := fun _ => defers_nil
  unfold nameShape
  split
  · split
    · split
      · exact .ok (declared _)
      · exact fail_yields here _
    · exact fail_yields here _
  · split
    · exact .ok (declared _)
    · exact fail_yields here _

theorem requiredOf_yields {entries : Entries} (inside : entries.Inside root)
    (here : location.In root name) :
    Outcome (FailsIn root name checksRegex) (fun _ => True) (requiredOf location entries) := by
  unfold requiredOf
  split
  · exact .ok trivial
  · exact .ok trivial
  next node found => exact failAt_yields (inside.get? found) here _

theorem FieldShapes.defers_cons {head : FieldHead} {type : Shape} {rest : FieldShapes}
    (own : head.path.declaration = name) (validate : ∀ node ∈ head.validate, root.Inside node)
    (typeDefers : type.Defers root name) (restDefers : rest.Defers root name) :
    (FieldShapes.cons head type rest).Defers root name := by
  intro owner start pending member
  rw [FieldShapes.pending, List.mem_append, List.mem_append] at member
  rcases member with (inType | here) | later
  · exact typeDefers start pending inType
  · obtain ⟨node, isNode, rfl⟩ := List.mem_map.mp here
    exact ⟨own, validate node (Option.mem_toList.mp isNode)⟩
  · exact restDefers owner _ pending later

mutual

theorem objectShape_yields {entries : Entries} (inside : entries.Inside root)
    (known : String → Bool) (name path : String) :
    Outcome (FailsIn root name checksRegex) (FieldShapes.Defers root name)
      (objectShape known name path entries) := by
  have none : FieldShapes.nil.Defers root name := fun _ _ => defers_nil
  rw [objectShape_eq]
  split
  · exact .ok none
  · exact .ok none
  next line properties found =>
    have smaller := Entries.sizeOf_lt_of_get? found
    exact fieldShapes_yields (inside.get? found).entries known name path []
  next node _ _ found => exact failAt_yields (inside.get? found) (.ofName name _) _
termination_by 2 * sizeOf entries
decreasing_by
  simp only [Node.mapping.sizeOf_spec] at smaller
  omega

theorem fieldShapes_yields {properties : Entries} (inside : properties.Inside root)
    (known : String → Bool) (name path : String) (seen : List (String × String)) :
    Outcome (FailsIn root name checksRegex) (FieldShapes.Defers root name)
      (fieldShapes known name path seen properties) := by
  match properties with
  | [] =>
      rw [fieldShapes]
      exact .ok fun _ _ => defers_nil
  | (property, node) :: rest =>
      obtain ⟨stands, others⟩ := List.forall_mem_cons.mp inside
      have here : Location.In root name _ := .ofName name (some (fieldPath path property))
      rw [fieldShapes.eq_def]
      dsimp only
      split
      · exact failAt_yields stands here _
      split
      · exact failAt_yields stands here _
      split
      next line entries =>
        refine (requiredOf_yields stands.entries here).bind fun required _ => ?_
        refine (typeShape_yields stands known name _ property).bind fun type typeDefers => ?_
        refine (fieldShapes_yields others known name path _).bind fun fields fieldsDefer => ?_
        exact .ok
          (FieldShapes.defers_cons rfl (fun node found => stands.entries.get? found)
            typeDefers fieldsDefer)
      next => exact failAt_yields stands here _
termination_by 2 * sizeOf properties

theorem typeShape_yields {line : Int} {entries : Entries}
    (inside : root.Inside (.mapping line entries)) (known : String → Bool)
    (name path baseName : String) :
    Outcome (FailsIn root name checksRegex) (Shape.Defers root name)
      (typeShape known name path baseName line entries) := by
  have here : Location.In root name _ := .ofNode inside name (some path)
  rw [typeShape]
  split
  next node found =>
    have stands := inside.entries.get? found
    refine (referenceText_yields stands here).bind fun reference _ => ?_
    exact nameShape_yields (.ofNode stands name _) known reference true
  · dsimp only
    split
    · exact (objectShape_yields inside.entries known name path).map fun fields defers start =>
        defers start (start + 1)
    split
    · exact arrayShape_yields inside.entries known name path _
    split
    · exact .ok fun _ => defers_nil
    split
    · exact nameShape_yields here known _ false
    split
    · exact fail_yields here _
    · exact (showEntry_yields inside.entries "type").bind fun _ _ => fail_yields here _
termination_by 2 * sizeOf entries + 1

theorem arrayShape_yields {entries : Entries} (inside : entries.Inside root) (known : String → Bool)
    (name path ownerName : String) :
    Outcome (FailsIn root name checksRegex) (Shape.Defers root name)
      (arrayShape known name path ownerName entries) := by
  have none : (Shape.array .any).Defers root name := fun _ => defers_nil
  rw [arrayShape_eq]
  split
  · exact .ok none
  · exact .ok none
  next line items found =>
    have smaller := Entries.sizeOf_lt_of_get? found
    exact (typeShape_yields (inside.get? found) known name _ _).map fun shape defers => defers
  next node _ _ found => exact failAt_yields (inside.get? found) (.ofName name _) _
termination_by 2 * sizeOf entries
decreasing_by
  simp only [Node.mapping.sizeOf_spec] at smaller
  omega

end

theorem enumConstants_yields (name : String) {nodes : List Node}
    (inside : ∀ node ∈ nodes, root.Inside node) {seen : List (String × Scalar)}
    (seenInside : ∀ pair ∈ seen, ∃ line, root.Inside (.scalar line pair.2)) :
    Outcome (FailsIn root name checksRegex) (fun _ => True) (enumConstants name seen nodes) := by
  induction nodes generalizing seen with
  | nil => exact .ok trivial
  | cons node rest ih =>
      obtain ⟨stands, others⟩ := List.forall_mem_cons.mp inside
      have here := Location.In.ofNode stands name none
      unfold enumConstants
      dsimp only
      split
      next line value =>
        split
        · exact fail_yields here _
        split
        next unshown =>
          obtain ⟨integer, rfl, long⟩ := plain?_eq_none unshown
          exact .error (.value (.integer stands long))
        split
        · exact (showScalar_yields stands).bind fun _ _ => fail_yields here _
        split
        next other found =>
          -- the value that gave the constant before is one of the same list
          obtain ⟨before, after, rfl, _⟩ := List.lookup_eq_some_iff.mp found
          obtain ⟨otherLine, otherInside⟩ := seenInside (_, other) (List.mem_append_cons_self)
          refine (showScalar_yields otherInside).bind fun _ _ => ?_
          exact (showScalar_yields stands).bind fun _ _ => fail_yields here _
        next =>
          refine (ih others ?_).bind fun _ _ => .ok trivial
          intro pair member
          rcases List.mem_append.mp member with old | new
          · exact seenInside pair old
          · rw [List.mem_singleton.mp new]
            exact ⟨line, stands⟩
      next => exact failAt_yields stands here _

theorem resolveEnum_yields {line : Int} {entries : Entries}
    (inside : root.Inside (.mapping line entries)) (name : String) :
    Outcome (FailsIn root name checksRegex) (fun _ => True) (resolveEnum name line entries) := by
  unfold resolveEnum
  split
  next found => exact fail_yields (.ofNode (inside.entries.get? found) name none) _
  next found =>
    refine enumConstants_yields name (fun node member => ?_) (by simp)
    exact .item (inside.entries.get? found) member
  next found => exact fail_yields (.ofNode (inside.entries.get? found) name none) _
  · exact fail_yields (.ofNode inside name none) _

/-- Declarations for which only nodes of their tree are still to be compiled. -/
def DeclarationShape.Defers (root : Node) (name : String) (shape : DeclarationShape) : Prop :=
  ∀ owner start, Schema.Defers root name (shape.pending owner start)

theorem bodyShape_yields {line : Int} {entries : Entries}
    (inside : root.Inside (.mapping line entries)) (known : String → Bool) (name : String)
    (body : Body) :
    Outcome (FailsIn root name checksRegex) (DeclarationShape.Defers root name)
      (bodyShape known name line entries body) := by
  have here : Location.In root name _ := .ofNode inside name none
  unfold bodyShape
  split
  · exact (objectShape_yields inside.entries known name "").map fun fields defers => defers
  · exact (resolveEnum_yields inside name).map fun values _ _ _ => defers_nil
  · exact (arrayShape_yields inside.entries known name "" _).map fun shape defers owner => defers
  · exact (nameShape_yields here known _ _).map fun shape defers owner => defers
  · exact .ok fun _ _ => defers_nil
  · exact fail_yields here _

theorem declarationShape_yields {node : Node} (inside : root.Inside node) (known : String → Bool)
    (name : String) :
    Outcome (FailsIn root name checksRegex) (DeclarationShape.Defers root name)
      (declarationShape known name node) := by
  unfold declarationShape
  refine (provisional_yields inside name).bind fun type _ => ?_
  split
  · exact bodyShape_yields inside known name _
  · exact failAt_yields inside (.ofName name none) _

end Tree

/-! ## Sections -/

/-- How a section can fail: as one of its declarations. -/
def FailsAmong (entries : Entries) (checksRegex : Bool) (failure : Failure) : Prop :=
  ∃ entry ∈ entries, FailsIn entry.2 entry.1 checksRegex failure

section Entries

variable {checksRegex : Bool} {entries : Entries}

theorem FailsAmong.head {failure : Failure} {entry : String × Node}
    (fails : FailsIn entry.2 entry.1 checksRegex failure) :
    FailsAmong (entry :: entries) checksRegex failure :=
  ⟨entry, List.mem_cons_self, fails⟩

theorem FailsAmong.cons {failure : Failure} (entry : String × Node)
    (fails : FailsAmong entries checksRegex failure) :
    FailsAmong (entry :: entries) checksRegex failure := by
  obtain ⟨other, member, here⟩ := fails
  exact ⟨other, List.mem_cons_of_mem _ member, here⟩

/-- A section in a tree without open places fails with an error, or for a value in the tree. -/
theorem FailsAmong.raises {root : Node} (complete : Complete root) (inside : entries.Inside root)
    {failure : Failure} (fails : FailsAmong entries checksRegex failure) :
    Failure.In (Raises root checksRegex) failure := by
  obtain ⟨entry, member, fails⟩ := fails
  cases fails with
  | error => trivial
  | gap stands => exact absurd ((inside entry member).trans stands) complete
  | value raised =>
      cases raised with
      | integer stands long => exact .integer ((inside entry member).trans stands) long
      | pattern checked stands found =>
          exact .pattern checked ((inside entry member).trans stands) found

theorem declare_yields (table : SymbolTable) (name : String) (type : NamedType) (node : Node) :
    Outcome (FailsIn node name checksRegex) (fun _ => True)
      ((table.declare name type node.line?).mapError Failure.error) := by
  have here : Location.In node name _ := .ofNode .self name none
  rcases (SymbolTable.Call.declare name type node.line?).outcome_change table with
    ⟨_, done⟩ | ⟨_, error, located, failed⟩
  · rw [show table.declare name type node.line? = _ from done]
    exact .ok trivial
  · rw [show table.declare name type node.line? = _ from failed]
    exact .error (.error (located ▸ here))

theorem declareAll_yields (entries : Entries) (table : SymbolTable) :
    Outcome (FailsAmong entries checksRegex) (fun _ => True) (declareAll table entries) := by
  induction entries generalizing table with
  | nil => exact .ok trivial
  | cons entry rest ih =>
      refine ((provisional_yields .self entry.1).allow fun _ => .head).bind fun type _ => ?_
      refine ((declare_yields table entry.1 type entry.2).allow fun _ => .head).bind fun table _ =>
        ?_
      exact (ih table).allow fun _ => .cons entry

theorem resolveName_yields (table : SymbolTable) (target : String) (pointer : Bool)
    (location : Location) :
    Outcome (fun error => error.location = location) (fun _ => True)
      (table.resolveName target pointer location) := by
  unfold SymbolTable.resolveName SymbolTable.resolvePointer SymbolTable.resolveToken
  split
  · split
    · split
      · exact .ok trivial
      · exact .error rfl
    · exact .error rfl
  · split
    · exact .ok trivial
    · exact .error rfl

theorem resolveAlias_yields (table : SymbolTable) (name : String) (line : Option Int) :
    Outcome (fun error => error.location = { declaration := some name, line }) (fun _ => True)
      (resolveAlias table name line) := by
  unfold resolveAlias
  split
  · exact .ok trivial
  · split
    · exact .ok trivial
    · exact (resolveName_yields _ _ _ _).bind fun _ _ => .ok trivial

theorem resolveAliases_yields (entries : Entries) (table : SymbolTable) :
    Outcome (fun error => FailsAmong entries checksRegex (.error error)) (fun _ => True)
      (resolveAliases table entries) := by
  induction entries generalizing table with
  | nil => exact .ok trivial
  | cons entry rest ih =>
      refine ((resolveAlias_yields table entry.1 entry.2.line?).allow fun error same => ?_).bind
        fun table _ => ?_
      · refine ⟨entry, List.mem_cons_self, .error ?_⟩
        rw [same]
        exact .ofNode .self entry.1 none
      · exact (ih table).allow fun _ => .cons entry

/-- A cycle is found from an alias, which is then named. -/
theorem checkAliasCycles_yields (types : List NamedType) (starts : List Nat) :
    Outcome (fun error => ∃ type ∈ types, type.target?.isSome ∧
      error.location = { declaration := some type.sourceName }) (fun _ => True)
      (checkAliasCycles types starts) := by
  induction starts with
  | nil => exact .ok trivial
  | cons start rest ih =>
      unfold checkAliasCycles
      split
      · exact ih
      next cycle found =>
        obtain ⟨type, isType, found⟩ := Option.bind_eq_some_iff.mp found
        obtain ⟨target, isTarget, _⟩ := Option.bind_eq_some_iff.mp found
        refine .error ⟨type, List.mem_of_getElem? isType, by rw [isTarget]; rfl, ?_⟩
        rw [isType]
        rfl

/-- An error that only names a declaration of a section. -/
theorem FailsAmong.ofName {error : Error} {name : String} (declared : name ∈ entries.map (·.1))
    (names : error.location = { declaration := some name }) :
    FailsAmong entries checksRegex (.error error) := by
  obtain ⟨entry, member, rfl⟩ := List.mem_map.mp declared
  refine ⟨entry, member, .error ?_⟩
  rw [names]
  exact .ofName entry.1 none

theorem collected_yields (entries : Entries) :
    Outcome (FailsAmong entries checksRegex) (fun _ => True) (collected entries) := by
  refine (declareAll_yields entries {}).known.bind fun declared declaredRead => ?_
  obtain ⟨provisionals, registered, distinct, _, rfl⟩ :=
    declareAll_empty_eq_ok_iff.mp declaredRead.1
  refine ((resolveAliases_yields entries _).mapError fun _ here => here).known.bind
    fun linked linkedRead => ?_
  obtain ⟨types, areCollected, rfl⟩ :=
    (resolveAliases_eq_ok_iff registered [] (numbered_directory distinct)).mp
      (mapError_eq_ok_iff.mp linkedRead.1)
  refine ((checkAliasCycles_yields _ _).mapError ?_).bind fun _ _ => .ok trivial
  rintro error ⟨type, member, _, names⟩
  refine .ofName ?_ names
  obtain ⟨entry, isEntry, read⟩ := exists_left_of_mem areCollected member
  rw [(collectedType_names read).2]
  exact List.mem_map_of_mem isEntry

/-- What is still to be compiled for a section. -/
def DefersAmong (entries : Entries) (pending : List Pending) : Prop :=
  ∀ one ∈ pending, ∃ entry ∈ entries, one.path.declaration = entry.1 ∧ entry.2.Inside one.node

theorem sectionShapes_yields (entries : Entries) (known : String → Bool) :
    Outcome (FailsAmong entries checksRegex)
      (fun shapes => ∀ shape ∈ shapes, ∃ entry ∈ entries, shape.2.Defers entry.2 entry.1)
      (sectionShapes known entries) := by
  induction entries with
  | nil => exact .ok (by simp)
  | cons entry rest ih =>
      refine ((declarationShape_yields .self known entry.1).allow fun _ => .head).bind
        fun shape defers => ?_
      refine (ih.allow fun _ => .cons entry).bind fun shapes othersDefer => .ok ?_
      refine List.forall_mem_cons.mpr ⟨⟨entry, List.mem_cons_self, defers⟩, fun other member => ?_⟩
      obtain ⟨source, isEntry, here⟩ := othersDefer other member
      exact ⟨source, List.mem_cons_of_mem _ isEntry, here⟩

theorem defersAmong_sectionPending {shapes : List (String × DeclarationShape)}
    (defers : ∀ shape ∈ shapes, ∃ entry ∈ entries, shape.2.Defers entry.2 entry.1)
    (owner start : Nat) :
    DefersAmong entries (sectionPending owner start shapes) := by
  induction shapes generalizing owner start with
  | nil => simp [DefersAmong, sectionPending]
  | cons first rest ih =>
      obtain ⟨⟨entry, member, here⟩, others⟩ := List.forall_mem_cons.mp defers
      rw [DefersAmong, sectionPending, List.forall_mem_append]
      exact ⟨fun one isPending => ⟨entry, member, here owner start one isPending⟩, ih others _ _⟩

end Entries

end Schema

end SchemaCompiler
