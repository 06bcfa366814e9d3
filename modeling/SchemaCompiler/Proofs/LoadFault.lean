import SchemaCompiler.Document.Loading
import SchemaCompiler.Proofs.ComposeFault
import SchemaCompiler.Proofs.Fault

/-!
# The faults of loading

A text is composed to a graph, and the graph is unfolded to a tree. Both can meet a value that does
not exist, in a token or in a scalar that is read as a truth value, a number or a time
(`RaisesValue`). Everything else that is wrong with a text is an error of the document. A tree that
comes out has no open places.
-/

namespace SchemaCompiler.Yaml

/-! ## Scalars without a value -/

/-- The faults of the scalars with a tag: only truth values, numbers and times are looked into. -/
inductive ScalarFault (text : String) : String → ValueFault → Prop
  | bool {fault : ValueFault} :
      ScalarValue.readBool text = .error fault → ScalarFault text Tag.bool fault
  | int {fault : ValueFault} :
      ScalarValue.readInteger text = .error fault → ScalarFault text Tag.int fault
  | float {fault : ValueFault} :
      ScalarValue.readFloat text = .error fault → ScalarFault text Tag.float fault
  | timestamp {fault : ValueFault} :
      Timestamp.read text = .error fault → ScalarFault text Tag.timestamp fault

namespace ScalarValue

theorem lift_outcome {α : Type} {allowed : ValueFault → Prop} {result : Except ValueFault α}
    (faults : ∀ fault, result = .error fault → allowed fault) (build : α → ScalarValue) :
    Outcome (Failure.In allowed) (fun _ => True) (lift (result.map build)) := by
  cases result with
  | ok value => exact .ok trivial
  | error fault => exact .error (faults fault rfl)

/-- A scalar has no value only for a reason that its tag gives. -/
theorem read_outcome (tag text : String) (mark : Mark) :
    Outcome (Failure.In (ScalarFault text tag)) (fun _ => True) (read tag text mark) := by
  refine .ite (.ok trivial) (.ite (.ok trivial) ?_)
  refine .byCases (fun isBool => lift_outcome (fun fault failed => ?_) _) fun _ => ?_
  · cases eq_of_beq isBool
    exact .bool failed
  refine .byCases (fun isInt => lift_outcome (fun fault failed => ?_) _) fun _ => ?_
  · cases eq_of_beq isInt
    exact .int failed
  refine .byCases (fun isFloat => lift_outcome (fun fault failed => ?_) _) fun _ => ?_
  · cases eq_of_beq isFloat
    exact .float failed
  refine .byCases (fun isTimestamp => lift_outcome (fun fault failed => ?_) _) fun _ => ?_
  · cases eq_of_beq isTimestamp
    exact .timestamp failed
  refine .ite ?_ (.ite (.complain _ _) (.ite (.complain _ _) (.ite (.complain _ _) ?_)))
  · split
    · exact .ok trivial
    · exact .complain _ _
  · exact .ite (.complain _ _) (.complain _ _)

end ScalarValue

end SchemaCompiler.Yaml

namespace SchemaCompiler.Document

open Schema (Complete Failure Fault Yields)

/-! ## Complete trees -/

theorem Node.Inside.of_sequence {line : Int} {items : List Node} {node : Node}
    (inside : (Node.sequence line items).Inside node) :
    node = .sequence line items ∨ ∃ item ∈ items, item.Inside node := by
  induction inside with
  | self => exact .inl rfl
  | item _ member ih =>
      rcases ih with same | ⟨item, isItem, below⟩
      · cases same
        exact .inr ⟨_, member, .self⟩
      · exact .inr ⟨item, isItem, .item below member⟩
  | entry _ member ih =>
      rcases ih with same | ⟨item, isItem, below⟩
      · cases same
      · exact .inr ⟨item, isItem, .entry below member⟩

theorem Node.Inside.of_mapping {line : Int} {entries : Entries} {node : Node}
    (inside : (Node.mapping line entries).Inside node) :
    node = .mapping line entries ∨ ∃ entry ∈ entries, entry.2.Inside node := by
  induction inside with
  | self => exact .inl rfl
  | item _ member ih =>
      rcases ih with same | ⟨entry, isEntry, below⟩
      · cases same
      · exact .inr ⟨entry, isEntry, .item below member⟩
  | entry _ member ih =>
      rcases ih with same | ⟨entry, isEntry, below⟩
      · cases same
        exact .inr ⟨_, member, .self⟩
      · exact .inr ⟨entry, isEntry, .entry below member⟩

theorem complete_scalar (line : Int) (value : Scalar) : Complete (.scalar line value) := by
  have alone {node : Node} (inside : (Node.scalar line value).Inside node) :
      node = .scalar line value := by
    induction inside with
    | self => rfl
    | item _ _ ih => cases ih
    | entry _ _ ih => cases ih
  intro inside
  cases alone inside

theorem complete_sequence (line : Int) {items : List Node} (each : ∀ item ∈ items, Complete item) :
    Complete (.sequence line items) := by
  intro inside
  rcases inside.of_sequence with same | ⟨item, isItem, below⟩
  · cases same
  · exact each item isItem below

theorem complete_mapping_iff {line : Int} {entries : Entries} :
    Complete (.mapping line entries) ↔ ∀ entry ∈ entries, Complete entry.2 := by
  constructor
  · intro complete entry isEntry below
    exact complete (.trans (.entry .self isEntry) below)
  · intro each inside
    rcases inside.of_mapping with same | ⟨entry, isEntry, below⟩
    · cases same
    · exact each entry isEntry below

/-! ## Unfolding -/

/-- The value faults that loading a text can end in: one of its tokens, or one of a scalar in its
graph. -/
inductive RaisesValue (text : List Char) : Fault → Prop
  | token {fault : Yaml.ValueFault} :
      Yaml.Graph.ofText text = .error (.value fault) → Yaml.TokenFault fault →
      RaisesValue text (.value fault)
  | scalar {graph : Yaml.Graph} {id : Nat} {node : Yaml.Composed} {source : String}
      {fault : Yaml.ValueFault} :
      Yaml.Graph.ofText text = .ok (some graph) → graph.node? id = some node →
      node.content = .scalar source → Yaml.ScalarFault source node.tag fault →
      RaisesValue text (.value fault)

theorem mem_of_mem_inherited {explicit seen : List String} {merged : Entries}
    {entry : String × Node} (member : entry ∈ inherited explicit seen merged) : entry ∈ merged := by
  induction merged generalizing seen with
  | nil => exact member
  | cons first rest ih =>
      obtain ⟨key, value⟩ := first
      rw [inherited] at member
      split at member
      · exact List.mem_cons_of_mem _ (ih member)
      · rcases List.mem_cons.mp member with rfl | later
        · exact List.mem_cons_self
        · exact List.mem_cons_of_mem _ (ih later)

theorem complete_mergeEntries (line : Int) {merged entries : Entries}
    (mergedComplete : ∀ entry ∈ merged, Complete entry.2)
    (entriesComplete : ∀ entry ∈ entries, Complete entry.2) :
    Complete (.mapping line (mergeEntries merged entries)) := by
  rw [complete_mapping_iff, mergeEntries, List.forall_mem_append]
  exact ⟨fun entry member => mergedComplete entry (mem_of_mem_inherited member), entriesComplete⟩

section Unfolding

variable {allowed : Fault → Prop} {graph : Yaml.Graph} {document : String}

theorem mergeEach_yields {read : Nat → Except Failure Entries}
    (each : ∀ source, Yields allowed (fun entries => ∀ entry ∈ entries, Complete entry.2)
      (read source)) (sources : List Nat) :
    Yields allowed (fun found => ∀ entry ∈ found.flatten, Complete entry.2)
      (sources.mapM read) := by
  refine (Outcome.mapM fun source _ => each source).mono fun found complete entry member => ?_
  obtain ⟨entries, isSource, inSource⟩ := List.mem_flatten.mp member
  exact complete entries isSource entry inSource

theorem unfoldEntries_yields {unfold : Nat → Except Failure Node}
    (each : ∀ id, Yields allowed Complete (unfold id)) (pairs : List (Nat × Nat)) :
    Yields allowed
      (fun found => (∀ entry ∈ found.1, Complete entry.2) ∧ ∀ entry ∈ found.2, Complete entry.2)
      (unfoldEntries graph document unfold pairs) := by
  induction pairs with
  | nil => exact .ok (by simp)
  | cons pair rest ih =>
      obtain ⟨key, value⟩ := pair
      rw [unfoldEntries]
      split
      · exact ih
      next keyNode _ =>
        split
        · refine (mergeEach_yields (fun source => ?_) _).bind fun merged complete =>
            ih.bind fun below belowComplete => .ok ⟨?_, belowComplete.2⟩
          · refine (each source).bind fun node complete => ?_
            split
            · exact .ok (complete_mapping_iff.mp complete)
            · exact .fail _ _
          · exact List.forall_mem_append.mpr ⟨complete, belowComplete.1⟩
        split
        · refine (each value).bind fun node complete => ih.bind fun below belowComplete => ?_
          exact .ok ⟨belowComplete.1, List.forall_mem_cons.mpr ⟨complete, belowComplete.2⟩⟩
        · exact .fail _ _

/-- Unfolding ends in a fault only if one of the scalars has no value. -/
theorem unfold_yields {reader : ScalarReader}
    (scalars : ∀ id node source, graph.node? id = some node → node.content = .scalar source →
      Yields allowed (fun _ => True) (reader node.tag source node.mark))
    (steps : Nat) (active : List Nat) (id : Nat) :
    Yields allowed Complete (unfold graph document reader steps active id) := by
  induction steps generalizing active id with
  | zero => exact .fail _ _
  | succ steps ih =>
      rw [unfold]
      split
      · exact .fail _ _
      next node found =>
        dsimp only
        split
        next source isScalar =>
          exact (scalars id node source found isScalar).map fun value _ => complete_scalar _ value
        next items _ =>
          split
          · exact .fail _ _
          · exact (Outcome.mapM fun item _ => ih _ item).map fun _ each => complete_sequence _ each
        next pairs _ =>
          split
          · exact .fail _ _
          · refine (unfoldEntries_yields (ih _) pairs).bind fun found complete => ?_
            exact .ok (complete_mergeEntries _ complete.1 complete.2)

end Unfolding

/-- A text is loaded as a complete tree, or has an error, or has a value that does not exist. -/
theorem load_yields (name : String) (text : List Char) :
    Yields (RaisesValue text) Complete (load name text) := by
  unfold load
  split
  · exact .fail _ _
  next fault composing =>
    exact .ofFault (.token composing ((Yaml.Graph.ofText_scans text).failure _ composing))
  · exact .fail _ _
  next graph composed =>
    refine unfold_yields (fun id node source found isScalar => ?_) _ _ _
    unfold readScalar
    split
    · exact .ok trivial
    · exact .fail _ _
    next fault isFault =>
      exact .ofFault
        (.scalar composed found isScalar ((Yaml.ScalarValue.read_outcome ..).failure _ isFault))

end SchemaCompiler.Document
