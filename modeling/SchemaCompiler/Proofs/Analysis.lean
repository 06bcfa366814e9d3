import SchemaCompiler.Proofs.AliasCycle
import SchemaCompiler.Proofs.Assembly
import SchemaCompiler.Proofs.Outcome

/-!
# Analysing a section

Both passes together give what reading and placing the whole section gives, once its aliases lead to
no cycle (`analyze_eq_ok_iff`). The names of the declarations decide whether they can be read
together; apart from that each declaration is read on its own.
-/

namespace SchemaCompiler.Schema

open Document (Node Entries Scalar)

/-- A section whose names are all different, in the document and in generated code, and which reads
as declarations of the given shapes. -/
structure ReadsAs (entries : Entries) (shapes : List (String × DeclarationShape)) : Prop where
  distinct : (entries.map (·.1)).Nodup
  apart : ((entries.map (·.1)).map Naming.typeName).Nodup
  reads : sectionShapes (SymbolTable.directory (entries.map (·.1))).knows entries = .ok shapes

theorem sectionShapes_eq_ok_iff {known : String → Bool} {entries : Entries}
    {shapes : List (String × DeclarationShape)} :
    sectionShapes known entries = .ok shapes ↔
      List.Forall₂ (fun entry shape => entry.1 = shape.1 ∧
        declarationShape known entry.1 entry.2 = .ok shape.2) entries shapes := by
  induction entries generalizing shapes with
  | nil => simp [sectionShapes, eq_comm]
  | cons entry rest ih =>
      obtain ⟨name, node⟩ := entry
      rw [sectionShapes, List.forall₂_cons_left_iff]
      constructor
      · intro read
        obtain ⟨shape, shapeRead, read⟩ := bind_eq_ok read
        obtain ⟨others, othersRead, read⟩ := bind_eq_ok read
        cases read
        exact ⟨(name, shape), others, ⟨rfl, shapeRead⟩, ih.mp othersRead, rfl⟩
      · rintro ⟨⟨_, shape⟩, others, ⟨rfl, shapeRead⟩, othersRead, rfl⟩
        rw [shapeRead, ih.mpr othersRead]
        rfl

theorem map_fst_sectionShapes {known : String → Bool} {entries : Entries}
    {shapes : List (String × DeclarationShape)} (read : sectionShapes known entries = .ok shapes) :
    shapes.map (·.1) = entries.map (·.1) := by
  have pairs := sectionShapes_eq_ok_iff.mp read
  clear read
  induction pairs with
  | nil => rfl
  | cons same _ ih => rw [List.map_cons, List.map_cons, same.1, ih]

/-! ## The first pass -/

theorem numbered_directory {entries : Entries} (distinct : (entries.map (·.1)).Nodup) :
    Numbered (SymbolTable.directory (entries.map (·.1))) 0 entries := by
  intro index entry here
  exact SymbolTable.lookup_zipIdx distinct (by rw [List.getElem?_map, here, Option.map_some]) 0

theorem map_name_of_provisional {entries : Entries} {types : List NamedType}
    (read : List.Forall₂ (fun entry type => provisional entry.1 entry.2 = .ok type) entries types) :
    types.map (·.name) = (entries.map (·.1)).map Naming.typeName := by
  induction read with
  | nil => rfl
  | cons typeRead _ ih =>
      obtain ⟨_, _, _, _, _, _, rfl⟩ := provisional_eq_ok typeRead
      rw [List.map_cons, List.map_cons, List.map_cons, ih]

/-- What collecting gives, apart from the log. -/
def collected (entries : Entries) : Except Failure SymbolTable := do
  let declared ← declareAll {} entries
  let table ← (resolveAliases declared entries).mapError .error
  (checkAliasCycles table.types (table.declared.map (·.2))).mapError Failure.error
  return table

theorem collect_gives (entries : Entries) : (collect entries).Gives (collected entries) := by
  refine (Logged.gives_ofExcept _).bind fun declared _ => ?_
  refine (Logged.gives_note _).bind_ok ?_
  refine (Logged.gives_ofResult _).bind fun table _ => ?_
  exact (Logged.gives_ofResult _).bind fun _ _ => Logged.gives_pure table

/-- Sections whose first pass ends with the given types. -/
structure CollectsTo (entries : Entries) (types : List NamedType) : Prop where
  distinct : (entries.map (·.1)).Nodup
  apart : ((entries.map (·.1)).map Naming.typeName).Nodup
  collected : List.Forall₂ (fun entry type =>
    collectedType (SymbolTable.directory (entries.map (·.1))).knows
      (SymbolTable.directory (entries.map (·.1))).number entry.1 entry.2 = .ok type) entries types
  acyclic : Acyclic types

/-- Declarations that can be linked can be registered. -/
theorem provisional_of_collected {known : String → Bool} {number : String → Nat} {entries : Entries}
    {types : List NamedType}
    (collected : List.Forall₂ (fun entry type =>
      collectedType known number entry.1 entry.2 = .ok type) entries types) :
    ∃ provisionals, List.Forall₂ (fun entry type => provisional entry.1 entry.2 = .ok type)
      entries provisionals := by
  induction collected with
  | nil => exact ⟨[], .nil⟩
  | cons typeCollected _ ih =>
      obtain ⟨type, typeRead, _⟩ := bind_eq_ok typeCollected
      obtain ⟨others, othersRead⟩ := ih
      exact ⟨type :: others, .cons typeRead othersRead⟩

theorem declareAll_empty_eq_ok_iff {entries : Entries} {table : SymbolTable} :
    declareAll {} entries = .ok table ↔
      ∃ types, List.Forall₂ (fun entry type => provisional entry.1 entry.2 = .ok type)
        entries types ∧
        (entries.map (·.1)).Nodup ∧ ((entries.map (·.1)).map Naming.typeName).Nodup ∧
        table = { SymbolTable.directory (entries.map (·.1)) with types } := by
  have known : (SymbolTable.declaredNames {}).Nodup := List.nodup_nil
  have named : (SymbolTable.names {}).Nodup := List.nodup_nil
  rw [declareAll_eq_ok_iff known named]
  refine exists_congr fun types => and_congr_right fun read => ?_
  rw [map_name_of_provisional read]
  rfl

/-- Every declared type is one of those that are checked for cycles. -/
theorem checkDeclared_eq_ok_iff {entries : Entries} {types : List NamedType}
    (length : types.length = entries.length) :
    checkAliasCycles types ((SymbolTable.directory (entries.map (·.1))).declared.map (·.2)) =
      .ok () ↔ Acyclic types := by
  apply checkAliasCycles_eq_ok_iff_acyclic
  intro start lt
  rw [SymbolTable.directory, List.zipIdx_map_snd, List.mem_range']
  exact ⟨start, by simpa [length] using lt, by simp⟩

/-- The first pass succeeds exactly if all names are different, all declarations can be registered
and linked, and no aliases lead to a cycle as far as they are linked. -/
theorem collected_eq_ok_iff {entries : Entries} {table : SymbolTable} :
    collected entries = .ok table ↔
      ∃ types, CollectsTo entries types ∧
        table = { SymbolTable.directory (entries.map (·.1)) with types } := by
  constructor
  · intro read
    obtain ⟨declared, declaredRead, read⟩ := bind_eq_ok read
    obtain ⟨linked, linkedRead, read⟩ := bind_eq_ok read
    obtain ⟨_, checked, read⟩ := bind_eq_ok read
    cases read
    obtain ⟨provisionals, registered, distinct, apart, rfl⟩ :=
      declareAll_empty_eq_ok_iff.mp declaredRead
    rw [mapError_eq_ok_iff] at linkedRead checked
    obtain ⟨types, typesCollected, rfl⟩ :=
      (resolveAliases_eq_ok_iff registered [] (numbered_directory distinct)).mp linkedRead
    refine ⟨types, ⟨distinct, apart, typesCollected, ?_⟩, rfl⟩
    exact (checkDeclared_eq_ok_iff typesCollected.length_eq.symm).mp checked
  · rintro ⟨types, collects, rfl⟩
    obtain ⟨provisionals, registered⟩ := provisional_of_collected collects.collected
    have declaring := declareAll_empty_eq_ok_iff.mpr
      ⟨provisionals, registered, collects.distinct, collects.apart, rfl⟩
    have linking :
        resolveAliases { SymbolTable.directory (entries.map (·.1)) with types := provisionals }
        entries = .ok { SymbolTable.directory (entries.map (·.1)) with types } :=
      (resolveAliases_eq_ok_iff registered [] (numbered_directory collects.distinct)).mpr
        ⟨types, collects.collected, rfl⟩
    have checking :=
      (checkDeclared_eq_ok_iff collects.collected.length_eq.symm).mpr collects.acyclic
    rw [collected, declaring]
    show ((resolveAliases { SymbolTable.directory (entries.map (·.1)) with types := provisionals }
      entries).mapError Failure.error >>= _) = _
    rw [linking]
    show ((checkAliasCycles types ((SymbolTable.directory (entries.map (·.1))).declared.map
      (·.2))).mapError Failure.error >>= _) = _
    rw [checking]
    rfl

/-! ## The second pass -/

/-- The type graph of a section. -/
def graphOf (document : String) (shapes : List (String × DeclarationShape)) : TypeGraph :=
  { document, types := (assemble shapes).types }

/-- After a first pass, the second assembles the types of the section. -/
theorem resolveDeclarations_assembles {entries : Entries} {types : List NamedType}
    (collects : CollectsTo entries types) :
    (resolveDeclarations entries).Gives
      { table := { SymbolTable.directory (entries.map (·.1)) with types } }
      ((sectionShapes (SymbolTable.directory (entries.map (·.1))).knows entries).map fun shapes =>
        ((), { table := assemble shapes, pending := sectionPending 0 shapes.length shapes })) := by
  have passed := resolveDeclarations_gives collects.collected [] [] []
    (show types.length = [].length + types.length + [].length by simp)
      (numbered_directory collects.distinct)
  simp only [List.nil_append, List.length_nil, SymbolTable.addObjects_nil] at passed
  cases read : sectionShapes (SymbolTable.directory (entries.map (·.1))).knows entries with
  | error failure =>
      rw [read, Except.map] at passed
      rw [Except.map]
      exact passed
  | ok shapes =>
      have names := map_fst_sectionShapes read
      have length : types.length = shapes.length := by
        have counted := congrArg List.length names
        rw [List.length_map, List.length_map, collects.collected.length_eq] at counted
        exact counted.symm
      have assembled : SymbolTable.addObjects
          { SymbolTable.directory (entries.map (·.1)) with
            types :=
              declaredTypes (SymbolTable.directory (entries.map (·.1))).number
                shapes.length shapes }
          (sectionObjects (SymbolTable.directory (entries.map (·.1))).number shapes.length shapes) =
          assemble shapes := by
        rw [assemble, names]
      rw [read, Except.map, length, assembled] at passed
      exact passed

/-- What resolving gives after a first pass, apart from the log. -/
theorem resolve_gives {entries : Entries} {types : List NamedType}
    (collects : CollectsTo entries types) (document : String) :
    (resolve document { SymbolTable.directory (entries.map (·.1)) with types } entries).Gives (do
      let shapes ← sectionShapes (SymbolTable.directory (entries.map (·.1))).knows entries
      (graphOf document shapes).checkCycles.mapError Failure.error
      (graphOf document shapes).verify.mapError Failure.error
      return (graphOf document shapes, sectionPending 0 shapes.length shapes)) := by
  have passed := resolveDeclarations_assembles collects
  cases read : sectionShapes (SymbolTable.directory (entries.map (·.1))).knows entries with
  | error failure =>
      rw [read] at passed
      exact Logged.Gives.bind_error passed
  | ok shapes =>
      rw [read] at passed
      refine Logged.Gives.bind_ok passed ?_
      refine (Logged.gives_ofResult _).bind fun _ _ => ?_
      refine (Logged.gives_ofResult _).bind fun _ _ => ?_
      exact (Logged.gives_note _).bind_ok (Logged.gives_pure _)

/-! ## Both passes -/

theorem ReadsAs.names {entries : Entries} {shapes : List (String × DeclarationShape)}
    (reads : ReadsAs entries shapes) : shapes.map (·.1) = entries.map (·.1) :=
  map_fst_sectionShapes reads.reads

/-- Every shape is that of a declaration. -/
theorem exists_declarationShape {known : String → Bool} {entries : Entries}
    {shapes : List (String × DeclarationShape)} (read : sectionShapes known entries = .ok shapes)
    {shape : String × DeclarationShape} (member : shape ∈ shapes) :
    ∃ node, declarationShape known shape.1 node = .ok shape.2 := by
  obtain ⟨entry, _, same, shapeRead⟩ := exists_left_of_mem (sectionShapes_eq_ok_iff.mp read) member
  exact ⟨entry.2, same ▸ shapeRead⟩

theorem ReadsAs.declarationShape {entries : Entries} {shapes : List (String × DeclarationShape)}
    (reads : ReadsAs entries shapes) {shape : String × DeclarationShape} (member : shape ∈ shapes) :
    ∃ node, Schema.declarationShape (SymbolTable.directory (shapes.map (·.1))).knows shape.1 node =
      .ok shape.2 := by
  rw [reads.names]
  exact exists_declarationShape reads.reads member

theorem ReadsAs.sound {entries : Entries} {shapes : List (String × DeclarationShape)}
    (reads : ReadsAs entries shapes) :
    ∀ shape ∈ shapes, shape.2.Sound (SymbolTable.directory (shapes.map (·.1))).knows := by
  intro shape member
  obtain ⟨node, read⟩ := reads.declarationShape member
  exact declarationShape_sound read

/-- All declarations of a section that can be read have a usable name. -/
theorem ReadsAs.usable {entries : Entries} {shapes : List (String × DeclarationShape)}
    (reads : ReadsAs entries shapes) : ∀ shape ∈ shapes, Naming.typeName shape.1 ≠ "" := by
  intro shape member
  obtain ⟨node, read⟩ := reads.declarationShape member
  obtain ⟨type, typeRead, _⟩ := bind_eq_ok read
  obtain ⟨_, _, _, _, usable, _⟩ := provisional_eq_ok typeRead
  exact usable

/-- The graph of a section that can be read is closed. -/
theorem ReadsAs.closed {entries : Entries} {shapes : List (String × DeclarationShape)}
    (reads : ReadsAs entries shapes) (document : String) : (graphOf document shapes).Closed := by
  refine assemble_closed ?_ reads.usable ?_ reads.sound
  · rw [reads.names]
    exact reads.distinct
  · rw [reads.names]
    exact reads.apart

/-- The body of a declared type after the first pass. -/
def DeclarationShape.linked (number : String → Nat) : DeclarationShape → Body
  | object _ => .object false []
  | enumeration _ => .enumeration []
  | aliasOf (.scalar kind) => .aliasOf (.scalar kind)
  | aliasOf (.declared name) => .aliasOf (.named (number name))
  | aliasOf _ => .aliasOf .missing

/-- A declaration that can be read passes the first pass. -/
theorem collectedType_of_declarationShape {known : String → Bool} {number : String → Nat}
    {name : String} {node : Node} {shape : DeclarationShape}
    (read : declarationShape known name node = .ok shape) :
    collectedType known number name node =
      .ok { name := Naming.typeName name, sourceName := name, body := shape.linked number } := by
  obtain ⟨type, typeRead, read⟩ := bind_eq_ok read
  obtain ⟨line, entries, body, rfl, _, start, rfl⟩ := provisional_eq_ok typeRead
  rw [collectedType_eq_ok_iff typeRead]
  dsimp only at read
  cases start with
  | object =>
      obtain ⟨fields, _, rfl⟩ := map_eq_ok read
      exact ⟨_, rfl, rfl⟩
  | enumeration =>
      obtain ⟨values, _, rfl⟩ := map_eq_ok read
      exact ⟨_, rfl, rfl⟩
  | scalar kind =>
      cases read
      exact ⟨_, rfl, rfl⟩
  | array =>
      obtain ⟨target, targetRead, rfl⟩ := map_eq_ok read
      obtain ⟨items, rfl⟩ := arrayShape_eq_ok targetRead
      exact ⟨_, rfl, rfl⟩
  | name target pointer =>
      obtain ⟨shape, shapeRead, rfl⟩ := map_eq_ok read
      obtain ⟨declared, _, rfl⟩ := nameShape_eq_ok shapeRead
      refine ⟨.aliasOf (.named (number declared)), ?_, rfl⟩
      rw [linkBody]
      show (nameShape known target pointer { declaration := some name, line := some line }).map _ =
        _
      rw [shapeRead]
      rfl

theorem collected_of_sectionShapes {known : String → Bool} (number : String → Nat)
    {entries : Entries} {shapes : List (String × DeclarationShape)}
    (read : sectionShapes known entries = .ok shapes) :
    List.Forall₂ (fun entry type => collectedType known number entry.1 entry.2 = .ok type) entries
      (shapes.map fun shape =>
        { name := Naming.typeName shape.1, sourceName := shape.1,
          body := shape.2.linked number }) := by
  rw [List.forall₂_map_right_iff]
  refine (sectionShapes_eq_ok_iff.mp read).imp ?_
  rintro ⟨name, node⟩ ⟨_, shape⟩ ⟨rfl, shapeRead⟩
  exact collectedType_of_declarationShape shapeRead

/-- The second pass keeps the links between aliases that the first has made. -/
theorem linked_keepsAliases (shapes : List (String × DeclarationShape)) :
    KeepsAliases
      (shapes.map fun shape =>
        { name := Naming.typeName shape.1
          sourceName := shape.1
          body := shape.2.linked (SymbolTable.directory (shapes.map (·.1))).number })
      (assemble shapes).types id := by
  intro index target found
  obtain ⟨type, here, isTarget⟩ := Option.bind_eq_some_iff.mp found
  rw [List.getElem?_map] at here
  obtain ⟨⟨name, shape⟩, shapeHere, rfl⟩ := Option.map_eq_some_iff.mp here
  obtain ⟨before, after, parts, rfl⟩ := eq_append_of_getElem? shapeHere
  have placed := getElem?_assemble_declared parts
  cases shape with
  | object fields => cases isTarget
  | enumeration values => cases isTarget
  | aliasOf written =>
      refine ⟨_, by rw [id, aliasTarget?, placed]; rfl, ?_⟩
      intro next leaf
      cases written with
      | declared name =>
          cases isTarget
          exact leaf
      | scalar kind =>
          cases isTarget
          cases leaf
      | any | array items | inline baseName fields =>
          -- these are read in the second pass only
          cases isTarget
          cases leaf

/-- What analysing gives, apart from the log. -/
theorem analyze_gives (document : String) (entries : Entries) :
    (analyze document entries).Gives (do
      let _ ← collected entries
      let shapes ← sectionShapes (SymbolTable.directory (entries.map (·.1))).knows entries
      (graphOf document shapes).checkCycles.mapError Failure.error
      (graphOf document shapes).verify.mapError Failure.error
      return (graphOf document shapes, sectionPending 0 shapes.length shapes)) := by
  refine (collect_gives entries).bind fun table read => ?_
  obtain ⟨types, collects, rfl⟩ := collected_eq_ok_iff.mp read
  exact resolve_gives collects document

theorem checkCycles_eq_ok_iff {graph : TypeGraph} :
    graph.checkCycles = .ok () ↔ Acyclic graph.types :=
  checkAliasCycles_eq_ok_iff_acyclic fun _ => List.mem_range.mpr

/-- A section that can be read and whose aliases lead to no cycle passes the first pass. -/
theorem ReadsAs.collectsTo {entries : Entries} {shapes : List (String × DeclarationShape)}
    (reads : ReadsAs entries shapes) (acyclic : Acyclic (assemble shapes).types) :
    ∃ types, CollectsTo entries types := by
  refine ⟨_, reads.distinct, reads.apart, collected_of_sectionShapes _ reads.reads, ?_⟩
  -- the check after the first pass sees fewer links than the one after the second
  have keeps := linked_keepsAliases shapes
  rw [reads.names] at keeps
  exact keeps.acyclic acyclic

/-- Analysing a section succeeds exactly if the section can be read and its aliases lead to no
cycle, and gives the graph of what was read. -/
theorem analyze_eq_ok_iff {document : String} {entries : Entries} {graph : TypeGraph}
    {pending : List Pending} :
    (analyze document entries).outcome.1 = .ok (graph, pending) ↔
      ∃ shapes, ReadsAs entries shapes ∧ Acyclic (assemble shapes).types ∧
        graph = graphOf document shapes ∧ pending = sectionPending 0 shapes.length shapes := by
  rw [(analyze_gives document entries).outcome_eq]
  constructor
  · intro done
    obtain ⟨table, first, done⟩ := bind_eq_ok done
    obtain ⟨shapes, read, done⟩ := bind_eq_ok done
    obtain ⟨_, checked, done⟩ := bind_eq_ok done
    obtain ⟨_, _, done⟩ := bind_eq_ok done
    cases done
    obtain ⟨types, collects, _⟩ := collected_eq_ok_iff.mp first
    rw [mapError_eq_ok_iff] at checked
    exact ⟨shapes, ⟨collects.distinct, collects.apart, read⟩,
      checkCycles_eq_ok_iff.mp checked, rfl, rfl⟩
  · rintro ⟨shapes, reads, acyclic, rfl, rfl⟩
    obtain ⟨types, collects⟩ := reads.collectsTo acyclic
    have first := collected_eq_ok_iff.mpr ⟨types, collects, rfl⟩
    have checked :=
      checkCycles_eq_ok_iff.mpr (show Acyclic (graphOf document shapes).types from acyclic)
    have verified := (reads.closed document).verify
    rw [first, reads.reads]
    show ((graphOf document shapes).checkCycles.mapError Failure.error >>= _) = _
    rw [checked]
    show ((graphOf document shapes).verify.mapError Failure.error >>= _) = _
    rw [verified]
    rfl

end SchemaCompiler.Schema
