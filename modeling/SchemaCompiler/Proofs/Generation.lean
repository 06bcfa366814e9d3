import Mathlib.Data.List.Forall2
import SchemaCompiler.Proofs.Declaration
import SchemaCompiler.Proofs.ImportGathering

/-!
# The units of a graph

Generating succeeds with one unit for each type, in order, and then the shared units, if constraints
are generated. The files of the units are all different, and whether a unit is shared can be read
off its name.
-/

namespace SchemaCompiler.Target

open Schema (NamedType TypeGraph bind_eq_ok fail_ne_ok)

/-- Reading a list succeeds with what is read from each of its items. -/
theorem forall₂_of_mapM_eq_ok {ε α β : Type} {read : α → Except ε β} {items : List α}
    {values : List β} (done : items.mapM read = .ok values) :
    List.Forall₂ (fun item value => read item = .ok value) items values := by
  induction items generalizing values with
  | nil =>
      cases done
      exact .nil
  | cons item rest ih =>
      rw [List.mapM_cons] at done
      obtain ⟨value, first, done⟩ := bind_eq_ok done
      obtain ⟨others, second, done⟩ := bind_eq_ok done
      cases done
      exact .cons first (ih second)

theorem mapM_eq_ok_of_forall₂ {ε α β : Type} {read : α → Except ε β} {items : List α}
    {values : List β} (each : List.Forall₂ (fun item value => read item = .ok value) items values) :
    items.mapM read = .ok values := by
  induction each with
  | nil => rfl
  | cons first _ ih =>
      rw [List.mapM_cons, first, ih]
      rfl

/-- Related values of all items are a list of them. -/
theorem exists_forall₂ {α β : Type} {relation : α → β → Prop} {items : List α}
    (each : ∀ item ∈ items, ∃ value, relation item value) :
    ∃ values, List.Forall₂ relation items values := by
  induction items with
  | nil => exact ⟨[], .nil⟩
  | cons item rest ih =>
      obtain ⟨value, first⟩ := each item (by simp)
      obtain ⟨values, others⟩ := ih fun other member => each other (by simp [member])
      exact ⟨value :: values, .cons first others⟩

/-- The file that a unit is written to. -/
def OutputUnit.file (language : Language) (unit : OutputUnit) : String :=
  language.fileName unit.name

/-- Units pass the check of their files exactly if the files are all different, and new. -/
theorem checkFiles_eq_ok_iff {language : Language} {seen : List (String × String)}
    {units : List OutputUnit} :
    checkFiles language seen units = .ok () ↔
      (units.map (·.file language)).Nodup ∧
      ∀ unit ∈ units, unit.file language ∉ seen.map (·.1) := by
  induction units generalizing seen with
  | nil => simp [checkFiles]
  | cons unit rest ih =>
      have new : seen.lookup (unit.file language) = none ↔ unit.file language ∉ seen.map (·.1) := by
        rw [List.lookup_eq_none_iff]
        simp only [bne_iff_ne, List.mem_map]
        grind
      rw [checkFiles]
      split
      next other found =>
        refine iff_of_false fail_ne_ok ?_
        rintro ⟨_, fresh⟩
        cases (new.mpr (fresh unit (by simp))).symm.trans found
      next found =>
        have fresh := new.mp found
        rw [ih]
        simp only [List.map_cons, List.nodup_cons, List.map_append, List.mem_append, List.mem_cons,
          List.map_nil, List.not_mem_nil, or_false, not_or, List.mem_map, forall_eq_or_imp]
        unfold OutputUnit.file at *
        grind

/-- No type passes the check of names with a reserved one. -/
theorem checkReserved_eq_ok_iff {types : List NamedType} :
    checkReserved types = .ok () ↔ ∀ type ∈ types, type.name ∉ reservedNames := by
  induction types with
  | nil => simp [checkReserved]
  | cons type rest ih =>
      rw [checkReserved]
      split
      next reserved =>
        refine iff_of_false fail_ne_ok fun free => ?_
        exact free type (by simp) (List.contains_iff_mem.mp reserved)
      next free =>
        rw [List.contains_iff_mem] at free
        rw [ih, List.forall_mem_cons]
        exact ⟨fun others => ⟨free, others⟩, And.right⟩

/-- The units of the types of a graph, in order, and the shared units after them. -/
structure Generated (style : Style) (graph : TypeGraph) (comment : String)
    (ofTypes shared : List OutputUnit) :
    Prop where
  /-- Each type has its unit. -/
  rendered : List.Forall₂
    (fun type unit => ∃ body, renderType style graph.types (style.header comment) type = .ok body ∧
      unit = { name := type.name, body }) graph.types ofTypes
  /-- The shared units stand if constraints are generated, and then no type has a name of theirs. -/
  shared_eq : (if style.validations then sharedUnits style else .ok []) = .ok shared
  free : style.validations = true → ∀ type ∈ graph.types, type.name ∉ reservedNames
  /-- No two units are written to one file. -/
  files : ((ofTypes ++ shared).map (·.file style.language)).Nodup

/-- Generating succeeds with the units of the types and the shared ones. -/
theorem generate_eq_ok {style : Style} {graph : TypeGraph} {comment : String}
    {units : List OutputUnit} (done : generate style graph comment = .ok units) :
    ∃ ofTypes shared, units = ofTypes ++ shared ∧ Generated style graph comment ofTypes shared := by
  rw [Target.generate_eq, unitsOf] at done
  obtain ⟨ofTypes, rendered, done⟩ := bind_eq_ok done
  have split : ∃ shared, (if style.validations then sharedUnits style else .ok []) = .ok shared ∧
      (style.validations = true → checkReserved graph.types = .ok ()) ∧
      (do
        checkFiles style.language [] (ofTypes ++ shared)
        return ofTypes ++ shared) = Except.ok units := by
    by_cases validations : style.validations = true
    · rw [if_pos validations] at done ⊢
      obtain ⟨_, reserved, done⟩ := bind_eq_ok done
      obtain ⟨shared, isShared, done⟩ := bind_eq_ok done
      exact ⟨shared, isShared, fun _ => reserved, done⟩
    · rw [if_neg validations] at done ⊢
      exact ⟨[], rfl, fun on => absurd on validations, done⟩
  obtain ⟨shared, isShared, reserved, done⟩ := split
  obtain ⟨_, checked, done⟩ := bind_eq_ok done
  cases done
  refine ⟨ofTypes, shared, rfl, ?_, isShared, ?_, (checkFiles_eq_ok_iff.mp checked).1⟩
  · refine (forall₂_of_mapM_eq_ok rendered).imp ?_
    intro type unit done
    obtain ⟨body, isBody, done⟩ := bind_eq_ok done
    cases done
    exact ⟨body, isBody, rfl⟩
  · exact fun validations => checkReserved_eq_ok_iff.mp (reserved validations)

/-- The units of the types and the shared ones are what is generated. -/
theorem Generated.generate_eq {style : Style} {graph : TypeGraph} {comment : String}
    {ofTypes shared : List OutputUnit} (generated : Generated style graph comment ofTypes shared) :
    generate style graph comment = .ok (ofTypes ++ shared) := by
  have rendered : graph.types.mapM (fun type => do
      return ({ name := type.name
                body := ← renderType style graph.types (style.header comment) type } :
        OutputUnit)) = .ok ofTypes := by
    refine mapM_eq_ok_of_forall₂ (generated.rendered.imp ?_)
    rintro type _ ⟨body, isBody, rfl⟩
    rw [isBody]
    rfl
  have files : checkFiles style.language [] (ofTypes ++ shared) = .ok () :=
    checkFiles_eq_ok_iff.mpr ⟨generated.files, by simp⟩
  have isShared := generated.shared_eq
  rw [Target.generate_eq, unitsOf]
  dsimp only
  rw [rendered]
  by_cases validations : style.validations = true
  · have reserved := checkReserved_eq_ok_iff.mpr (generated.free validations)
    rw [if_pos validations] at isShared
    show (if style.validations then _ else _) = _
    rw [if_pos validations, reserved, isShared]
    show (checkFiles style.language [] (ofTypes ++ shared) >>= _) = _
    rw [files]
    rfl
  · rw [if_neg validations] at isShared
    cases isShared
    show (if style.validations then _ else _) = _
    rw [if_neg validations]
    show (checkFiles style.language [] (ofTypes ++ []) >>= _) = _
    rw [files]
    rfl

namespace Generated

variable {style : Style} {graph : TypeGraph} {comment : String} {ofTypes shared : List OutputUnit}

/-- A unit of the types is that of one of them. -/
theorem exists_type (generated : Generated style graph comment ofTypes shared) {unit : OutputUnit}
    (member : unit ∈ ofTypes) :
    ∃ type ∈ graph.types, ∃ body,
      renderType style graph.types (style.header comment) type = .ok body ∧
      unit = { name := type.name, body } :=
  exists_left_of_mem generated.rendered member

/-- The shared units are the two with a fixed name. -/
theorem of_mem_shared (generated : Generated style graph comment ofTypes shared) {unit : OutputUnit}
    (member : unit ∈ shared) :
    style.validations = true ∧ unit.shared = true ∧
    (unit.name = validationUnit ∨ unit.name = markerUnit) := by
  have isShared := generated.shared_eq
  by_cases validations : style.validations = true
  · rw [if_pos validations] at isShared
    obtain ⟨validation, _, isShared⟩ := bind_eq_ok isShared
    obtain ⟨marker, _, isShared⟩ := bind_eq_ok isShared
    cases isShared
    simp only [List.mem_cons, List.not_mem_nil, or_false] at member
    rcases member with rfl | rfl <;> simp [validations]
  · rw [if_neg validations] at isShared
    cases isShared
    cases member

/-- Whether a unit is shared can be read off its name. -/
theorem shared_iff (generated : Generated style graph comment ofTypes shared) {unit : OutputUnit}
    (member : unit ∈ ofTypes ++ shared) :
    unit.shared = true ↔
      style.validations = true ∧ (unit.name = validationUnit ∨ unit.name = markerUnit) := by
  rcases List.mem_append.mp member with ofType | isShared
  · obtain ⟨type, typeMember, body, _, rfl⟩ := generated.exists_type ofType
    refine iff_of_false (by simp) ?_
    rintro ⟨validations, named⟩
    refine generated.free validations type typeMember ?_
    rcases named with named | named <;> rw [show type.name = _ from named] <;> decide
  · obtain ⟨validations, flag, named⟩ := generated.of_mem_shared isShared
    exact iff_of_true flag ⟨validations, named⟩

/-- The units of types are those that are not shared. -/
theorem filter_types (generated : Generated style graph comment ofTypes shared) :
    (ofTypes ++ shared).filter (!·.shared) = ofTypes := by
  have own : ofTypes.filter (!·.shared) = ofTypes := by
    refine List.filter_eq_self.mpr fun unit member => ?_
    obtain ⟨_, _, _, _, rfl⟩ := generated.exists_type member
    rfl
  have others : shared.filter (!·.shared) = [] := by
    refine List.filter_eq_nil_iff.mpr fun unit member => ?_
    simp [(generated.of_mem_shared member).2.1]
  rw [List.filter_append, own, others, List.append_nil]

theorem filter_shared (generated : Generated style graph comment ofTypes shared) :
    (ofTypes ++ shared).filter (·.shared) = shared := by
  have own : ofTypes.filter (·.shared) = [] := by
    refine List.filter_eq_nil_iff.mpr fun unit member => ?_
    obtain ⟨_, _, _, _, rfl⟩ := generated.exists_type member
    simp
  have others : shared.filter (·.shared) = shared :=
    List.filter_eq_self.mpr fun unit member => (generated.of_mem_shared member).2.1
  rw [List.filter_append, own, others, List.nil_append]

end Generated

end SchemaCompiler.Target
