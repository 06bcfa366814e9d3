import Mathlib.Data.List.Forall2

/-!
# What a computation can end in

The rules of `Outcome` follow a computation step by step. They keep two things at once: which
failures it can end in, and what is known about its value.
-/

namespace SchemaCompiler

/-- Results that are a value of some kind, or one of some failures. -/
structure Outcome {ε α : Type} (allowed : ε → Prop) (holds : α → Prop) (result : Except ε α) :
    Prop where
  failure : ∀ failure, result = .error failure → allowed failure
  value : ∀ value, result = .ok value → holds value

namespace Outcome

variable {ε α β : Type} {allowed : ε → Prop} {holds : α → Prop} {result : Except ε α}

theorem ok {value : α} (here : holds value) : Outcome allowed holds (.ok value : Except ε α) where
  failure _ failed := by cases failed
  value other same := by
    cases same
    exact here

theorem error {failure : ε} (isAllowed : allowed failure) :
    Outcome allowed holds (.error failure : Except ε α) where
  failure other same := by
    cases same
    exact isAllowed
  value _ done := by cases done

theorem allow {wider : ε → Prop} (first : Outcome allowed holds result)
    (more : ∀ failure, allowed failure → wider failure) : Outcome wider holds result where
  failure failure failed := more failure (first.failure failure failed)
  value := first.value

theorem mono {other : α → Prop} (first : Outcome allowed holds result)
    (weaker : ∀ value, holds value → other value) : Outcome allowed other result where
  failure := first.failure
  value value done := weaker value (first.value value done)

/-- A value comes with where it is from. -/
theorem known (first : Outcome allowed holds result) :
    Outcome allowed (fun value => result = .ok value ∧ holds value) result where
  failure := first.failure
  value value done := ⟨done, first.value value done⟩

/-- A second computation starts from what is known about the value of the first. -/
theorem bind {next : α → Except ε β} {after : β → Prop} (first : Outcome allowed holds result)
    (second : ∀ value, holds value → Outcome allowed after (next value)) :
    Outcome allowed after (result >>= next) := by
  cases result with
  | error failure => exact error (first.failure failure rfl)
  | ok value => exact second value (first.value value rfl)

theorem mapError {δ : Type} {wider : δ → Prop} {change : ε → δ}
    (first : Outcome allowed holds result)
    (changed : ∀ failure, allowed failure → wider (change failure)) :
    Outcome wider holds (result.mapError change) := by
  cases result with
  | error failure => exact error (changed failure (first.failure failure rfl))
  | ok value => exact ok (first.value value rfl)

theorem map {after : β → Prop} {change : α → β} (first : Outcome allowed holds result)
    (changed : ∀ value, holds value → after (change value)) :
    Outcome allowed after (result.map change) :=
  first.bind fun value here => ok (changed value here)

/-- Each branch of a condition is taken where the condition holds, or where it does not. -/
theorem byCases {condition : Prop} [Decidable condition] {other : Except ε α}
    (first : condition → Outcome allowed holds result)
    (second : ¬condition → Outcome allowed holds other) :
    Outcome allowed holds (if condition then result else other) := by
  split
  next true => exact first true
  next false => exact second false

theorem ite {condition : Prop} [Decidable condition] {other : Except ε α}
    (first : Outcome allowed holds result) (second : Outcome allowed holds other) :
    Outcome allowed holds (if condition then result else other) :=
  byCases (fun _ => first) fun _ => second

theorem mapM {items : List β} {read : β → Except ε α}
    (each : ∀ item ∈ items, Outcome allowed holds (read item)) :
    Outcome allowed (fun values => ∀ value ∈ values, holds value) (items.mapM read) := by
  induction items with
  | nil => exact ok (by simp)
  | cons item rest ih =>
      rw [List.forall_mem_cons] at each
      rw [List.mapM_cons]
      refine each.1.bind fun value here => (ih each.2).bind fun values others => ok ?_
      exact List.forall_mem_cons.mpr ⟨here, others⟩

theorem mapM_failures {items : List β} {read : β → Except ε α}
    (each : ∀ item ∈ items, Outcome allowed (fun _ => True) (read item)) :
    Outcome allowed (fun _ => True) (items.mapM read) := (mapM each).mono fun _ _ => trivial

end Outcome

/-! ## Lists -/

/-- Each item on the right of related lists is related to one on the left. -/
theorem exists_left_of_mem {α β : Type} {relation : α → β → Prop} {left : List α} {right : List β}
    (related : List.Forall₂ relation left right) {item : β} (member : item ∈ right) :
    ∃ other ∈ left, relation other item := by
  induction related with
  | nil => cases member
  | cons first _ ih =>
      rcases List.mem_cons.mp member with rfl | later
      · exact ⟨_, by simp, first⟩
      · obtain ⟨other, isOther, here⟩ := ih later
        exact ⟨other, by simp [isOther], here⟩

/-- Each item on the left of related lists is related to one on the right. -/
theorem exists_right_of_mem {α β : Type} {relation : α → β → Prop} {left : List α} {right : List β}
    (related : List.Forall₂ relation left right) {item : α} (member : item ∈ left) :
    ∃ other ∈ right, relation item other :=
  exists_left_of_mem related.flip member

theorem nodup_eraseDups {α : Type} [BEq α] [LawfulBEq α] (items : List α) :
    items.eraseDups.Nodup := by
  match items with
  | [] => simp
  | item :: rest =>
      rw [List.eraseDups_cons, List.nodup_cons]
      exact ⟨by simp, nodup_eraseDups (rest.filter fun other => !other == item)⟩
termination_by items.length
decreasing_by exact Nat.lt_succ_of_le (List.length_filter_le ..)

theorem eraseDups_sublist {α : Type} [BEq α] [LawfulBEq α] (items : List α) :
    items.eraseDups.Sublist items := by
  match items with
  | [] => simp
  | item :: rest =>
      rw [List.eraseDups_cons]
      exact ((eraseDups_sublist (rest.filter fun other => !other == item)).trans
        List.filter_sublist).cons_cons item
termination_by items.length
decreasing_by exact Nat.lt_succ_of_le (List.length_filter_le ..)

end SchemaCompiler
