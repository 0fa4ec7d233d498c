import Mathlib.Data.List.Basic

/-! # Computations that may fail

What a success says of the parts of a computation. -/

namespace Except

variable {ε ε' α β : Type}

theorem bind_eq_ok {result : Except ε α} {next : α → Except ε β} {value : β}
    (succeeded : (result >>= next) = .ok value) : ∃ middle, result = .ok middle ∧ next middle = .ok value := by
  cases result with
  | error error => cases succeeded
  | ok middle => exact ⟨middle, rfl, succeeded⟩

theorem map_eq_ok {result : Except ε α} {change : α → β} {value : β} (mapped : result.map change = .ok value) :
    ∃ before, result = .ok before ∧ change before = value := by
  cases result with
  | error error => cases mapped
  | ok before => exact ⟨before, rfl, ok.inj mapped⟩

theorem mapError_eq_ok {result : Except ε α} {change : ε → ε'} {value : α}
    (mapped : result.mapError change = .ok value) : result = .ok value := by
  cases result with
  | error error => cases mapped
  | ok before => exact congrArg _ (ok.inj mapped)

theorem exists_of_mapM {action : α → Except ε β} {items : List α} {values : List β}
    (succeeded : items.mapM action = .ok values) {value : β} (member : value ∈ values) :
    ∃ item ∈ items, action item = .ok value := by
  induction items generalizing values with
  | nil =>
    cases succeeded
    cases member
  | cons item items ih =>
    rw [List.mapM_cons] at succeeded
    obtain ⟨first, here, succeeded⟩ := bind_eq_ok succeeded
    obtain ⟨rest, onward, succeeded⟩ := bind_eq_ok succeeded
    cases succeeded
    rcases List.mem_cons.mp member with rfl | member
    · exact ⟨item, List.mem_cons_self, here⟩
    · obtain ⟨later, member, made⟩ := ih onward member
      exact ⟨later, List.mem_cons_of_mem _ member, made⟩

theorem forall₂_of_mapM {action : α → Except ε β} {items : List α} {values : List β}
    (succeeded : items.mapM action = .ok values) : List.Forall₂ (fun item value => action item = .ok value) items values := by
  induction items generalizing values with
  | nil =>
    cases succeeded
    exact .nil
  | cons item items ih =>
    rw [List.mapM_cons] at succeeded
    obtain ⟨first, here, succeeded⟩ := bind_eq_ok succeeded
    obtain ⟨rest, onward, succeeded⟩ := bind_eq_ok succeeded
    cases succeeded
    exact .cons here (ih onward)

theorem mapM_succeeds_iff {action : α → Except ε β} {items : List α} :
    (∃ values, items.mapM action = .ok values) ↔ ∀ item ∈ items, ∃ value, action item = .ok value := by
  induction items with
  | nil => exact ⟨fun _ item member => absurd member List.not_mem_nil, fun _ => ⟨[], rfl⟩⟩
  | cons item items ih =>
    rw [List.forall_mem_cons, ← ih, List.mapM_cons]
    constructor
    · rintro ⟨values, succeeded⟩
      obtain ⟨first, here, succeeded⟩ := bind_eq_ok succeeded
      obtain ⟨rest, onward, -⟩ := bind_eq_ok succeeded
      exact ⟨⟨first, here⟩, rest, onward⟩
    · rintro ⟨⟨first, here⟩, rest, onward⟩
      rw [here, onward]
      exact ⟨first :: rest, rfl⟩

end Except
