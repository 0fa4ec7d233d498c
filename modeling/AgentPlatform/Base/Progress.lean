import AgentPlatform.Base.Allowance
import Mathlib.Algebra.BigOperators.Group.List.Basic
import Mathlib.Algebra.GroupWithZero.Nat

/-! # Progress

Calls that take a bounded number of steps, and systems in which some call can always step: every call in
flight can come to its answer, and no schedule goes on for ever. -/

namespace Interleaving

variable {σ κ χ ω ο α : Type} {Reply : κ → Type}

/-- So many commands at most, whatever they are answered. -/
abbrev Brief (count : Nat) (point : Program κ Reply α) : Prop :=
  Within (fun _ => 1) (fun _ => True) (fun _ => True) count point

/-- The calls in flight take so many steps at most, their answers included. -/
def Affords (calls : List (Call κ Reply α)) (steps : Nat) : Prop :=
  ∃ counts : List Nat, List.Forall₂ (fun call count => Brief count call.program) calls counts ∧
    (counts.map Nat.succ).sum ≤ steps

theorem Affords.nil (steps : Nat) : Affords ([] : List (Call κ Reply α)) steps := ⟨[], .nil, Nat.zero_le _⟩

theorem Affords.cons {call : Call κ Reply α} {calls : List (Call κ Reply α)} {count steps : Nat}
    (brief : Brief count call.program) (affords : Affords calls steps) : Affords (call :: calls) (count + 1 + steps) := by
  obtain ⟨counts, each, bounded⟩ := affords
  refine ⟨count :: counts, .cons brief each, ?_⟩
  rw [List.map_cons, List.sum_cons]
  omega

theorem Affords.inv {call : Call κ Reply α} {calls : List (Call κ Reply α)} {steps : Nat}
    (affords : Affords (call :: calls) steps) :
    ∃ count rest, Brief count call.program ∧ Affords calls rest ∧ count + 1 + rest ≤ steps := by
  obtain ⟨counts, each, bounded⟩ := affords
  cases each with
  | cons brief each =>
    rename_i count counts
    rw [List.map_cons, List.sum_cons] at bounded
    refine ⟨count, (counts.map Nat.succ).sum, brief, ⟨counts, each, Nat.le_refl _⟩, ?_⟩
    omega

theorem Affords.mono {calls : List (Call κ Reply α)} {less more : Nat} (affords : Affords calls less) (enough : less ≤ more) :
    Affords calls more := by
  obtain ⟨counts, each, bounded⟩ := affords
  exact ⟨counts, each, Nat.le_trans bounded enough⟩

theorem Affords.filter {calls : List (Call κ Reply α)} {steps : Nat} (affords : Affords calls steps)
    (keep : Call κ Reply α → Bool) : Affords (calls.filter keep) steps := by
  induction calls generalizing steps with
  | nil => exact .nil steps
  | cons call calls ih =>
    obtain ⟨count, rest, brief, others, bounded⟩ := affords.inv
    rw [List.filter_cons]
    split
    · exact ((ih others).cons brief).mono bounded
    · exact (ih others).mono (by omega)

/-- The steps of one call apart from those of the others. -/
theorem Affords.split {calls : List (Call κ Reply α)} {call : Call κ Reply α} {steps : Nat} (affords : Affords calls steps)
    (member : call ∈ calls) :
    ∃ count rest, Brief count call.program ∧ Affords (calls.filter fun other => other.id ≠ call.id) rest ∧
      count + 1 + rest ≤ steps := by
  induction calls generalizing steps with
  | nil => cases member
  | cons first calls ih =>
    obtain ⟨count, rest, brief, others, bounded⟩ := affords.inv
    rcases List.mem_cons.mp member with rfl | member
    · refine ⟨count, rest, brief, ?_, bounded⟩
      rw [List.filter_cons_of_neg (by simp)]
      exact others.filter _
    · obtain ⟨count', rest', brief', others', bounded'⟩ := ih others member
      rw [List.filter_cons]
      split
      · exact ⟨count', count + 1 + rest', brief', others'.cons brief, by omega⟩
      · exact ⟨count', rest', brief', others', by omega⟩

variable {backend : Backend σ κ χ ω Reply} {program : ο → Program κ Reply α}

theorem step_affords {state next : State σ κ Reply α} {id : Nat} {choice : χ} {out : List (Observation ο ω α)} {steps : Nat}
    (affords : Affords state.calls steps)
    (stepped : (machine backend program).step state (.advance id choice) = some (next, out)) :
    ∃ fewer < steps, Affords next.calls fewer := by
  simp only [machine, Option.bind_eq_some_iff] at stepped
  obtain ⟨⟨own, point⟩, found, moved⟩ := stepped
  have member := List.mem_of_find?_eq_some found
  obtain rfl : own = id := by simpa using List.find?_some found
  obtain ⟨count, rest, brief, others, bounded⟩ := affords.split member
  cases point with
  | done answer =>
    cases moved
    exact ⟨rest, by omega, others⟩
  | command c onward =>
    simp only [advance, Option.map_eq_some_iff] at moved
    obtain ⟨⟨after, reply, effects⟩, -, same⟩ := moved
    cases same
    obtain ⟨-, afforded, continues⟩ := brief
    have afforded : 1 ≤ count := afforded
    exact ⟨count - 1 + 1 + rest, by omega, others.cons (continues reply)⟩

/-- Steps of calls that are in flight, under choices of one kind. -/
def Advances (Allowed : χ → Prop) (events : List (Event ο χ)) : Prop :=
  ∀ event ∈ events, ∃ id choice, event = .advance id choice ∧ Allowed choice

theorem runFrom_bounded {Allowed : χ → Prop} {state final : State σ κ Reply α} {events : List (Event ο χ)}
    {log : List (Observation ο ω α)} {steps : Nat} (affords : Affords state.calls steps) (advances : Advances Allowed events)
    (ran : (machine backend program).runFrom state events = some (final, log)) : events.length ≤ steps := by
  induction events generalizing state log steps with
  | nil => exact Nat.zero_le steps
  | cons event events ih =>
    obtain ⟨next, out, rest, stepped, onward, -⟩ := Machine.runFrom_cons ran
    obtain ⟨id, choice, rfl, -⟩ := advances event List.mem_cons_self
    obtain ⟨fewer, less, afforded⟩ := step_affords affords stepped
    have bounded := ih afforded (fun later member => advances later (List.mem_cons_of_mem _ member)) onward
    rw [List.length_cons]
    omega

/-- Where some call can always step, all calls in flight can be led to their answers. -/
theorem exists_drained (Allowed : χ → Prop) (Inv : State σ κ Reply α → Prop)
    (progress : ∀ state, Inv state → state.calls ≠ [] → ∃ id choice next out, Allowed choice ∧
      (machine backend program).step state (.advance id choice) = some (next, out) ∧ Inv next)
    {state : State σ κ Reply α} {steps : Nat} (holds : Inv state) (affords : Affords state.calls steps) :
    ∃ (events : List (Event ο χ)) (final : State σ κ Reply α) (log : List (Observation ο ω α)),
      Advances Allowed events ∧ (machine backend program).runFrom state events = some (final, log) ∧
        final.calls = [] ∧ Inv final := by
  induction steps using Nat.strongRecOn generalizing state with
  | ind steps ih =>
    by_cases idle : state.calls = []
    · exact ⟨[], state, [], fun _ member => absurd member List.not_mem_nil, rfl, idle, holds⟩
    · obtain ⟨id, choice, next, out, allowed, stepped, kept⟩ := progress state holds idle
      obtain ⟨fewer, less, afforded⟩ := step_affords affords stepped
      obtain ⟨events, final, rest, advances, ran, drained, last⟩ := ih fewer less kept afforded
      refine ⟨.advance id choice :: events, final, out ++ rest, ?_, Machine.runFrom_step stepped ran, drained, last⟩
      intro event member
      rcases List.mem_cons.mp member with rfl | member
      · exact ⟨id, choice, rfl, allowed⟩
      · exact advances event member

/-- Every call in flight started as one of a kind of program. -/
theorem run_affords {count : Nat} (brief : ∀ operation, Brief count (program operation)) {events : List (Event ο χ)}
    {final : State σ κ Reply α} {log : List (Observation ο ω α)}
    (ran : (machine backend program).run events = some (final, log)) :
    Affords final.calls ((count + 1) * final.calls.length) := by
  have each : ∀ call ∈ final.calls, Brief count call.program := by
    refine Machine.run_invariant (fun state _ => ∀ call ∈ state.calls, Brief count call.program) (by simp [machine]) ?_ ran
    intro state log event next out each stepped
    rcases machine_step_cases stepped with ⟨id, operation, -, rfl, -⟩ | ⟨id, answer, -, rfl, -⟩ |
      ⟨id, c, onward, choice, after, reply, effects, member, -, rfl, -⟩
    · intro call waiting
      rcases List.mem_cons.mp waiting with rfl | waiting
      · exact brief operation
      · exact each call waiting
    · intro call waiting
      exact each call (List.mem_filter.mp waiting).1
    · intro call waiting
      rcases List.mem_cons.mp waiting with rfl | waiting
      · have own : Within (fun _ => 1) (fun _ => True) (fun _ => True) (count - 1) (onward reply) :=
          (each _ member).2.2 reply
        exact own.mono (Nat.sub_le count 1)
      · exact each call (List.mem_filter.mp waiting).1
  clear ran
  generalize final.calls = calls at each ⊢
  induction calls with
  | nil => exact .nil _
  | cons call calls ih =>
    have others := ih fun other waiting => each other (List.mem_cons_of_mem _ waiting)
    refine (others.cons (each call List.mem_cons_self)).mono ?_
    rw [List.length_cons, Nat.mul_succ]
    omega

end Interleaving
