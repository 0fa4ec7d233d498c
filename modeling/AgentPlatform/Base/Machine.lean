import Mathlib.Data.List.Basic

/-! # Machines with observations

A state, a partial step on events, and the observations each step emits. -/

/-- `step` answers `none` on an event that cannot happen in that state. -/
structure Machine (σ ε ω : Type) where
  init : σ
  step : σ → ε → Option (σ × List ω)

namespace Machine

variable {σ ε ω : Type} (machine : Machine σ ε ω)

def runFrom : σ → List ε → Option (σ × List ω)
  | state, [] => some (state, [])
  | state, event :: events =>
    (machine.step state event).bind fun next =>
      (runFrom next.1 events).map fun rest => (rest.1, next.2 ++ rest.2)

def run (events : List ε) : Option (σ × List ω) := machine.runFrom machine.init events

variable {machine}

theorem runFrom_nil (state : σ) : machine.runFrom state [] = some (state, []) := rfl

theorem runFrom_cons {state final : σ} {event : ε} {events : List ε} {log : List ω}
    (ran : machine.runFrom state (event :: events) = some (final, log)) :
    ∃ next out rest, machine.step state event = some (next, out) ∧
      machine.runFrom next events = some (final, rest) ∧ log = out ++ rest := by
  simp only [runFrom, Option.bind_eq_some_iff, Option.map_eq_some_iff] at ran
  obtain ⟨⟨next, out⟩, stepped, ⟨final', rest⟩, ran, same⟩ := ran
  cases same
  exact ⟨next, out, rest, stepped, ran, rfl⟩

theorem runFrom_step {state next final : σ} {event : ε} {events : List ε} {out rest : List ω}
    (stepped : machine.step state event = some (next, out))
    (ran : machine.runFrom next events = some (final, rest)) :
    machine.runFrom state (event :: events) = some (final, out ++ rest) := by
  simp only [runFrom, stepped, Option.bind_some, ran, Option.map_some]

theorem runFrom_append {state middle final : σ} {first second : List ε} {log₁ log₂ : List ω}
    (ran₁ : machine.runFrom state first = some (middle, log₁))
    (ran₂ : machine.runFrom middle second = some (final, log₂)) :
    machine.runFrom state (first ++ second) = some (final, log₁ ++ log₂) := by
  induction first generalizing state log₁ with
  | nil =>
    cases ran₁
    exact ran₂
  | cons event events ih =>
    obtain ⟨next, out, rest, stepped, onward, rfl⟩ := runFrom_cons ran₁
    rw [List.cons_append, List.append_assoc]
    exact runFrom_step stepped (ih onward)

theorem runFrom_mem {state final : σ} {events : List ε} {log : List ω}
    (ran : machine.runFrom state events = some (final, log)) {event : ε} (member : event ∈ events) :
    ∃ before after out, machine.step before event = some (after, out) ∧ out ⊆ log := by
  induction events generalizing state log with
  | nil => cases member
  | cons first events ih =>
    obtain ⟨next, out, rest, stepped, onward, rfl⟩ := runFrom_cons ran
    rcases List.mem_cons.mp member with rfl | later
    · exact ⟨state, next, out, stepped, List.subset_append_left _ _⟩
    · obtain ⟨before, after, emitted, moved, seen⟩ := ih onward later
      exact ⟨before, after, emitted, moved, List.Subset.trans seen (List.subset_append_right _ _)⟩

theorem run_concat {final : σ} {events : List ε} {event : ε} {log : List ω}
    (ran : machine.run (events ++ [event]) = some (final, log)) :
    ∃ middle before out, machine.run events = some (middle, before) ∧
      machine.step middle event = some (final, out) ∧ log = before ++ out := by
  suffices general : ∀ state, machine.runFrom state (events ++ [event]) = some (final, log) →
      ∃ middle before out, machine.runFrom state events = some (middle, before) ∧
        machine.step middle event = some (final, out) ∧ log = before ++ out from general machine.init ran
  clear ran
  intro state ran
  induction events generalizing state log with
  | nil =>
    obtain ⟨next, out, rest, stepped, onward, rfl⟩ := runFrom_cons ran
    cases onward
    exact ⟨state, [], out, rfl, stepped, by simp⟩
  | cons first events ih =>
    obtain ⟨next, out, rest, stepped, onward, rfl⟩ := runFrom_cons ran
    obtain ⟨middle, before, last, reached, moved, rfl⟩ := ih next onward
    exact ⟨middle, out ++ before, last, runFrom_step stepped reached, moved, by simp⟩

theorem run_snoc {middle final : σ} {events : List ε} {event : ε} {before out : List ω}
    (ran : machine.run events = some (middle, before)) (stepped : machine.step middle event = some (final, out)) :
    machine.run (events ++ [event]) = some (final, before ++ out) := by
  refine runFrom_append ran ?_
  simpa using runFrom_step stepped (runFrom_nil final)

/-- The run rule: what holds at the start and is preserved by each step, of the state and of
    everything observed so far, holds after every run. -/
theorem runFrom_invariant (Invariant : σ → List ω → Prop)
    (preserve : ∀ state log event next out, Invariant state log →
      machine.step state event = some (next, out) → Invariant next (log ++ out))
    {state final : σ} {events : List ε} {before log : List ω} (holds : Invariant state before)
    (ran : machine.runFrom state events = some (final, log)) : Invariant final (before ++ log) := by
  induction events generalizing state before log with
  | nil =>
    cases ran
    rwa [List.append_nil]
  | cons event events ih =>
    obtain ⟨next, out, rest, stepped, onward, rfl⟩ := runFrom_cons ran
    rw [← List.append_assoc]
    exact ih (preserve state before event next out holds stepped) onward

theorem run_invariant (Invariant : σ → List ω → Prop) (initial : Invariant machine.init [])
    (preserve : ∀ state log event next out, Invariant state log →
      machine.step state event = some (next, out) → Invariant next (log ++ out))
    {final : σ} {events : List ε} {log : List ω} (ran : machine.run events = some (final, log)) :
    Invariant final log := by
  simpa using runFrom_invariant Invariant preserve initial ran

theorem run_invariant_of_events {Invariant : σ → List ω → Prop} {Allowed : ε → Prop}
    (initial : Invariant machine.init [])
    (preserve : ∀ state log event next out, Invariant state log → Allowed event →
      machine.step state event = some (next, out) → Invariant next (log ++ out))
    {final : σ} {events : List ε} {log : List ω} (allowed : ∀ event ∈ events, Allowed event)
    (ran : machine.run events = some (final, log)) : Invariant final log := by
  suffices general : ∀ {state final : σ} {events : List ε} {before log : List ω},
      Invariant state before → (∀ event ∈ events, Allowed event) →
      machine.runFrom state events = some (final, log) → Invariant final (before ++ log) by
    simpa using general initial allowed ran
  intro state final events before log holds allowed ran
  induction events generalizing state before log with
  | nil =>
    cases ran
    rwa [List.append_nil]
  | cons event events ih =>
    obtain ⟨next, out, rest, stepped, onward, rfl⟩ := runFrom_cons ran
    rw [← List.append_assoc]
    have here := preserve state before event next out holds (allowed event (by simp)) stepped
    exact ih here (fun later member => allowed later (List.mem_cons_of_mem _ member)) onward

end Machine
