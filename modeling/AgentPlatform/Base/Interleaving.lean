import AgentPlatform.Base.History
import AgentPlatform.Base.Machine
import Mathlib.Tactic.Choose

/-! # Interleavings

Programs of atomic commands run over one backend in any order of steps. A proof outline gives each
point of a program an assertion that the steps of other programs keep. -/

namespace Interleaving

inductive Program (κ : Type) (Reply : κ → Type) (α : Type) where
  | done (answer : α)
  | command (c : κ) (next : Reply c → Program κ Reply α)

/-- A program, and then the program that its answer selects. -/
def Program.bind {κ : Type} {Reply : κ → Type} {α β : Type} :
    Program κ Reply α → (α → Program κ Reply β) → Program κ Reply β
  | .done answer, rest => rest answer
  | .command c next, rest => .command c fun reply => (next reply).bind rest

theorem Program.bind_assoc {κ : Type} {Reply : κ → Type} {α β γ : Type} (first : Program κ Reply α)
    (second : α → Program κ Reply β) (third : β → Program κ Reply γ) :
    (first.bind second).bind third = first.bind fun answer => (second answer).bind third := by
  induction first with
  | done answer => rfl
  | command c next ih =>
    simp only [Program.bind]
    exact congrArg _ (funext ih)

/-- `exec` runs a command of a call under a choice of the environment, and answers `none` while the
    command has to wait. -/
structure Backend (σ κ χ ω : Type) (Reply : κ → Type) where
  init : σ
  exec : Nat → σ → χ → (c : κ) → Option (σ × Reply c × List ω)

inductive Observation (ο ω α : Type) where
  | invoked (id : Nat) (operation : ο)
  | did (id : Nat) (effect : ω)
  | responded (id : Nat) (answer : α)
deriving DecidableEq

structure Call (κ : Type) (Reply : κ → Type) (α : Type) where
  id : Nat
  program : Program κ Reply α

structure State (σ κ : Type) (Reply : κ → Type) (α : Type) where
  backend : σ
  calls : List (Call κ Reply α)
  next : Nat

/-- A call is invoked under a new identifier. -/
inductive Event (ο χ : Type) where
  | invoke (id : Nat) (operation : ο)
  | advance (id : Nat) (choice : χ)

variable {σ κ χ ω ο α : Type} {Reply : κ → Type}

def Observation.id : Observation ο ω α → Nat
  | .invoked id _ | .did id _ | .responded id _ => id

/-- One step of a call that has been taken off the calls in flight. -/
def advance (backend : Backend σ κ χ ω Reply) (state : State σ κ Reply α) (id : Nat) (choice : χ) :
    Program κ Reply α → Option (State σ κ Reply α × List (Observation ο ω α))
  | .done answer => some (state, [.responded id answer])
  | .command c next =>
    (backend.exec id state.backend choice c).map fun (after, reply, out) =>
      ({ state with backend := after, calls := ⟨id, next reply⟩ :: state.calls }, out.map (.did id))

def machine (backend : Backend σ κ χ ω Reply) (program : ο → Program κ Reply α) :
    Machine (State σ κ Reply α) (Event ο χ) (Observation ο ω α) where
  init := ⟨backend.init, [], 0⟩
  step state
    | .invoke id operation =>
      if state.next ≤ id then
        some ({ state with calls := ⟨id, program operation⟩ :: state.calls, next := id + 1 },
          [.invoked id operation])
      else none
    | .advance id choice =>
      (state.calls.find? fun call => call.id = id).bind fun call =>
        advance backend { state with calls := state.calls.filter fun other => other.id ≠ id } id choice
          call.program

/-- What a proof of a system speaks of: an invariant of the backend and of all observations, what a
    step of a call may do to the backend, and the effects that are considered. -/
structure Discipline (σ ο ω α : Type) where
  Invariant : σ → List (Observation ο ω α) → Prop
  Guarantee : Nat → σ → σ → Prop
  Allowed : ω → Prop
  quiet : ∀ id state, Guarantee id state state

variable (discipline : Discipline σ ο ω α)

/-- The steps of other calls keep an assertion. -/
def Stable (id : Nat) (assertion : σ → List (Observation ο ω α) → Prop) : Prop :=
  ∀ other before log after out, other ≠ id → discipline.Invariant before log →
    discipline.Guarantee other before after → (∀ observation ∈ out, observation.id = other) →
    assertion before log → assertion after (log ++ out)

/-- A proof outline: a stable assertion at each point of a program, from which the command there keeps
    the invariant, does no more than the guarantee and leads to the assertion at the next point. -/
inductive Outline (backend : Backend σ κ χ ω Reply) (id : Nat) :
    (σ → List (Observation ο ω α) → Prop) → Program κ Reply α → Prop where
  | done {assertion : σ → List (Observation ο ω α) → Prop} {answer : α}
      (stable : Stable discipline id assertion)
      (finish : ∀ state log, discipline.Invariant state log → assertion state log →
        discipline.Invariant state (log ++ [.responded id answer])) :
      Outline backend id assertion (.done answer)
  | command {assertion : σ → List (Observation ο ω α) → Prop} {c : κ}
      {next : Reply c → Program κ Reply α} (following : Reply c → σ → List (Observation ο ω α) → Prop)
      (stable : Stable discipline id assertion)
      (step : ∀ state log choice after reply out, discipline.Invariant state log → assertion state log →
        backend.exec id state choice c = some (after, reply, out) →
        (∀ effect ∈ out, discipline.Allowed effect) →
        discipline.Invariant after (log ++ out.map (.did id)) ∧ discipline.Guarantee id state after ∧
          following reply after (log ++ out.map (.did id)))
      (onward : ∀ reply, Outline backend id (following reply) (next reply)) :
      Outline backend id assertion (.command c next)

theorem mem_map_did {id : Nat} {out : List ω} {observation : Observation ο ω α}
    (member : observation ∈ out.map (Observation.did id)) : observation.id = id := by
  obtain ⟨_, _, rfl⟩ := List.mem_map.mp member
  rfl

theorem machine_step_cases {backend : Backend σ κ χ ω Reply} {program : ο → Program κ Reply α}
    {state next : State σ κ Reply α} {event : Event ο χ} {out : List (Observation ο ω α)}
    (stepped : (machine backend program).step state event = some (next, out)) :
    (∃ id operation, state.next ≤ id ∧ next = { state with
        calls := ⟨id, program operation⟩ :: state.calls, next := id + 1 } ∧
      out = [.invoked id operation]) ∨
    (∃ id answer, ⟨id, .done answer⟩ ∈ state.calls ∧
      next = { state with calls := state.calls.filter fun other => other.id ≠ id } ∧
      out = [.responded id answer]) ∨
    (∃ id c onward choice after reply effects, ⟨id, .command c onward⟩ ∈ state.calls ∧
      backend.exec id state.backend choice c = some (after, reply, effects) ∧
      next = { state with
        backend := after
        calls := ⟨id, onward reply⟩ :: state.calls.filter fun other => other.id ≠ id } ∧
      out = effects.map (.did id)) := by
  cases event with
  | invoke id operation =>
    obtain ⟨fresh, same⟩ := Option.ite_none_right_eq_some.mp stepped
    cases same
    exact .inl ⟨id, operation, fresh, rfl, rfl⟩
  | advance id choice =>
    simp only [machine, Option.bind_eq_some_iff] at stepped
    obtain ⟨⟨own, point⟩, found, moved⟩ := stepped
    have member := List.mem_of_find?_eq_some found
    obtain rfl : own = id := by simpa using List.find?_some found
    cases point with
    | done answer =>
      cases moved
      exact .inr (.inl ⟨own, answer, member, rfl, rfl⟩)
    | command c onward =>
      simp only [advance, Option.map_eq_some_iff] at moved
      obtain ⟨⟨after, reply, effects⟩, ran, same⟩ := moved
      cases same
      exact .inr (.inr ⟨own, c, onward, choice, after, reply, effects, member, ran, rfl, rfl⟩)

/-- Of a run so far: identifiers are fresh, a call is observed first when it is invoked and last when it
    answers, and no call in flight has answered. -/
structure Orderly (state : State σ κ Reply α) (log : List (Observation ο ω α)) : Prop where
  older : ∀ observation ∈ log, observation.id < state.next
  known : ∀ call ∈ state.calls, call.id < state.next
  unanswered : ∀ call ∈ state.calls, ∀ answer, .responded call.id answer ∉ log
  closed : Throughout (fun before observation => ∀ answer, .responded observation.id answer ∉ before) log
  invokedFirst : Throughout (fun before observation => ∀ id operation, observation = .invoked id operation →
    ∀ earlier ∈ before, earlier.id ≠ id) log

theorem step_orderly {backend : Backend σ κ χ ω Reply} {program : ο → Program κ Reply α}
    {state next : State σ κ Reply α} {event : Event ο χ} {log out : List (Observation ο ω α)}
    (orderly : Orderly state log) (stepped : (machine backend program).step state event = some (next, out)) :
    Orderly next (log ++ out) := by
  rcases machine_step_cases stepped with ⟨id, operation, fresh, rfl, rfl⟩ | ⟨id, answer, member, rfl, rfl⟩ |
    ⟨id, c, onward, choice, after, reply, effects, member, -, rfl, rfl⟩
  · have older (observation : Observation ο ω α) (seen : observation ∈ log) : observation.id < id :=
      Nat.lt_of_lt_of_le (orderly.older observation seen) fresh
    constructor
    · intro observation seen
      rcases List.mem_append.mp seen with seen | seen
      · exact Nat.lt_succ_of_lt (older observation seen)
      · rw [List.mem_singleton.mp seen]
        exact Nat.lt_succ_self _
    · intro call waiting
      rcases List.mem_cons.mp waiting with rfl | waiting
      · exact Nat.lt_succ_self _
      · exact Nat.lt_succ_of_lt (Nat.lt_of_lt_of_le (orderly.known call waiting) fresh)
    · intro call waiting answer seen
      have seen : .responded call.id answer ∈ log := by simpa using seen
      rcases List.mem_cons.mp waiting with rfl | waiting
      · exact Nat.lt_irrefl _ (older _ seen)
      · exact orderly.unanswered call waiting answer seen
    · exact orderly.closed.snoc fun answer seen => Nat.lt_irrefl _ (older _ seen)
    · refine orderly.invokedFirst.snoc fun invoked _ same earlier seen => ?_
      cases same
      exact Nat.ne_of_lt (older earlier seen)
  · have older := orderly.known _ member
    constructor
    · intro observation seen
      rcases List.mem_append.mp seen with seen | seen
      · exact orderly.older observation seen
      · rwa [List.mem_singleton.mp seen]
    · exact fun call waiting => orderly.known call (List.mem_filter.mp waiting).1
    · intro call waiting other seen
      obtain ⟨waiting, apart⟩ := List.mem_filter.mp waiting
      rcases List.mem_append.mp seen with seen | seen
      · exact orderly.unanswered call waiting other seen
      · cases List.mem_singleton.mp seen
        simp at apart
    · exact orderly.closed.snoc fun other seen => orderly.unanswered _ member other seen
    · exact orderly.invokedFirst.snoc fun _ _ same => by cases same
  · have older := orderly.known _ member
    have effects_only : ∀ observation ∈ effects.map (Observation.did id : ω → Observation ο ω α),
        ∃ effect, observation = .did id effect := by
      intro observation seen
      obtain ⟨effect, _, rfl⟩ := List.mem_map.mp seen
      exact ⟨effect, rfl⟩
    constructor
    · intro observation seen
      rcases List.mem_append.mp seen with seen | seen
      · exact orderly.older observation seen
      · rwa [mem_map_did seen]
    · intro call waiting
      rcases List.mem_cons.mp waiting with rfl | waiting
      · exact older
      · exact orderly.known call (List.mem_filter.mp waiting).1
    · intro call waiting answer seen
      have seen : .responded call.id answer ∈ log := by
        rcases List.mem_append.mp seen with seen | seen
        · exact seen
        · obtain ⟨_, same⟩ := effects_only _ seen
          cases same
      rcases List.mem_cons.mp waiting with rfl | waiting
      · exact orderly.unanswered _ member answer seen
      · exact orderly.unanswered call (List.mem_filter.mp waiting).1 answer seen
    · refine orderly.closed.append fun before observation rest same answer seen => ?_
      have own : observation.id = id := mem_map_did (by rw [same]; simp)
      rw [own] at seen
      rcases List.mem_append.mp seen with seen | seen
      · exact orderly.unanswered _ member answer seen
      · obtain ⟨_, other⟩ := effects_only _ (by rw [same]; exact List.mem_append_left _ seen)
        cases other
    · refine orderly.invokedFirst.append (.of_forall_mem fun observation seen _ _ _ same => ?_)
      obtain ⟨_, rfl⟩ := effects_only _ seen
      cases same

theorem initial_orderly (backend : Backend σ κ χ ω Reply) (program : ο → Program κ Reply α) :
    Orderly (machine backend program).init ([] : List (Observation ο ω α)) :=
  ⟨by simp, by simp [machine], by simp [machine], .nil _, .nil _⟩

theorem run_orderly {backend : Backend σ κ χ ω Reply} {program : ο → Program κ Reply α}
    {events : List (Event ο χ)} {final : State σ κ Reply α} {log : List (Observation ο ω α)}
    (ran : (machine backend program).run events = some (final, log)) : Orderly final log :=
  Machine.run_invariant Orderly (initial_orderly backend program) (fun _ _ _ _ _ => step_orderly) ran

theorem run_executed {backend : Backend σ κ χ ω Reply} {program : ο → Program κ Reply α} {events : List (Event ο χ)}
    {final : State σ κ Reply α} {log : List (Observation ο ω α)}
    (ran : (machine backend program).run events = some (final, log)) {id : Nat} {effect : ω}
    (seen : .did id effect ∈ log) :
    ∃ state choice c after reply out, backend.exec id state choice c = some (after, reply, out) ∧ effect ∈ out ∧
      ∀ other ∈ out, .did id other ∈ log := by
  refine Machine.run_invariant (fun _ log => .did id effect ∈ log →
    ∃ state choice c after reply out, backend.exec id state choice c = some (after, reply, out) ∧ effect ∈ out ∧
      ∀ other ∈ out, .did id other ∈ log) (by simp) ?_ ran seen
  intro state log event next out earlier stepped seen
  rcases List.mem_append.mp seen with seen | seen
  · obtain ⟨state, choice, c, after, reply, effects, executed, member, others⟩ := earlier seen
    exact ⟨state, choice, c, after, reply, effects, executed, member,
      fun other among => List.mem_append_left _ (others other among)⟩
  · rcases machine_step_cases stepped with ⟨_, _, -, -, rfl⟩ | ⟨_, _, -, -, rfl⟩ |
      ⟨own, c, onward, choice, after, reply, effects, -, executed, -, rfl⟩
    · simp at seen
    · simp at seen
    · obtain ⟨effect, member, same⟩ := List.mem_map.mp seen
      cases same
      exact ⟨_, choice, c, after, reply, effects, executed, member,
        fun other among => List.mem_append_right _ (List.mem_map_of_mem among)⟩

theorem run_waiting {backend : Backend σ κ χ ω Reply} {program : ο → Program κ Reply α} {events : List (Event ο χ)}
    {final : State σ κ Reply α} {log : List (Observation ο ω α)}
    (ran : (machine backend program).run events = some (final, log)) :
    ∀ observation ∈ log, (∃ call ∈ final.calls, call.id = observation.id) ∨
      ∃ answer, .responded observation.id answer ∈ log := by
  refine Machine.run_invariant (fun state log => ∀ observation ∈ log,
    (∃ call ∈ state.calls, call.id = observation.id) ∨ ∃ answer, .responded observation.id answer ∈ log) (by simp) ?_ ran
  intro state log event next out waiting stepped
  have still {id : Nat} (own : ∃ call ∈ state.calls, call.id = id) (gone : ¬ ∃ call ∈ next.calls, call.id = id) :
      ∃ answer, .responded id answer ∈ out := by
    obtain ⟨call, member, rfl⟩ := own
    rcases machine_step_cases stepped with ⟨_, _, -, rfl, rfl⟩ | ⟨id, answer, -, rfl, rfl⟩ |
      ⟨id, c, onward, _, _, reply, effects, -, -, rfl, rfl⟩
    · exact absurd ⟨call, List.mem_cons_of_mem _ member, rfl⟩ gone
    · by_cases same : call.id = id
      · exact ⟨answer, by simp [same]⟩
      · exact absurd ⟨call, List.mem_filter.mpr ⟨member, by simpa using same⟩, rfl⟩ gone
    · by_cases same : call.id = id
      · exact absurd ⟨⟨id, onward reply⟩, List.mem_cons_self, same.symm⟩ gone
      · refine absurd ⟨call, List.mem_cons_of_mem _ (List.mem_filter.mpr ⟨member, ?_⟩), rfl⟩ gone
        simpa using same
  intro observation seen
  by_cases here : ∃ call ∈ next.calls, call.id = observation.id
  · exact .inl here
  · refine .inr ?_
    rcases List.mem_append.mp seen with seen | seen
    · rcases waiting observation seen with own | ⟨answer, answered⟩
      · obtain ⟨answer, answered⟩ := still own here
        exact ⟨answer, List.mem_append_right _ answered⟩
      · exact ⟨answer, List.mem_append_left _ answered⟩
    · rcases machine_step_cases stepped with ⟨id, operation, -, rfl, rfl⟩ | ⟨id, answer, -, rfl, rfl⟩ |
        ⟨id, c, onward, _, _, reply, effects, member, -, rfl, rfl⟩
      · rw [List.mem_singleton.mp seen] at here
        exact absurd ⟨⟨id, program operation⟩, List.mem_cons_self, rfl⟩ here
      · rw [List.mem_singleton.mp seen]
        exact ⟨answer, by simp [Observation.id]⟩
      · rw [mem_map_did seen] at here
        exact absurd ⟨⟨id, onward reply⟩, List.mem_cons_self, rfl⟩ here

theorem Orderly.invoked_unique {state : State σ κ Reply α} {log : List (Observation ο ω α)}
    (orderly : Orderly state log) {id : Nat} {first second : ο} (seen₁ : .invoked id first ∈ log)
    (seen₂ : .invoked id second ∈ log) : first = second := by
  rcases eq_or_earlier seen₁ seen₂ with same | ⟨before, after, same, earlier⟩ |
    ⟨before, after, same, earlier⟩
  · cases same
    rfl
  · exact absurd rfl (orderly.invokedFirst before _ after same id second rfl _ earlier)
  · exact absurd rfl (orderly.invokedFirst before _ after same id first rfl _ earlier)

theorem Orderly.not_after_answer {state : State σ κ Reply α} {before after : List (Observation ο ω α)}
    {id : Nat} {answer : α} (orderly : Orderly state (before ++ .responded id answer :: after))
    {observation : Observation ο ω α} (later : observation ∈ after) : observation.id ≠ id := by
  rintro rfl
  obtain ⟨between, rest, rfl⟩ := List.append_of_mem later
  exact orderly.closed (before ++ .responded observation.id answer :: between) observation rest (by simp) answer
    (by simp)

/-- The system is under the discipline: a call starts with a proof outline for its program. -/
structure Governs (backend : Backend σ κ χ ω Reply) (program : ο → Program κ Reply α) : Prop where
  initial : discipline.Invariant backend.init []
  invoke : ∀ state log id operation, discipline.Invariant state log →
    (∀ observation ∈ log, observation.id ≠ id) →
    discipline.Invariant state (log ++ [.invoked id operation]) ∧
      ∃ assertion, assertion state (log ++ [.invoked id operation]) ∧
        Outline discipline backend id assertion (program operation)

/-- What holds between the steps of a run. -/
structure Outlined (backend : Backend σ κ χ ω Reply) (state : State σ κ Reply α)
    (log : List (Observation ο ω α)) : Prop where
  invariant : discipline.Invariant state.backend log
  calls : ∀ call ∈ state.calls, ∃ assertion, assertion state.backend log ∧
    Outline discipline backend call.id assertion call.program

variable {discipline}

theorem Outline.stable {backend : Backend σ κ χ ω Reply} {id : Nat}
    {assertion : σ → List (Observation ο ω α) → Prop} {point : Program κ Reply α}
    (outline : Outline discipline backend id assertion point) : Stable discipline id assertion := by
  cases outline with
  | done stable => exact stable
  | command _ stable => exact stable

theorem Outline.unreached {backend : Backend σ κ χ ω Reply} {id : Nat}
    {assertion : σ → List (Observation ο ω α) → Prop} (never : ∀ state log, ¬ assertion state log)
    (point : Program κ Reply α) : Outline discipline backend id assertion point := by
  induction point generalizing assertion with
  | done answer =>
    exact .done (fun _ _ log _ _ _ _ _ _ holds => absurd holds (never _ log))
      fun state log _ holds => absurd holds (never state log)
  | command c next ih =>
    refine .command (fun _ _ _ => False) (fun _ _ log _ _ _ _ _ _ holds => absurd holds (never _ log)) ?_
      fun reply => ih reply fun _ _ => not_false
    exact fun state log _ _ _ _ _ holds => absurd holds (never state log)

theorem Outline.given {backend : Backend σ κ χ ω Reply} {id : Nat} {fact : Prop}
    {assertion : σ → List (Observation ο ω α) → Prop} {point : Program κ Reply α}
    (outline : fact → Outline discipline backend id assertion point) :
    Outline discipline backend id (fun state log => fact ∧ assertion state log) point := by
  by_cases holds : fact
  · simpa only [holds, true_and] using outline holds
  · exact .unreached (fun _ _ both => holds both.1) point

theorem Outline.witness {backend : Backend σ κ χ ω Reply} {id : Nat} {ι : Type}
    {assertion : ι → σ → List (Observation ο ω α) → Prop} {point : Program κ Reply α}
    (outline : ∀ value, Outline discipline backend id (assertion value) point) :
    Outline discipline backend id (fun state log => ∃ value, assertion value state log) point := by
  have stable : Stable discipline id fun state log => ∃ value, assertion value state log := by
    rintro other before log after out apart invariant guarantee own ⟨value, holds⟩
    exact ⟨value, (outline value).stable other before log after out apart invariant guarantee own holds⟩
  induction point generalizing assertion with
  | done answer =>
    refine .done stable ?_
    rintro state log invariant ⟨value, holds⟩
    cases outline value with
    | done _ finish => exact finish state log invariant holds
  | command c next ih =>
    have parts (value : ι) : ∃ following : Reply c → σ → List (Observation ο ω α) → Prop, (∀ state log choice after reply out,
        discipline.Invariant state log → assertion value state log →
        backend.exec id state choice c = some (after, reply, out) →
        (∀ effect ∈ out, discipline.Allowed effect) →
        discipline.Invariant after (log ++ out.map (.did id)) ∧ discipline.Guarantee id state after ∧
          following reply after (log ++ out.map (.did id))) ∧
        ∀ reply, Outline discipline backend id (following reply) (next reply) := by
      cases outline value with
      | command following _ step onward => exact ⟨following, step, onward⟩
    choose following step onward using parts
    refine .command (fun reply state log => ∃ value, following value reply state log) stable ?_ ?_
    · rintro state log choice after reply out invariant ⟨value, holds⟩ ran allowed
      obtain ⟨kept, guarantee, there⟩ := step value state log choice after reply out invariant holds ran allowed
      exact ⟨kept, guarantee, value, there⟩
    · intro reply
      refine ih reply (fun value => onward value reply) ?_
      rintro other before log after out apart invariant guarantee own ⟨value, holds⟩
      exact ⟨value, (onward value reply).stable other before log after out apart invariant guarantee own
        holds⟩

def Seen (facts : List (Observation ο ω α)) (_ : σ) (log : List (Observation ο ω α)) : Prop := facts ⊆ log

theorem stable_seen (id : Nat) (facts : List (Observation ο ω α)) :
    Stable discipline id (Seen facts) := by
  intro _ _ log _ out _ _ _ _ seen
  exact fun _ member => List.mem_append_left out (seen member)

theorem step_outlined {backend : Backend σ κ χ ω Reply} {program : ο → Program κ Reply α}
    (governs : Governs discipline backend program) {state next : State σ κ Reply α} {event : Event ο χ}
    {log out : List (Observation ο ω α)} (orderly : Orderly state log)
    (outlined : Outlined discipline backend state log)
    (stepped : (machine backend program).step state event = some (next, out))
    (allowed : ∀ id effect, .did id effect ∈ out → discipline.Allowed effect) :
    Outlined discipline backend next (log ++ out) := by
  rcases machine_step_cases stepped with ⟨id, operation, fresh, rfl, rfl⟩ | ⟨id, answer, member, rfl, rfl⟩ |
    ⟨id, c, onward, choice, after, reply, effects, member, ran, rfl, rfl⟩
  · obtain ⟨invariant, assertion, holds, outline⟩ := governs.invoke state.backend log id operation
      outlined.invariant fun observation seen =>
        Nat.ne_of_lt (Nat.lt_of_lt_of_le (orderly.older observation seen) fresh)
    refine ⟨invariant, fun call waiting => ?_⟩
    rcases List.mem_cons.mp waiting with rfl | waiting
    · exact ⟨assertion, holds, outline⟩
    · obtain ⟨held, holds, outline⟩ := outlined.calls call waiting
      refine ⟨held, outline.stable id _ _ _ _ ?_ outlined.invariant (discipline.quiet _ _) ?_ holds, outline⟩
      · exact Nat.ne_of_gt (Nat.lt_of_lt_of_le (orderly.known call waiting) fresh)
      · exact List.forall_mem_singleton.mpr rfl
  · obtain ⟨held, holds, outline⟩ := outlined.calls _ member
    cases outline with
    | done stable finish =>
      refine ⟨finish _ _ outlined.invariant holds, fun call waiting => ?_⟩
      obtain ⟨waiting, apart⟩ := List.mem_filter.mp waiting
      obtain ⟨held, holds, outline⟩ := outlined.calls call waiting
      refine ⟨held, outline.stable id _ _ _ _ ?_ outlined.invariant (discipline.quiet _ _) ?_ holds, outline⟩
      · exact fun same => of_decide_eq_true apart same.symm
      · exact List.forall_mem_singleton.mpr rfl
  · obtain ⟨held, holds, outline⟩ := outlined.calls _ member
    cases outline with
    | command following stable step proceed =>
      obtain ⟨invariant, guarantee, there⟩ := step _ _ _ _ _ _ outlined.invariant holds ran
        fun effect seen => allowed id effect (List.mem_map_of_mem seen)
      refine ⟨invariant, fun call waiting => ?_⟩
      rcases List.mem_cons.mp waiting with rfl | waiting
      · exact ⟨following reply, there, proceed reply⟩
      · obtain ⟨waiting, apart⟩ := List.mem_filter.mp waiting
        obtain ⟨held, holds, outline⟩ := outlined.calls call waiting
        refine ⟨held, outline.stable id _ _ _ _ ?_ outlined.invariant guarantee
          (fun observation => mem_map_did) holds, outline⟩
        exact fun same => of_decide_eq_true apart same.symm

/-- The interleaving rule: a run whose effects are all considered keeps the invariant. -/
theorem run_invariant {backend : Backend σ κ χ ω Reply} {program : ο → Program κ Reply α}
    (governs : Governs discipline backend program) {events : List (Event ο χ)} {final : State σ κ Reply α}
    {log : List (Observation ο ω α)} (ran : (machine backend program).run events = some (final, log))
    (allowed : ∀ id effect, .did id effect ∈ log → discipline.Allowed effect) :
    discipline.Invariant final.backend log := by
  have outlined := Machine.run_invariant (fun state log => Orderly state log ∧
    ((∀ id effect, .did id effect ∈ log → discipline.Allowed effect) →
      Outlined discipline backend state log)) ?_ ?_ ran
  · exact (outlined.2 allowed).invariant
  · exact ⟨initial_orderly backend program, fun _ => ⟨governs.initial, by simp [machine]⟩⟩
  · rintro state before event next out ⟨orderly, outlined⟩ stepped
    refine ⟨step_orderly orderly stepped, fun allowed => ?_⟩
    refine step_outlined governs orderly (outlined fun id effect seen => ?_) stepped fun id effect seen => ?_
    · exact allowed id effect (List.mem_append_left _ seen)
    · exact allowed id effect (List.mem_append_right _ seen)

end Interleaving
