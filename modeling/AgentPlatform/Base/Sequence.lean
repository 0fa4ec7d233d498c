import AgentPlatform.Base.Alone

/-! # Operations one after the other

Operations that are served in turn, each alone, and a machine of which they are a refinement. -/

namespace Interleaving

variable {σ κ χ ω ο α : Type} {Reply : κ → Type}

section

variable (backend : Backend σ κ χ ω Reply) (program : ο → Program κ Reply α) (Good : χ → Prop)

/-- The operation runs alone to its answer, under choices of a kind. -/
def Serves (id : Nat) (before : σ) (operation : ο) (answer : α) (after : σ) : Prop :=
  ∃ choices, (∀ choice ∈ choices, Good choice) ∧
    alone backend id (program operation) choices before = some (after, answer)

/-- The operations run alone, one after the other. -/
inductive ServesAll : Nat → σ → List ο → List α → σ → Prop where
  | nil {id : Nat} {state : σ} : ServesAll id state [] [] state
  | cons {id : Nat} {before middle after : σ} {operation : ο} {operations : List ο} {answer : α} {answers : List α}
      (first : Serves backend program Good id before operation answer middle)
      (rest : ServesAll (id + 1) middle operations answers after) :
      ServesAll id before (operation :: operations) (answer :: answers) after

end

def Observation.answer : Observation ο ω α → Option α
  | .responded _ answer => some answer
  | .invoked .. | .did .. => none

/-- Operations one after the other are a run of the machine, which answers them in turn. -/
theorem ServesAll.run {backend : Backend σ κ χ ω Reply} {program : ο → Program κ Reply α} {Good : χ → Prop} {id : Nat}
    {before after : σ} {operations : List ο} {answers : List α}
    (served : ServesAll backend program Good id before operations answers after) (last : χ) :
    ∃ events log, (machine backend program).runFrom ⟨before, [], id⟩ events =
        some (⟨after, [], id + operations.length⟩, log) ∧ log.filterMap Observation.answer = answers := by
  induction served with
  | nil => exact ⟨[], [], rfl, rfl⟩
  | cons first rest ih =>
    rename_i id before middle after operation operations answer answers
    obtain ⟨choices, -, ran⟩ := first
    obtain ⟨effects, served⟩ := runFrom_serve ran (Nat.le_refl id) last
    obtain ⟨events, log, onward, answered⟩ := ih
    have silent : (effects.map (.did id) : List (Observation ο ω α)).filterMap Observation.answer = [] := by
      rw [List.filterMap_map]
      exact List.filterMap_eq_nil_iff.mpr fun _ _ => rfl
    have whole := Machine.runFrom_append served onward
    rw [Nat.add_assoc, Nat.add_comm 1] at whole
    refine ⟨serve id operation choices last ++ events, _, whole, ?_⟩
    rw [List.filterMap_append, List.filterMap_cons_none rfl, List.filterMap_append, silent, answered]
    rfl

/-! ## Programs that settle -/

section

variable (backend : Backend σ κ χ ω Reply) (Good : χ → Prop) (id : Nat)

/-- A program answers under choices of a kind, and only as a condition allows. -/
def Settles (Post : σ → α → Prop) : Program κ Reply α → σ → Prop
  | .done answer, state => Post state answer
  | .command c next, state =>
    (∃ choice, Good choice ∧ (backend.exec id state choice c).isSome) ∧
      ∀ choice after reply out, Good choice → backend.exec id state choice c = some (after, reply, out) →
        Settles Post (next reply) after

end

section

variable {backend : Backend σ κ χ ω Reply} {Good : χ → Prop} {id : Nat} {state : σ} {point : Program κ Reply α}

theorem settles_bind {β : Type} {rest : α → Program κ Reply β} {Post : σ → β → Prop} :
    Settles backend Good id Post (point.bind rest) state ↔
      Settles backend Good id (fun middle value => Settles backend Good id Post (rest value) middle) point state := by
  induction point generalizing state with
  | done answer => rfl
  | command c next ih => simp only [Program.bind, Settles, ih]

theorem Settles.imp {Post Post' : σ → α → Prop} (settles : Settles backend Good id Post point state)
    (weaker : ∀ after answer, Post after answer → Post' after answer) : Settles backend Good id Post' point state := by
  induction point generalizing state with
  | done answer => exact weaker _ _ settles
  | command c next ih =>
    exact ⟨settles.1, fun choice after reply out good ran => ih reply (settles.2 choice after reply out good ran)⟩

theorem Settles.answers {Post : σ → α → Prop} (settles : Settles backend Good id Post point state) :
    ∃ choices, (∀ choice ∈ choices, Good choice) ∧ ∃ after answer,
      alone backend id point choices state = some (after, answer) := by
  induction point generalizing state with
  | done answer => exact ⟨[], fun _ member => absurd member List.not_mem_nil, state, answer, rfl⟩
  | command c next ih =>
    obtain ⟨⟨choice, good, runs⟩, onward⟩ := settles
    obtain ⟨⟨middle, reply, out⟩, ran⟩ := Option.isSome_iff_exists.mp runs
    obtain ⟨choices, others, after, answer, rest⟩ := ih reply (onward choice middle reply out good ran)
    exact ⟨choice :: choices, List.forall_mem_cons.mpr ⟨good, others⟩, after, answer,
      alone_command.mpr ⟨choice, choices, middle, reply, out, rfl, ran, rest⟩⟩

theorem Settles.exactly {Post : σ → α → Prop} (settles : Settles backend Good id Post point state) {choices : List χ}
    {after : σ} {answer : α} (good : ∀ choice ∈ choices, Good choice)
    (ran : alone backend id point choices state = some (after, answer)) : Post after answer := by
  induction point generalizing state choices with
  | done value =>
    obtain ⟨-, rfl, rfl⟩ := alone_done.mp ran
    exact settles
  | command c next ih =>
    obtain ⟨choice, rest, middle, reply, out, rfl, executed, onward⟩ := alone_command.mp ran
    obtain ⟨first, others⟩ := List.forall_mem_cons.mp good
    exact ih reply (settles.2 choice middle reply out first executed) others onward

end

/-! ## Sequences of calls -/

section

variable {θ γ ρ : Type} (step : θ → γ → θ × ρ) (operation : θ → γ → ο)

/-- What a sequence of calls comes to. -/
def outcomes : θ → List γ → List ρ
  | _, [] => []
  | state, call :: calls => (step state call).2 :: outcomes (step state call).1 calls

/-- The operations of a sequence of calls, each in the state in which the call comes. -/
def operations : θ → List γ → List ο
  | _, [] => []
  | state, call :: calls => operation state call :: operations (step state call).1 calls

/-- Something holds of each call of a sequence in the state in which it comes. -/
def Each (Holds : θ → γ → Prop) : θ → List γ → Prop
  | _, [] => True
  | state, call :: calls => Holds state call ∧ Each Holds (step state call).1 calls

variable (backend : Backend σ κ χ ω Reply) (program : ο → Program κ Reply α) (Good : χ → Prop)

/-- A backend answers a call as a step does. -/
def Simulates (Relates : σ → θ → Prop) (Reports : α → ρ → Prop) (state : σ) (abstract : θ) (call : γ) : Prop :=
  ∀ id, Settles backend Good id
    (fun after answer => Reports answer (step abstract call).2 ∧ Relates after (step abstract call).1)
    (program (operation abstract call)) state

/-- Operations are served one after the other, which is a run of the machine, and with the answers reported. -/
structure Realizes (Reports : α → ρ → Prop) (id : Nat) (state : σ) (operations : List ο) (reports : List ρ) : Prop where
  serves : ∃ answers final, ServesAll backend program Good id state operations answers final
  runs : ∀ answers final, ServesAll backend program Good id state operations answers final →
    ∃ events log, (machine backend program).runFrom ⟨state, [], id⟩ events =
      some (⟨final, [], id + operations.length⟩, log) ∧ log.filterMap Observation.answer = answers
  reports : ∀ answers final, ServesAll backend program Good id state operations answers final →
    List.Forall₂ Reports answers reports

end

section

variable {θ γ ρ : Type} {step : θ → γ → θ × ρ} {operation : θ → γ → ο} {backend : Backend σ κ χ ω Reply}
  {program : ο → Program κ Reply α} {Good : χ → Prop} {Relates : σ → θ → Prop} {Reports : α → ρ → Prop}
  {Holds : θ → γ → Prop}

theorem Each.imp {Holds' : θ → γ → Prop} {abstract : θ} {calls : List γ} (holds : Each step Holds abstract calls)
    (weaker : ∀ abstract call, Holds abstract call → Holds' abstract call) : Each step Holds' abstract calls := by
  induction calls generalizing abstract with
  | nil => trivial
  | cons call calls ih => exact ⟨weaker abstract call holds.1, ih holds.2⟩

theorem realizes_of_simulates (last : χ)
    (simulates : ∀ state abstract call, Relates state abstract → Holds abstract call →
      Simulates step operation backend program Good Relates Reports state abstract call)
    {calls : List γ} {id : Nat} {state : σ} {abstract : θ} (related : Relates state abstract)
    (holds : Each step Holds abstract calls) :
    Realizes backend program Good Reports id state (operations step operation abstract calls)
      (outcomes step abstract calls) := by
  induction calls generalizing id state abstract with
  | nil =>
    refine ⟨⟨[], state, .nil⟩, fun answers final served => served.run last, fun answers final served => ?_⟩
    cases served
    exact .nil
  | cons call calls ih =>
    have stepped := simulates state abstract call related holds.1 id
    refine ⟨?_, fun answers final served => served.run last, fun answers final served => ?_⟩
    · obtain ⟨choices, good, middle, answer, ran⟩ := stepped.answers
      obtain ⟨-, onward⟩ := stepped.exactly good ran
      obtain ⟨answers, final, rest⟩ := (@ih (id + 1) _ _ onward holds.2).serves
      exact ⟨answer :: answers, final, .cons ⟨choices, good, ran⟩ rest⟩
    · cases served with
      | cons first rest =>
        obtain ⟨choices, good, ran⟩ := first
        obtain ⟨reported, onward⟩ := stepped.exactly good ran
        exact .cons reported ((@ih (id + 1) _ _ onward holds.2).reports _ _ rest)

end

end Interleaving
