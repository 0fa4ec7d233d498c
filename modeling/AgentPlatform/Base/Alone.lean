import AgentPlatform.Base.Interleaving

/-! # Programs that run alone

A program whose commands no other program comes between, each under the next of the given choices. -/

namespace Interleaving

variable {σ κ χ ω ο α β : Type} {Reply : κ → Type}

/-- The state and the answer, where the choices are as many as the commands that run. -/
def alone (backend : Backend σ κ χ ω Reply) (id : Nat) : Program κ Reply α → List χ → σ → Option (σ × α)
  | .done answer, choices, state => if choices.isEmpty then some (state, answer) else none
  | .command _ _, [], _ => none
  | .command c next, choice :: choices, state =>
    (backend.exec id state choice c).bind fun (after, reply, _) => alone backend id (next reply) choices after

variable {backend : Backend σ κ χ ω Reply} {id : Nat} {state final : σ} {choices : List χ}

theorem alone_done {answer other : α} :
    alone backend id (.done answer) choices state = some (final, other) ↔
      choices = [] ∧ final = state ∧ other = answer := by
  cases choices with
  | nil => simp [alone, eq_comm]
  | cons => simp [alone]

theorem alone_command {c : κ} {next : Reply c → Program κ Reply α} {answer : α} :
    alone backend id (.command c next) choices state = some (final, answer) ↔
      ∃ choice rest after reply out, choices = choice :: rest ∧
        backend.exec id state choice c = some (after, reply, out) ∧
        alone backend id (next reply) rest after = some (final, answer) := by
  cases choices with
  | nil => simp [alone]
  | cons choice rest =>
    simp only [alone, Option.bind_eq_some_iff, List.cons.injEq]
    constructor
    · rintro ⟨⟨after, reply, out⟩, ran, onward⟩
      exact ⟨choice, rest, after, reply, out, ⟨rfl, rfl⟩, ran, onward⟩
    · rintro ⟨_, _, after, reply, out, ⟨rfl, rfl⟩, ran, onward⟩
      exact ⟨(after, reply, out), ran, onward⟩

/-- The call of an operation and its steps, with nothing between them. -/
def serve (id : Nat) (operation : ο) (choices : List χ) (last : χ) : List (Event ο χ) :=
  .invoke id operation :: (choices ++ [last]).map (.advance id)

/-- What runs alone is a run of the machine, where no other call is in flight. -/
theorem runFrom_serve {program : ο → Program κ Reply α} {operation : ο} {answer : α} {next : Nat}
    (ran : alone backend id (program operation) choices state = some (final, answer)) (fresh : next ≤ id) (last : χ) :
    ∃ effects : List ω, (machine backend program).runFrom ⟨state, [], next⟩ (serve id operation choices last) =
      some (⟨final, [], id + 1⟩, .invoked id operation :: (effects.map (.did id) ++ [.responded id answer])) := by
  suffices steps : ∀ point : Program κ Reply α, alone backend id point choices state = some (final, answer) →
      ∃ effects : List ω, (machine backend program).runFrom ⟨state, [⟨id, point⟩], id + 1⟩ ((choices ++ [last]).map (.advance id)) =
        some (⟨final, [], id + 1⟩, effects.map (.did id) ++ [.responded id answer]) by
    obtain ⟨effects, onward⟩ := steps (program operation) ran
    have started : (machine backend program).step ⟨state, [], next⟩ (.invoke id operation) =
        some (⟨state, [⟨id, program operation⟩], id + 1⟩, [.invoked id operation]) := if_pos fresh
    exact ⟨effects, Machine.runFrom_step started onward⟩
  clear ran
  intro point ran
  induction point generalizing choices state with
  | done value =>
    obtain ⟨rfl, rfl, rfl⟩ := alone_done.mp ran
    have answered : (machine backend program).step ⟨final, [⟨id, .done answer⟩], id + 1⟩ (.advance id last) =
        some (⟨final, [], id + 1⟩, [.responded id answer]) := by
      simp [machine, advance]
    exact ⟨[], by simpa using Machine.runFrom_step answered (Machine.runFrom_nil _)⟩
  | command c next ih =>
    obtain ⟨choice, rest, after, reply, out, rfl, executed, onward⟩ := alone_command.mp ran
    obtain ⟨effects, stepped⟩ := ih reply onward
    have advanced : (machine backend program).step ⟨state, [⟨id, .command c next⟩], id + 1⟩ (.advance id choice) =
        some (⟨after, [⟨id, next reply⟩], id + 1⟩, out.map (.did id)) := by
      simp [machine, advance, executed]
    refine ⟨out ++ effects, ?_⟩
    rw [show (out ++ effects).map (Observation.did id : ω → Observation ο ω α) = out.map (.did id) ++ effects.map (.did id) from
      List.map_append, List.append_assoc]
    exact Machine.runFrom_step advanced stepped

end Interleaving
