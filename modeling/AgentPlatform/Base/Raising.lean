import AgentPlatform.Base.Effect
import AgentPlatform.Base.Interleaving

/-! # Programs that may raise

Programs of commands whose answer may be an exception, and the computations that they stand for. -/

namespace Effect

variable {σ ω ε α β γ : Type}

theorem bind_assoc (first : Effect σ ω ε α) (second : α → Effect σ ω ε β) (third : β → Effect σ ω ε γ) :
    (first >>= second) >>= third = first >>= fun value => second value >>= third := by
  funext state
  change bind (bind first second) third state = bind first (fun value => bind (second value) third) state
  unfold bind
  rcases first state with ⟨result, middle, log⟩
  cases result with
  | error error => rfl
  | ok value =>
    dsimp only
    rcases second value middle with ⟨result, final, log'⟩
    cases result with
    | error error => rfl
    | ok value' =>
      dsimp only
      rw [List.append_assoc]

theorem pure_bind (value : α) (next : α → Effect σ ω ε β) : (pure value : Effect σ ω ε α) >>= next = next value := by
  funext state
  change bind (fun state => (.ok value, state, [])) next state = next value state
  unfold bind
  dsimp only
  rcases next value state with ⟨result, final, log⟩
  rfl

/-- A computation that never raises may stand outside the handler. -/
theorem capture_bind {first : Effect σ ω ε α} (total : ∀ state error final log, first state ≠ (.error error, final, log))
    (next : α → Effect σ ω ε β) : capture (first >>= next) = first >>= fun value => capture (next value) := by
  funext state
  change capture (bind first next) state = bind first (fun value => capture (next value)) state
  unfold capture bind
  rcases ran : first state with ⟨result, middle, log⟩
  cases result with
  | error error => exact absurd ran (total state error middle log)
  | ok value => rfl

end Effect

namespace Interleaving

variable {σ κ ω ε α β : Type} {Reply : κ → Type}

instance : Monad (Program κ Reply) where
  pure := .done
  bind := Program.bind

/-- A program, and then the program for its value, where it did not raise. -/
def Program.andThen (first : Program κ Reply (Except ε α)) (rest : α → Program κ Reply (Except ε β)) :
    Program κ Reply (Except ε β) :=
  first.bind fun
    | .ok value => rest value
    | .error error => .done (.error error)

theorem Program.andThen_assoc {γ : Type} (first : Program κ Reply (Except ε α)) (second : α → Program κ Reply (Except ε β))
    (third : β → Program κ Reply (Except ε γ)) :
    (first.andThen second).andThen third = first.andThen fun value => (second value).andThen third := by
  induction first with
  | done answer => cases answer <;> rfl
  | command c next ih =>
    change Program.command c (fun reply => ((next reply).andThen second).andThen third) = Program.command c _
    exact congrArg _ (funext ih)

/-- The computation of a program, where each command is a computation that answers it. -/
def Program.interpret (perform : (c : κ) → Effect σ ω ε (Reply c)) :
    Program κ Reply (Except ε α) → Effect σ ω ε α
  | .done (.ok value) => pure value
  | .done (.error error) => Effect.raise error
  | .command c next => perform c >>= fun reply => (next reply).interpret perform

section

variable (perform : (c : κ) → Effect σ ω ε (Reply c))

theorem Program.interpret_andThen (first : Program κ Reply (Except ε α)) (rest : α → Program κ Reply (Except ε β)) :
    (first.andThen rest).interpret perform = first.interpret perform >>= fun value => (rest value).interpret perform := by
  induction first with
  | done answer =>
    cases answer with
    | ok value => exact (Effect.pure_bind value fun value => (rest value).interpret perform).symm
    | error error => rfl
  | command c next ih =>
    have onward : (fun reply => ((next reply).andThen rest).interpret perform) =
        fun reply => (next reply).interpret perform >>= fun value => (rest value).interpret perform := funext ih
    calc
      ((Program.command c next).andThen rest).interpret perform =
          perform c >>= fun reply => ((next reply).andThen rest).interpret perform := rfl
      _ = (perform c >>= fun reply => (next reply).interpret perform) >>= fun value => (rest value).interpret perform := by
        rw [onward, Effect.bind_assoc]

/-- What follows a program that is handled sees its answer as a value. -/
theorem Program.interpret_bind (total : ∀ c state error final log, perform c state ≠ (.error error, final, log))
    (first : Program κ Reply (Except ε α)) (rest : Except ε α → Program κ Reply (Except ε β)) :
    (first.bind rest).interpret perform =
      Effect.capture (first.interpret perform) >>= fun answer => (rest answer).interpret perform := by
  induction first with
  | done answer =>
    cases answer with
    | ok value => exact (Effect.pure_bind (.ok value) fun answer => (rest answer).interpret perform).symm
    | error error => exact (Effect.pure_bind (.error error) fun answer => (rest answer).interpret perform).symm
  | command c next ih =>
    have onward : (fun reply => ((next reply).bind rest).interpret perform) = fun reply =>
        Effect.capture ((next reply).interpret perform) >>= fun answer => (rest answer).interpret perform := funext ih
    calc
      ((Program.command c next).bind rest).interpret perform =
          perform c >>= fun reply => ((next reply).bind rest).interpret perform := rfl
      _ = Effect.capture (perform c >>= fun reply => (next reply).interpret perform) >>=
          fun answer => (rest answer).interpret perform := by
        rw [onward, Effect.capture_bind (total c), Effect.bind_assoc]

end

end Interleaving
