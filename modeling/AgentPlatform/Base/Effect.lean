import Mathlib.Data.List.Basic

/-! # Effects

Computations that thread a state, record what they do and may raise. -/

/-- From a state: the result or the exception, the state after, and the actions taken. -/
def Effect (σ ω ε α : Type) : Type := σ → Except ε α × σ × List ω

namespace Effect

variable {σ ω ε α β : Type}

def bind (first : Effect σ ω ε α) (next : α → Effect σ ω ε β) : Effect σ ω ε β := fun state =>
  match first state with
  | (.ok value, middle, log) =>
    let (result, final, rest) := next value middle
    (result, final, log ++ rest)
  | (.error error, middle, log) => (.error error, middle, log)

instance : Monad (Effect σ ω ε) where
  pure value := fun state => (.ok value, state, [])
  bind := bind

def raise (error : ε) : Effect σ ω ε α := fun state => (.error error, state, [])

def emit (action : ω) : Effect σ ω ε Unit := fun state => (.ok (), state, [action])

/-- The result of a computation as a value: the `try` of an exception handler. -/
def capture (body : Effect σ ω ε α) : Effect σ ω ε (Except ε α) := fun state =>
  let (result, final, log) := body state
  (.ok result, final, log)

/-- The `except` clauses of a computation. -/
def handle (body : Effect σ ω ε α) (handler : ε → Effect σ ω ε α) : Effect σ ω ε α := do
  match ← capture body with
  | .ok value => pure value
  | .error error => handler error

section

variable {state final : σ} {log : List ω}

theorem pure_eq {value : α} {result : Except ε α} :
    (pure value : Effect σ ω ε α) state = (result, final, log) ↔
      result = .ok value ∧ final = state ∧ log = [] := by
  constructor
  · intro same
    cases same
    exact ⟨rfl, rfl, rfl⟩
  · rintro ⟨rfl, rfl, rfl⟩
    rfl

theorem raise_eq {error : ε} {result : Except ε α} :
    (raise error : Effect σ ω ε α) state = (result, final, log) ↔
      result = .error error ∧ final = state ∧ log = [] := by
  constructor
  · intro same
    cases same
    exact ⟨rfl, rfl, rfl⟩
  · rintro ⟨rfl, rfl, rfl⟩
    rfl

theorem emit_eq {action : ω} {result : Except ε Unit} :
    (emit action : Effect σ ω ε Unit) state = (result, final, log) ↔
      result = .ok () ∧ final = state ∧ log = [action] := by
  constructor
  · intro same
    cases same
    exact ⟨rfl, rfl, rfl⟩
  · rintro ⟨rfl, rfl, rfl⟩
    rfl

theorem capture_eq {body : Effect σ ω ε α} {result : Except ε (Except ε α)} :
    capture body state = (result, final, log) ↔
      ∃ inner, result = .ok inner ∧ body state = (inner, final, log) := by
  constructor
  · intro same
    cases same
    exact ⟨_, rfl, rfl⟩
  · rintro ⟨inner, rfl, ran⟩
    simp only [capture, ran]

theorem bind_eq {first : Effect σ ω ε α} {next : α → Effect σ ω ε β} {result : Except ε β} :
    (first >>= next) state = (result, final, log) ↔
      (∃ error, first state = (.error error, final, log) ∧ result = .error error) ∨
      ∃ value middle before after, first state = (.ok value, middle, before) ∧
        next value middle = (result, final, after) ∧ log = before ++ after := by
  change bind first next state = (result, final, log) ↔ _
  unfold bind
  rcases first state with ⟨outcome, middle, before⟩
  cases outcome with
  | error error =>
    simp only [Prod.mk.injEq, Except.error.injEq, reduceCtorEq, false_and, exists_false, or_false]
    constructor
    · rintro ⟨rfl, rfl, rfl⟩
      exact ⟨error, ⟨rfl, rfl, rfl⟩, rfl⟩
    · rintro ⟨_, ⟨rfl, rfl, rfl⟩, rfl⟩
      exact ⟨rfl, rfl, rfl⟩
  | ok value =>
    simp only [Prod.mk.injEq, reduceCtorEq, false_and, exists_false, false_or, Except.ok.injEq]
    constructor
    · rintro ⟨rfl, rfl, rfl⟩
      exact ⟨value, middle, before, _, ⟨rfl, rfl, rfl⟩, rfl, rfl⟩
    · rintro ⟨_, _, _, after, ⟨rfl, rfl, rfl⟩, ran, rfl⟩
      rw [ran]
      exact ⟨rfl, rfl, rfl⟩

theorem handle_eq {body : Effect σ ω ε α} {handler : ε → Effect σ ω ε α} {result : Except ε α} :
    handle body handler state = (result, final, log) ↔
      (∃ value, body state = (.ok value, final, log) ∧ result = .ok value) ∨
      ∃ error middle before after, body state = (.error error, middle, before) ∧
        handler error middle = (result, final, after) ∧ log = before ++ after := by
  unfold handle
  rw [bind_eq]
  constructor
  · rintro (⟨error, captured, _⟩ | ⟨inner, middle, before, after, captured, next, rfl⟩)
    · obtain ⟨_, absurd, _⟩ := capture_eq.mp captured
      cases absurd
    · obtain ⟨outcome, same, ran⟩ := capture_eq.mp captured
      cases same
      cases inner with
      | ok value =>
        obtain ⟨rfl, rfl, rfl⟩ := pure_eq.mp next
        exact .inl ⟨value, by rw [List.append_nil]; exact ran, rfl⟩
      | error error => exact .inr ⟨error, middle, before, after, ran, next, rfl⟩
  · rintro (⟨value, ran, rfl⟩ | ⟨error, middle, before, after, ran, next, rfl⟩)
    · exact .inr ⟨.ok value, final, log, [], capture_eq.mpr ⟨_, rfl, ran⟩, pure_eq.mpr ⟨rfl, rfl, rfl⟩,
        by rw [List.append_nil]⟩
    · exact .inr ⟨.error error, middle, before, after, capture_eq.mpr ⟨_, rfl, ran⟩, next, rfl⟩

theorem bind_ok {first : Effect σ ω ε α} {next : α → Effect σ ω ε β} {value : β}
    (ran : (first >>= next) state = (.ok value, final, log)) :
    ∃ inner middle before after, first state = (.ok inner, middle, before) ∧
      next inner middle = (.ok value, final, after) ∧ log = before ++ after := by
  rcases bind_eq.mp ran with ⟨_, _, absurd⟩ | ran
  · cases absurd
  · exact ran

theorem handle_ok {body : Effect σ ω ε α} {handler : ε → Effect σ ω ε α} {value : α}
    (raises : ∀ error state final log, handler error state ≠ (.ok value, final, log))
    (ran : handle body handler state = (.ok value, final, log)) :
    body state = (.ok value, final, log) := by
  rcases handle_eq.mp ran with ⟨_, ran, same⟩ | ⟨error, middle, _, after, _, handled, _⟩
  · cases same
    exact ran
  · exact absurd handled (raises error middle final after)

end

/-- A computation that leaves a view of the state as it is and takes only allowed actions. -/
def Confined {τ : Type} (view : σ → τ) (Allowed : ω → Prop) (body : Effect σ ω ε α) : Prop :=
  ∀ ⦃state result final log⦄, body state = (result, final, log) →
    view final = view state ∧ ∀ action ∈ log, Allowed action

namespace Confined

variable {τ : Type} {view : σ → τ} {Allowed : ω → Prop}

theorem pure (value : α) : Confined view Allowed (Pure.pure value : Effect σ ω ε α) := by
  intro state result final log ran
  obtain ⟨rfl, rfl, rfl⟩ := pure_eq.mp ran
  exact ⟨rfl, fun _ member => absurd member List.not_mem_nil⟩

theorem raise (error : ε) : Confined view Allowed (Effect.raise error : Effect σ ω ε α) := by
  intro state result final log ran
  obtain ⟨rfl, rfl, rfl⟩ := raise_eq.mp ran
  exact ⟨rfl, fun _ member => absurd member List.not_mem_nil⟩

theorem emit {action : ω} (allowed : Allowed action) :
    Confined view Allowed (Effect.emit action : Effect σ ω ε Unit) := by
  intro state result final log ran
  obtain ⟨rfl, rfl, rfl⟩ := emit_eq.mp ran
  exact ⟨rfl, fun _ member => List.mem_singleton.mp member ▸ allowed⟩

theorem capture {body : Effect σ ω ε α} (confined : Confined view Allowed body) :
    Confined view Allowed (Effect.capture body) := by
  intro state result final log ran
  obtain ⟨inner, rfl, inside⟩ := capture_eq.mp ran
  exact confined inside

theorem bind {first : Effect σ ω ε α} {next : α → Effect σ ω ε β}
    (confined : Confined view Allowed first) (onward : ∀ value, Confined view Allowed (next value)) :
    Confined view Allowed (first >>= next) := by
  intro state result final log ran
  rcases bind_eq.mp ran with ⟨_, raised, _⟩ | ⟨value, middle, before, after, ran₁, ran₂, rfl⟩
  · exact confined raised
  · obtain ⟨kept, allowed⟩ := confined ran₁
    obtain ⟨kept', allowed'⟩ := onward value ran₂
    exact ⟨kept'.trans kept, fun action member =>
      (List.mem_append.mp member).elim (allowed action) (allowed' action)⟩

theorem handle {body : Effect σ ω ε α} {handler : ε → Effect σ ω ε α}
    (confined : Confined view Allowed body) (onward : ∀ error, Confined view Allowed (handler error)) :
    Confined view Allowed (Effect.handle body handler) := by
  refine confined.capture.bind fun outcome => ?_
  cases outcome with
  | ok value => exact Confined.pure value
  | error error => exact onward error

theorem mono {Wider : ω → Prop} {body : Effect σ ω ε α} (confined : Confined view Allowed body)
    (wider : ∀ action, Allowed action → Wider action) : Confined view Wider body := by
  intro state result final log ran
  obtain ⟨kept, allowed⟩ := confined ran
  exact ⟨kept, fun action member => wider action (allowed action member)⟩

end Confined

end Effect
