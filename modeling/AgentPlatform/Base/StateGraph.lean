/-! # State graphs

Nodes that update a shared state, edges that choose the next node, and a runner that holds a run to a recursion
limit. -/

/-- `next` answers `none` at the end of the graph. -/
structure StateGraph (m : Type → Type) (ν σ ε : Type) where
  entry : ν
  node : ν → σ → m (Except ε σ)
  next : ν → σ → Option ν

inductive GraphError (ε : Type) where
  /-- The recursion limit is reached before the end. -/
  | recursion
  | raised (error : ε)
deriving DecidableEq, Repr

/-- The error of a last step that the limit leaves no room for. -/
def GraphError.ofStep {ε σ : Type} : Except ε σ → GraphError ε
  | .error error => .raised error
  | .ok _ => .recursion

/-- How a runner counts the node steps of a run against its recursion limit: whether one more step starts after
    some, and whether the run may end after them. Only whether a run may end with its last step is left open. -/
structure GraphRunner where
  starts : (limit taken : Nat) → Bool
  ends : (limit taken : Nat) → Bool
  bounded : ∀ limit taken, starts limit taken = true → taken < limit
  started : ∀ limit taken, ends limit (taken + 1) = true → starts limit taken = true
  spare : ∀ limit taken, taken < limit → ends limit taken = true

namespace GraphRunner

/-- A runner that takes one more step to find that no node follows. -/
def lookingAhead : GraphRunner where
  starts limit taken := decide (taken < limit)
  ends limit taken := decide (taken < limit)
  bounded _ _ := of_decide_eq_true
  started _ _ more := decide_eq_true (Nat.lt_of_succ_lt (of_decide_eq_true more))
  spare _ _ := decide_eq_true

variable {runner : GraphRunner} {limit taken : Nat}

theorem le_of_ends (ended : runner.ends limit (taken + 1) = true) : taken + 1 ≤ limit :=
  runner.bounded limit taken (runner.started limit taken ended)

end GraphRunner

namespace StateGraph

variable {m : Type → Type} [Monad m] {ν σ ε : Type} (graph : StateGraph m ν σ ε) (runner : GraphRunner)

/-- A run after `taken` steps, of which at most `left` follow. -/
def runFrom (limit : Nat) : (left taken : Nat) → ν → σ → m (Except (GraphError ε) σ)
  | 0, _, _, _ => pure (.error .recursion)
  | left + 1, taken, current, state =>
    if runner.starts limit taken then do
      match ← graph.node current state with
      | .error error => pure (.error (.raised error))
      | .ok after =>
        match graph.next current after with
        | none => pure (if runner.ends limit (taken + 1) then .ok after else .error .recursion)
        | some following => runFrom limit left (taken + 1) following after
    else pure (.error .recursion)

def invoke (limit : Nat) (state : σ) : m (Except (GraphError ε) σ) :=
  graph.runFrom runner limit limit 0 graph.entry state

variable {graph runner} {current following : ν} {state after : σ} {limit taken : Nat}

theorem runFrom_zero : graph.runFrom runner limit 0 taken current state = pure (.error .recursion) := rfl

theorem runFrom_over (left : Nat) (past : runner.starts limit taken = false) :
    graph.runFrom runner limit left taken current state = pure (.error .recursion) := by
  cases left with
  | zero => rfl
  | succ left => rw [runFrom, if_neg (Bool.eq_false_iff.mp past)]

theorem runFrom_last (left : Nat) (starts : runner.starts limit taken = true)
    (last : ∀ after, graph.next current after = none) :
    graph.runFrom runner limit (left + 1) taken current state = graph.node current state >>= fun stepped =>
      pure ((stepped.mapError GraphError.raised).bind fun after =>
        if runner.ends limit (taken + 1) then .ok after else .error .recursion) := by
  rw [runFrom, if_pos starts]
  refine bind_congr fun stepped => ?_
  cases stepped with
  | error error => rfl
  | ok after =>
    simp only [last]
    rfl

variable [LawfulMonad m]

theorem runFrom_raised (left : Nat) {error : ε} (starts : runner.starts limit taken = true)
    (stepped : graph.node current state = pure (.error error)) :
    graph.runFrom runner limit (left + 1) taken current state = pure (.error (.raised error)) := by
  rw [runFrom, if_pos starts, stepped, pure_bind]

theorem runFrom_end (left : Nat) (ended : runner.ends limit (taken + 1) = true)
    (stepped : graph.node current state = pure (.ok after)) (last : graph.next current after = none) :
    graph.runFrom runner limit (left + 1) taken current state = pure (.ok after) := by
  rw [runFrom, if_pos (runner.started limit taken ended), stepped, pure_bind]
  simp only [last, if_pos ended]

/-- Without room for its last step a run fails, whatever the step does before. -/
theorem runFrom_short (left : Nat) (last : ∀ after, graph.next current after = none)
    (short : runner.ends limit (taken + 1) = false) :
    ∃ failing : m (GraphError ε), graph.runFrom runner limit left taken current state =
      failing >>= fun error => pure (.error error) := by
  cases starts : runner.starts limit taken with
  | false => exact ⟨pure .recursion, by rw [runFrom_over left starts, pure_bind]⟩
  | true =>
    cases left with
    | zero => exact ⟨pure .recursion, by rw [runFrom_zero, pure_bind]⟩
    | succ left =>
      refine ⟨graph.node current state >>= fun stepped => pure (GraphError.ofStep stepped), ?_⟩
      rw [runFrom_last left starts last, bind_assoc, short]
      refine bind_congr fun stepped => ?_
      rw [pure_bind]
      cases stepped with
      | error error => rfl
      | ok after => rfl

theorem runFrom_step (left : Nat) (starts : runner.starts limit taken = true)
    (stepped : graph.node current state = pure (.ok after)) (onward : graph.next current after = some following) :
    graph.runFrom runner limit (left + 1) taken current state =
      graph.runFrom runner limit left (taken + 1) following after := by
  rw [runFrom, if_pos starts, stepped, pure_bind]
  simp only [onward]

end StateGraph
