import AgentPlatform.Base.StateGraph
import AgentPlatform.Orchestration.Contracts

/-! # The supervisor

A graph of one node that asks the routing model. -/

namespace AgentPlatform.Orchestration

abbrev ModelProvider (m : Type → Type) := String → m (Except Raised RoutingDecision)

structure SupervisorState where
  query : String
  decision : Option RoutingDecision
  steps : Nat
  errorCode : Option String
deriving DecidableEq

structure SupervisorResult where
  decision : RoutingDecision
  steps : Nat
  errorCode : Option String
  stepsBound : 1 ≤ steps
deriving DecidableEq

inductive WorkflowError where
  | recursionLimit
  /-- A `ValidationError` of one of the contracts. -/
  | validation
deriving DecidableEq, Repr

def WorkflowError.ofGraph : GraphError WorkflowError → WorkflowError
  | .recursion => .recursionLimit
  | .raised error => error

/-- `runner` runs the compiled graph, which is not part of the repository. -/
structure SupervisorWorkflow (m : Type → Type) where
  model : ModelProvider m
  runner : GraphRunner
  maxSteps : Nat
  maxStepsPositive : 1 ≤ maxSteps

def unavailableDecision : RoutingDecision where
  route := .humanReview
  reason := "Automated routing was unavailable; manual review is required."
  confidence := 0
  requiresHumanApproval := true
  reasonLength := by decide
  confidenceRange := by decide

namespace SupervisorWorkflow

variable {m : Type → Type} [Monad m] (workflow : SupervisorWorkflow m)

def classify (state : SupervisorState) : m (Except WorkflowError SupervisorState) := do
  match ← workflow.model state.query with
  | .ok decision => pure (.ok { state with
      decision := some decision
      steps := state.steps + 1
      errorCode := none })
  | .error _ => pure (.ok { state with
      decision := some unavailableDecision
      steps := state.steps + 1
      errorCode := some "MODEL_PROVIDER_FAILURE" })

def graph : StateGraph m Unit SupervisorState WorkflowError where
  entry := ()
  node _ := workflow.classify
  next _ _ := none

/-- `SupervisorResult` of the last state; without a decision it raises. -/
def result (state : SupervisorState) : Except WorkflowError SupervisorResult :=
  match state.decision with
  | none => .error .validation
  | some decision =>
    if bound : 1 ≤ state.steps then .ok ⟨decision, state.steps, state.errorCode, bound⟩
    else .error .validation

def route (query : String) : m (Except WorkflowError SupervisorResult) := do
  let output ← workflow.graph.invoke workflow.runner workflow.maxSteps ⟨query, none, 0, none⟩
  return (output.mapError WorkflowError.ofGraph).bind result

end SupervisorWorkflow

end AgentPlatform.Orchestration
