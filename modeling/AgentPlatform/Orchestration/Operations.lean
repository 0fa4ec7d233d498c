import AgentPlatform.McpBoundary.Contracts
import AgentPlatform.Orchestration.Supervisor

/-! # The operations workflow

The supervisor routes to one registered specialist, or to human review. -/

namespace AgentPlatform.Orchestration

open McpBoundary Python

abbrev Specialist (m : Type → Type) := String → CallerContext → m (Except Raised AgentResult)

structure OperationsState where
  query : String
  decision : Option RoutingDecision
  result : Option AgentResult
  steps : Nat
  subject : String
  roles : Finset String
  requestId : String
deriving DecidableEq

structure OperationsResult where
  decision : RoutingDecision
  result : AgentResult
  steps : Nat
  stepsBound : 2 ≤ steps
deriving DecidableEq

structure OperationsWorkflow (m : Type → Type) where
  model : ModelProvider m
  customer : Specialist m
  payments : Specialist m
  policy : Specialist m
  runner : GraphRunner
  maxSteps : Nat
  maxStepsPositive : 1 ≤ maxSteps

inductive OperationsNode where
  | classify
  | specialist (agent : AgentName)
  | humanReview
deriving DecidableEq, Repr

def specialistFailure : AgentResult where
  agent := .humanReview
  summary := "The specialist was unavailable; manual review is required."
  evidence := []
  requiresHumanApproval := true
  errorCode := some "SPECIALIST_FAILURE"
  summaryLength := by decide

def humanReviewResult (decision : RoutingDecision) : AgentResult where
  agent := .humanReview
  summary := decision.reason
  evidence := []
  requiresHumanApproval := true
  errorCode := none
  summaryLength := ⟨decision.reasonLength.1, decision.reasonLength.2.trans (Nat.le_of_ble_eq_true rfl)⟩

/-- The edges of the `classify` node. -/
def AgentRoute.node : AgentRoute → OperationsNode
  | .customer => .specialist .customer
  | .payments => .specialist .payments
  | .policy => .specialist .policy
  | .humanReview => .humanReview

namespace OperationsWorkflow

variable {m : Type → Type} [Monad m] (workflow : OperationsWorkflow m)

def supervisor : SupervisorWorkflow m := ⟨workflow.model, workflow.runner, workflow.maxSteps, workflow.maxStepsPositive⟩

def classify (state : OperationsState) : m (Except WorkflowError OperationsState) := do
  match ← workflow.supervisor.route state.query with
  | .error error => pure (.error error)
  | .ok routed => pure (.ok { state with decision := some routed.decision, steps := state.steps + routed.steps })

def specialist : AgentName → Specialist m
  | .customer => workflow.customer
  | .payments => workflow.payments
  | .policy => workflow.policy

/-- The caller is validated outside of the handler for the specialist's exceptions. -/
def runSpecialist (agent : AgentName) (state : OperationsState) : m (Except WorkflowError OperationsState) :=
  match CallerContext.make state.subject state.roles agent state.requestId with
  | none => pure (.error .validation)
  | some caller => do
    let result ← workflow.specialist agent state.query caller
    pure (.ok { state with
      result := some (result.toOption.getD specialistFailure)
      steps := state.steps + 1 })

def humanReview (state : OperationsState) : Except WorkflowError OperationsState :=
  match state.decision with
  | none => .error .validation
  | some decision => .ok { state with result := some (humanReviewResult decision), steps := state.steps + 1 }

def graph : StateGraph m OperationsNode OperationsState WorkflowError where
  entry := .classify
  node
    | .classify => workflow.classify
    | .specialist agent => workflow.runSpecialist agent
    | .humanReview => fun state => pure (humanReview state)
  next
    | .classify, state => state.decision.map fun decision => decision.route.node
    | _, _ => none

/-- `OperationsResult` of the last state. -/
def result (state : OperationsState) : Except WorkflowError OperationsResult :=
  match state.decision, state.result with
  | some decision, some result =>
    if bound : 2 ≤ state.steps then .ok ⟨decision, result, state.steps, bound⟩ else .error .validation
  | _, _ => .error .validation

def investigate (query subject : String) (roles : Finset String) (requestId : String) :
    m (Except WorkflowError OperationsResult) := do
  let output ← workflow.graph.invoke workflow.runner workflow.maxSteps ⟨query, none, none, 0, subject, roles, requestId⟩
  return (output.mapError WorkflowError.ofGraph).bind result

end OperationsWorkflow

end AgentPlatform.Orchestration
