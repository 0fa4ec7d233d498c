import AgentPlatform.Gateway.Auth
import AgentPlatform.Gateway.Envelope
import AgentPlatform.Orchestration.Investigation

/-! # The investigation route

An authenticated query goes through the operations workflow; a result that asks for a human creates a
pending approval. -/

namespace AgentPlatform.Gateway

open McpBoundary Orchestration Python State Tenancy

structure RouteRequest where
  query : String
  stripped : trim query = query
  length : 1 ≤ query.length ∧ query.length ≤ 2000

/-- The validation of a body, whose text is stripped first; the route answers `none` with a 422. -/
def RouteRequest.make (query : String) : Option RouteRequest :=
  if length : 1 ≤ (trim query).length ∧ (trim query).length ≤ 2000 then some ⟨trim query, trim_trim query, length⟩
  else none

structure InvestigationResponse where
  decision : RoutingDecision
  result : AgentResult
  steps : Nat
  approvalId : Option String
deriving DecidableEq

/-- What `investigate_workflow` does with a result: the calls on the approval store, and the response. -/
def investigationAnswer (result : OperationsResult) (query : String) (principal : Principal)
    (context : TenantContext) (requestId : String) (uuid4 : Uuid) (now : Datetime) :
    List Operation × InvestigationResponse :=
  if result.result.requiresHumanApproval then
    ([.createPending requestId principal.subject query context.tenant uuid4 now],
      ⟨result.decision, result.result, result.steps, some uuid4.text⟩)
  else ([], ⟨result.decision, result.result, result.steps, none⟩)

def investigateWorkflow {m : Type → Type} [Monad m] (operations : OperationsWorkflow m) (payload : RouteRequest)
    (principal : Principal) (context : TenantContext) (requestId : String) (uuid4 : Uuid) (now : Datetime) :
    m (Except WorkflowError (List Operation × InvestigationResponse)) := do
  let outcome ← operations.investigate payload.query principal.subject
    (principal.roles ∪ context.bundle.entitlements) requestId
  return outcome.map fun result => investigationAnswer result payload.query principal context requestId uuid4 now

theorem RouteRequest.make_query {query : String} {payload : RouteRequest} (made : make query = some payload) :
    payload.query = trim query := by
  unfold make at made
  split at made
  · cases made
    rfl
  · cases made

theorem RouteRequest.make_of_trim {query : String} {payload : RouteRequest} (same : trim query = payload.query) :
    make query = some payload := by
  cases payload with
  | mk text stripped length =>
    subst same
    exact dif_pos length

theorem investigationAnswer_outcome (outcome : OperationsResult) (query : String) (principal : Principal)
    (context : TenantContext) (requestId : String) (uuid4 : Uuid) (now : Datetime) :
    (investigationAnswer outcome query principal context requestId uuid4 now).2.decision = outcome.decision ∧
      (investigationAnswer outcome query principal context requestId uuid4 now).2.result = outcome.result := by
  unfold investigationAnswer
  split <;> exact ⟨rfl, rfl⟩

def paymentsDecision : RoutingDecision where
  route := .payments
  reason := "The request matched payments domain terminology."
  confidence := 9 / 10
  requiresHumanApproval := false
  reasonLength := by decide
  confidenceRange := by norm_num

def paymentsResult : AgentResult where
  agent := .payments
  summary := "Transaction TXN-1001 is failed; no payment action was executed."
  evidence := []
  requiresHumanApproval := false
  errorCode := none
  summaryLength := by decide

def paymentsWorkflow : OperationsWorkflow Id where
  model _ := .ok paymentsDecision
  customer _ _ := .ok paymentsResult
  payments _ _ := .ok paymentsResult
  policy _ _ := .ok paymentsResult
  runner := .lookingAhead
  maxSteps := 8
  maxStepsPositive := by decide

/-- What the node of the route, once it is started, makes of a query: the specialist's result, or that of the
    human review. -/
def Produces (workflow : OperationsWorkflow Id) (query subject : String) (roles : Finset String)
    (requestId : String) (result : AgentResult) : Prop :=
  workflow.runner.starts workflow.maxSteps 1 = true ∧
    (((workflow.routed query).route = .humanReview ∧ result = humanReviewResult (workflow.routed query)) ∨
    ∃ agent caller, (workflow.routed query).route.node = .specialist agent ∧
      CallerContext.make subject roles agent requestId = some caller ∧
      result = workflow.specialistResult agent query caller)

/-- An investigation by a principal of a tenant, with the fresh identifier and the clock it reads. -/
structure Investigation where
  workflow : OperationsWorkflow Id
  payload : RouteRequest
  principal : Principal
  context : TenantContext
  requestId : String
  uuid4 : Uuid
  now : Datetime

namespace Investigation

variable (investigation : Investigation)

def decision : RoutingDecision := investigation.workflow.routed investigation.payload.query

def Produces (result : AgentResult) : Prop :=
  Gateway.Produces investigation.workflow investigation.payload.query investigation.principal.subject
    (investigation.principal.roles ∪ investigation.context.bundle.entitlements) investigation.requestId result

/-- The decision or the result of the node asks for an approval. -/
def Asks : Prop :=
  investigation.decision.requiresHumanApproval = true ∨
    ∃ result, investigation.Produces result ∧ result.requiresHumanApproval = true

def run : Except WorkflowError (List Operation × InvestigationResponse) :=
  investigateWorkflow investigation.workflow investigation.payload investigation.principal investigation.context
    investigation.requestId investigation.uuid4 investigation.now

section

variable {investigation}

end

end Investigation

theorem transactionQuestion_stripped : trim "TXN-1001" = "TXN-1001" := by decide

theorem transactionQuestion_length : 1 ≤ "TXN-1001".length ∧ "TXN-1001".length ≤ 2000 := by decide

def transactionQuestion : RouteRequest := ⟨"TXN-1001", transactionQuestion_stripped, transactionQuestion_length⟩

end AgentPlatform.Gateway
