import AgentPlatform.Agents.Specialists
import AgentPlatform.Base.Ranking
import AgentPlatform.McpBoundary.Factory
import AgentPlatform.Models.Mock
import AgentPlatform.Orchestration.Investigation

/-! # The golden-set evaluator

One workflow and one gateway serve every case of a suite. -/

namespace AgentPlatform.Evaluation

open Agents Domain McpBoundary Models Orchestration Python

structure EvaluationCase where
  caseId : String
  category : String
  query : String
  expectedRoute : String
  expectedAgent : String
  expectedSource : Option String
  expectedErrorCode : Option String
  humanApproval : Bool
deriving DecidableEq, Repr

structure EvaluationReport where
  total : Nat
  passed : Nat
  score : Rat
  categoryScores : List (String × Rat)
  failures : List String
deriving DecidableEq, Repr

theorem one_le_eight : 1 ≤ 8 := by decide

theorem two_lt_eight : 2 < 8 := by decide

/-- The workflow of the routing model and the specialists over a gateway. -/
def operationsWorkflow {m : Type → Type} [Monad m] (unicode : Unicode) (runner : GraphRunner)
    (invoke : ToolCall m) : OperationsWorkflow m where
  model query := pure (.ok (classifyRoute unicode query))
  customer := customerInvestigate unicode invoke
  payments := paymentsInvestigate unicode invoke
  policy := policyInvestigate invoke
  runner := runner
  maxSteps := 8
  maxStepsPositive := one_le_eight

def evaluationSubject : String := "evaluation-runner"

def evaluationRoles : Finset String := {"agent.invoke", "transactions", "customer", "complaints"}

namespace EvaluationCase

def passes (case : EvaluationCase) (result : OperationsResult) : Bool :=
  let sourceIds := result.result.evidence.map Evidence.sourceId
  decide (result.decision.route.name = case.expectedRoute) && decide (result.result.agent.name = case.expectedAgent) &&
    decide (result.result.requiresHumanApproval = case.humanApproval) &&
    case.expectedSource.all (fun source => source ∈ sourceIds) &&
    decide (result.result.errorCode = case.expectedErrorCode)

variable {m : Type → Type} [Monad m]

/-- The body of the loop up to `case_passed`. -/
def run (workflow : OperationsWorkflow m) (case : EvaluationCase) : m (Except WorkflowError Bool) := do
  let output ← workflow.investigate case.query evaluationSubject evaluationRoles case.caseId
  return output.map case.passes

end EvaluationCase

/-- The accumulators of the loop; the totals have the categories as their keys. -/
structure Tally where
  failures : List String
  categories : Finset String
  totals : String → Nat
  passed : String → Nat

def Tally.empty : Tally := ⟨[], ∅, fun _ => 0, fun _ => 0⟩

def Tally.add (tally : Tally) (case : EvaluationCase) (passed : Bool) : Tally where
  failures := if passed then tally.failures else tally.failures ++ [case.caseId]
  categories := insert case.category tally.categories
  totals := Function.update tally.totals case.category (tally.totals case.category + 1)
  passed :=
    if passed then Function.update tally.passed case.category (tally.passed case.category + 1) else tally.passed

def Tally.report (tally : Tally) (total : Nat) : EvaluationReport where
  total := total
  passed := total - tally.failures.length
  score := if total = 0 then 0 else ((total - tally.failures.length : Nat) : Rat) / total
  categoryScores := (sorted tally.categories.val).map fun category =>
    (category, (tally.passed category : Rat) / tally.totals category)
  failures := tally.failures

section

variable {m : Type → Type} [Monad m] (workflow : OperationsWorkflow m)

def evaluateFrom : List EvaluationCase → Tally → m (Except WorkflowError Tally)
  | [], tally => pure (.ok tally)
  | case :: cases, tally => do
    match ← case.run workflow with
    | .error error => pure (.error error)
    | .ok passed => evaluateFrom cases (tally.add case passed)

/-- The values of `case_passed` in turn. -/
def verdicts : List EvaluationCase → m (Except WorkflowError (List Bool))
  | [] => pure (.ok [])
  | case :: cases => do
    match ← case.run workflow with
    | .error error => pure (.error error)
    | .ok passed => return (← verdicts cases).map (passed :: ·)

end

/-- What the suite is run with: the Unicode tables, the digest of the audit trail, the retriever of the
    bundled documents and the runner of the graphs. -/
structure Harness where
  unicode : Unicode
  sha256 : String → String
  retriever : Rag.AuthorizedRetriever
  runner : GraphRunner

namespace Harness

variable (harness : Harness)

def gateway : LocalGateway harness.unicode :=
  buildLocalMcpGateway harness.unicode harness.sha256 GatewayLimits.default

def tools : DomainTools := ⟨novaBank, harness.retriever⟩

def workflow (clocks : Clocks) : OperationsWorkflow (StateM (LocalState harness.unicode)) :=
  operationsWorkflow harness.unicode harness.runner (harness.gateway.invoke harness.tools.handle clocks)

def fresh : LocalState harness.unicode := (harness.gateway.machine 0).init

def verdictsOf (clocks : Clocks) (cases : List EvaluationCase) : Except WorkflowError (List Bool) :=
  (verdicts (harness.workflow clocks) cases harness.fresh).1

def evaluateCases (clocks : Clocks) (cases : List EvaluationCase) : Except WorkflowError EvaluationReport :=
  (evaluateFrom (harness.workflow clocks) cases Tally.empty harness.fresh).1.map fun tally => tally.report cases.length

end Harness

end AgentPlatform.Evaluation
