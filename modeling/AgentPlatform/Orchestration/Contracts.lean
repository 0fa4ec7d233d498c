import Mathlib.Data.Rat.Defs

/-! # Contracts of the workflows -/

namespace AgentPlatform.Orchestration

inductive AgentRoute where
  | customer
  | payments
  | policy
  | humanReview
deriving DecidableEq, Repr

def AgentRoute.name : AgentRoute → String
  | .customer => "customer"
  | .payments => "payments"
  | .policy => "policy"
  | .humanReview => "human_review"

@[ext] structure RoutingDecision where
  route : AgentRoute
  reason : String
  confidence : Rat
  requiresHumanApproval : Bool
  reasonLength : 1 ≤ reason.length ∧ reason.length ≤ 300
  confidenceRange : 0 ≤ confidence ∧ confidence ≤ 1

instance : DecidableEq RoutingDecision := fun _ _ => decidable_of_iff _ RoutingDecision.ext_iff.symm

inductive EvidenceSource where
  | customer
  | account
  | transaction
  | policy
deriving DecidableEq, Repr

structure Evidence where
  sourceId : String
  sourceType : EvidenceSource
  detail : String
  sourceIdLength : 1 ≤ sourceId.length ∧ sourceId.length ≤ 100
  detailLength : 1 ≤ detail.length ∧ detail.length ≤ 1000
deriving DecidableEq

structure AgentResult where
  agent : AgentRoute
  summary : String
  evidence : List Evidence
  requiresHumanApproval : Bool
  errorCode : Option String
  summaryLength : 1 ≤ summary.length ∧ summary.length ≤ 2000
deriving DecidableEq

/-- An exception that a model or a specialist raises, by the name of its class. -/
structure Raised where
  className : String
deriving DecidableEq, Repr

end AgentPlatform.Orchestration
