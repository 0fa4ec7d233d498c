import AgentPlatform.Base.Text
import Mathlib.Data.Finset.Image
import Mathlib.Data.Rat.Defs

namespace AgentPlatform.McpBoundary

open Python

inductive AgentName where
  | customer
  | payments
  | policy
deriving DecidableEq, Repr

def AgentName.name : AgentName → String
  | .customer => "customer"
  | .payments => "payments"
  | .policy => "policy"

/-- Contract validation trims the strings and the members of `roles`, then bounds their lengths. -/
structure CallerContext where
  subject : String
  roles : Finset String
  agent : AgentName
  requestId : String
  subjectLength : 1 ≤ subject.length ∧ subject.length ≤ 128
  requestIdLength : 1 ≤ requestId.length ∧ requestId.length ≤ 128
  rolesTrimmed : ∀ role ∈ roles, trim role = role
  subjectTrimmed : trim subject = subject
  requestIdTrimmed : trim requestId = requestId
deriving DecidableEq

/-- Validation of the fields, where `none` is a `ValidationError`. -/
def CallerContext.make (subject : String) (roles : Finset String) (agent : AgentName) (requestId : String) :
    Option CallerContext :=
  if lengths : (1 ≤ (trim subject).length ∧ (trim subject).length ≤ 128) ∧
      (1 ≤ (trim requestId).length ∧ (trim requestId).length ≤ 128) then
    some
      { subject := trim subject
        roles := roles.image trim
        agent := agent
        requestId := trim requestId
        subjectLength := lengths.1
        requestIdLength := lengths.2
        rolesTrimmed := by simp
        subjectTrimmed := trim_trim subject
        requestIdTrimmed := trim_trim requestId }
  else none

theorem CallerContext.make_isSome {subject requestId : String} {roles : Finset String} {agent : AgentName} :
    (CallerContext.make subject roles agent requestId).isSome = true ↔
      (1 ≤ (trim subject).length ∧ (trim subject).length ≤ 128) ∧
        (1 ≤ (trim requestId).length ∧ (trim requestId).length ≤ 128) := by
  unfold CallerContext.make
  split <;> simp_all

inductive AuditOutcome where
  | success
  | denied
  | invalid
  | timeout
  | error
deriving DecidableEq, Repr

structure AuditRecord where
  requestId : String
  subject : String
  agent : AgentName
  tool : String
  argumentFingerprint : String
  outcome : AuditOutcome
  durationMs : Rat
  attemptCount : Nat
deriving DecidableEq

end AgentPlatform.McpBoundary
