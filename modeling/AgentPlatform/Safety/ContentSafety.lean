import Mathlib.Data.List.Dedup
import Mathlib.Data.List.Sort
import Mathlib.Data.String.Basic

namespace AgentPlatform.Safety

inductive ContentSafetyCategory where
  | hate
  | selfHarm
  | sexual
  | violence
deriving DecidableEq, Repr

def ContentSafetyCategory.name : ContentSafetyCategory → String
  | .hate => "Hate"
  | .selfHarm => "SelfHarm"
  | .sexual => "Sexual"
  | .violence => "Violence"

structure ContentSafetyFinding where
  category : ContentSafetyCategory
  severity : Nat
  severity_le : severity ≤ 7
deriving DecidableEq, Repr

structure ContentSafetyBlockedError where
  message : String
  findings : List ContentSafetyFinding
deriving DecidableEq, Repr

structure ContentSafetyPolicy where
  thresholds : List (String × Int)
  configured : thresholds ≠ []
  in_range : ∀ entry ∈ thresholds, 0 ≤ entry.2 ∧ entry.2 ≤ 7

inductive ContentSafetyPolicyError where
  | noThreshold
  | thresholdRange
deriving DecidableEq, Repr

def ContentSafetyPolicyError.message : ContentSafetyPolicyError → String
  | .noThreshold => "At least one category threshold is required"
  | .thresholdRange => "Severity thresholds must be between 0 and 7"

def ContentSafetyPolicy.make (thresholds : List (String × Int)) :
    Except ContentSafetyPolicyError ContentSafetyPolicy :=
  if configured : thresholds ≠ [] then
    if range : ∀ entry ∈ thresholds, 0 ≤ entry.2 ∧ entry.2 ≤ 7 then .ok ⟨thresholds, configured, range⟩
    else .error .thresholdRange
  else .error .noThreshold

/-- The default is above every severity. -/
def ContentSafetyPolicy.threshold (policy : ContentSafetyPolicy) (category : ContentSafetyCategory) : Int :=
  (policy.thresholds.lookup category.name).getD 8

def ContentSafetyPolicy.blockedFindings (policy : ContentSafetyPolicy)
    (findings : List ContentSafetyFinding) : List ContentSafetyFinding :=
  findings.filter fun finding => policy.threshold finding.category ≤ finding.severity

def ContentSafetyBlockedError.unavailable : ContentSafetyBlockedError where
  message := "Content safety check was unavailable; request blocked as a precaution"
  findings := []

def ContentSafetyBlockedError.violation (blocked : List ContentSafetyFinding) :
    ContentSafetyBlockedError where
  message :=
    let names := (blocked.map fun finding => finding.category.name).dedup.insertionSort (· ≤ ·)
    "Content violates policy: [" ++ ", ".intercalate (names.map fun name => "'" ++ name ++ "'") ++ "]"
  findings := blocked

end AgentPlatform.Safety
