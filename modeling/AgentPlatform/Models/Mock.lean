import AgentPlatform.Base.Pattern
import AgentPlatform.Orchestration.Contracts
import Mathlib.Algebra.Order.Field.Rat
import Mathlib.Tactic.Linarith
import Mathlib.Tactic.NormNum

/-! # The deterministic routing model -/

namespace AgentPlatform.Models

open Orchestration Python

/-- `\b(refund|reverse|cancel|release|send|transfer)\b`. -/
def actionPattern : SearchPattern where
  leading := true
  body := .alt (anyOf "refund" "reverse" "cancel") (anyOf "release" "send" "transfer")
  trailing := true

/-- `[£$€]\s?\d+`. -/
def amountPattern (unicode : Unicode) : SearchPattern where
  leading := false
  body := .seq (.char fun c => c ∈ ['£', '$', '€']) (.seq (optionally (.char isSpace))
    (.seq (.char unicode.decimal) (.many unicode.decimal)))
  trailing := false

def highRiskPatterns (unicode : Unicode) : List SearchPattern := [actionPattern, amountPattern unicode]

def paymentTerms : List String :=
  ["payment", "transaction", "transfer", "refund", "route", "beneficiary", "failed"]

def customerTerms : List String := ["customer", "account", "contact", "address", "profile", "preference"]

def policyTerms : List String :=
  ["policy", "procedure", "eligible", "eligibility", "rule", "compliance", "limit"]

/-- `re.findall` of `[a-z]+`. -/
def termsOf (text : List Char) : List String :=
  ((text.splitOnP fun c => !isLetter c).filter (· ≠ [])).map String.ofList

/-- The number of the terms that are in a vocabulary. -/
def score (terms vocabulary : List String) : Nat := vocabulary.countP (· ∈ terms)

theorem certain_range : (0 : Rat) ≤ 1 ∧ (1 : Rat) ≤ 1 := by decide

theorem uncertain_range : (0 : Rat) ≤ 0 ∧ (0 : Rat) ≤ 1 := by decide

def actionDecision : RoutingDecision where
  route := .humanReview
  reason := "A consequential financial action with a stated amount requires approval."
  confidence := 1
  requiresHumanApproval := true
  reasonLength := by decide
  confidenceRange := certain_range

def unmatchedDecision : RoutingDecision where
  route := .humanReview
  reason := "The request does not match an approved specialist capability."
  confidence := 0
  requiresHumanApproval := true
  reasonLength := by decide
  confidenceRange := uncertain_range

theorem matched_reason (route : AgentRoute) :
    1 ≤ ("The request matched " ++ route.name ++ " domain terminology.").length ∧
      ("The request matched " ++ route.name ++ " domain terminology.").length ≤ 300 := by
  cases route <;> decide

theorem matched_confidence (highest : Nat) :
    0 ≤ min (1 / 2 + (highest : Rat) * (1 / 5)) (99 / 100) ∧
      min (1 / 2 + (highest : Rat) * (1 / 5)) (99 / 100) ≤ 1 := by
  have counted : (0 : Rat) ≤ highest := Nat.cast_nonneg highest
  constructor
  · exact le_min (by linarith) (by norm_num)
  · exact (min_le_right _ _).trans (by norm_num)

def matchedDecision (route : AgentRoute) (highest : Nat) : RoutingDecision where
  route := route
  reason := "The request matched " ++ route.name ++ " domain terminology."
  confidence := min (1 / 2 + (highest : Rat) * (1 / 5)) (99 / 100)
  requiresHumanApproval := false
  reasonLength := matched_reason route
  confidenceRange := matched_confidence highest

/-- `classify_route` of `DeterministicMockModel`. -/
def classifyRoute (unicode : Unicode) (query : String) : RoutingDecision :=
  let terms := termsOf (unicode.casefold query).toList
  if (highRiskPatterns unicode).all fun pattern => pattern.search unicode.isWord query.toList then actionDecision
  else
    let payments := score terms paymentTerms
    let customer := score terms customerTerms
    let policy := score terms policyTerms
    let highest := max payments (max customer policy)
    if highest = 0 then unmatchedDecision
    else if payments = highest then matchedDecision .payments highest
    else if customer = highest then matchedDecision .customer highest
    else matchedDecision .policy highest

example : (classifyRoute asciiUnicode "Refund $20").route = .humanReview := by decide

end AgentPlatform.Models
