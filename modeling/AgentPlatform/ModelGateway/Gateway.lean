import AgentPlatform.Base.Effect
import AgentPlatform.ModelGateway.Contracts
import AgentPlatform.ModelGateway.Policy
import AgentPlatform.ModelGateway.Pricing
import AgentPlatform.Safety.ContentSafety
import AgentPlatform.Safety.Pii

/-! # The model gateway

`generate` over an environment of arbitrary behaviour: the detector, the content safety provider and
the model provider answer from a state of their own, or raise anything. -/

set_option linter.dupNamespace false

namespace AgentPlatform.ModelGateway

open Safety

/-- What the gateway and the code it calls can raise; `interrupted` is outside `Exception`. -/
inductive GatewayException where
  | modelNotAllowed (error : ModelNotAllowed)
  | budgetExceeded (error : ModelBudgetExceeded)
  | providerFailure (message : String)
  | timeout
  | piiBlocked (error : PiiBlockedError)
  | contentSafetyBlocked (error : ContentSafetyBlockedError)
  | raised (name : String)
  | interrupted (name : String)
deriving DecidableEq

inductive CallOutcome where
  | error
  | success
  | timeout
  | piiBlocked
  | contentSafetyBlocked
  | providerError
deriving DecidableEq, Repr

def CallOutcome.label : CallOutcome → String
  | .error => "error"
  | .success => "success"
  | .timeout => "timeout"
  | .piiBlocked => "pii_blocked"
  | .contentSafetyBlocked => "content_safety_blocked"
  | .providerError => "provider_error"

inductive GatewayAction where
  | scanned (text : String) (result : Except GatewayException PiiScanResult)
  | recordedPii (entityTypes : List String) (action : String)
  | checked (text : String) (result : Except GatewayException (List ContentSafetyFinding))
  | recordedContentSafety (categories : List String) (action : String)
  | reserved (now : Rat) (tenant : String) (cost : Rat) (result : Except ModelBudgetExceeded Unit)
  | called (request : ModelGenerationRequest) (result : Except GatewayException ModelGenerationResult)
  | recordedSuccess (tenant : String) (result : ModelGenerationResult)
  | recordedFailure (tenant model provider : String) (outcome : CallOutcome) (duration : Rat)
deriving DecidableEq

/-- The ledgers of the budget policy, and the state of everything outside the gateway. -/
structure World (σ : Type) where
  env : σ
  spend : Spend

abbrev GatewayEffect (σ α : Type) : Type := Effect (World σ) GatewayAction GatewayException α

/-- A capability that answers, or raises, from a state of its own. -/
abbrev Oracle (σ α β : Type) : Type := α → σ → Except GatewayException β × σ

/-- The provider and the checks stand for their calls under the timeout of the gateway. -/
structure ModelGateway (σ : Type) where
  provider : Oracle σ ModelGenerationRequest ModelGenerationResult
  providerName : String
  allowlist : ModelAllowlist
  budget : TenantBudgetPolicy
  pricing : PricingTable
  maxAttempts : Nat
  attempts_positive : 1 ≤ maxAttempts
  piiDetector : Option (Oracle σ (String × PiiPolicy) PiiScanResult)
  piiPolicy : Option PiiPolicy
  contentSafetyProvider : Option (Oracle σ String (List ContentSafetyFinding))
  contentSafetyPolicy : Option ContentSafetyPolicy
  monotonic : σ → Rat
  perfCounter : σ → Rat

def consult {σ α β : Type} (oracle : Oracle σ α β) (input : α)
    (action : Except GatewayException β → GatewayAction) : GatewayEffect σ β := fun world =>
  let (result, env) := oracle input world.env
  (result, { world with env := env }, [action result])

namespace ModelGateway

variable {σ : Type}

/-- The PII guard is on when there are both a detector and a policy. -/
def piiControl (gateway : ModelGateway σ) : Option (Oracle σ (String × PiiPolicy) PiiScanResult × PiiPolicy) :=
  match gateway.piiDetector, gateway.piiPolicy with
  | some detector, some policy => some (detector, policy)
  | _, _ => none

/-- The content safety guard is on when there are both a provider and a policy. -/
def contentSafetyControl (gateway : ModelGateway σ) :
    Option (Oracle σ String (List ContentSafetyFinding) × ContentSafetyPolicy) :=
  match gateway.contentSafetyProvider, gateway.contentSafetyPolicy with
  | some provider, some policy => some (provider, policy)
  | _, _ => none

def checkAllowlist (gateway : ModelGateway σ) (model : String) : GatewayEffect σ Unit :=
  match gateway.allowlist.check model with
  | .ok () => pure ()
  | .error error => Effect.raise (.modelNotAllowed error)

def recordMasked (scan : PiiScanResult) : GatewayEffect σ Unit :=
  if scan.findings ≠ [] then
    Effect.emit (.recordedPii (scan.findings.map PiiFinding.entityType) "masked")
  else pure ()

def scanAndRecord (detector : Oracle σ (String × PiiPolicy) PiiScanResult) (policy : PiiPolicy)
    (text : String) : GatewayEffect σ String := do
  let scan ← Effect.handle (consult detector (text, policy) (.scanned text)) fun
    | .piiBlocked error => do
      Effect.emit (.recordedPii error.entityTypes "blocked")
      Effect.raise (.piiBlocked error)
    | error => Effect.raise error
  recordMasked scan
  pure scan.sanitizedText

def sanitizeMessages (detector : Oracle σ (String × PiiPolicy) PiiScanResult) (policy : PiiPolicy) :
    List ChatMessage → GatewayEffect σ (List ChatMessage)
  | [] => pure []
  | message :: messages => do
    let content ← scanAndRecord detector policy message.content
    let rest ← sanitizeMessages detector policy messages
    pure ({ message with content := content } :: rest)

def applyPiiGuardToRequest (gateway : ModelGateway σ) (request : ModelGenerationRequest) :
    GatewayEffect σ ModelGenerationRequest :=
  match gateway.piiControl with
  | some (detector, policy) => do
    let messages ← sanitizeMessages detector policy request.messages
    pure { request with messages := messages }
  | none => pure request

def applyPiiGuardToText (gateway : ModelGateway σ) (text : String) : GatewayEffect σ String :=
  match gateway.piiControl with
  | some (detector, policy) => scanAndRecord detector policy text
  | none => pure text

def checkTexts (provider : Oracle σ String (List ContentSafetyFinding)) (policy : ContentSafetyPolicy) :
    List String → GatewayEffect σ Unit
  | [] => pure ()
  | text :: texts =>
    if text = "" then checkTexts provider policy texts
    else do
      let findings ← Effect.handle (consult provider text (.checked text)) fun
        | .interrupted name => Effect.raise (.interrupted name)
        | _ => do
          Effect.emit (.recordedContentSafety ["_unavailable"] "provider_error")
          Effect.raise (.contentSafetyBlocked .unavailable)
      let blocked := policy.blockedFindings findings
      if blocked ≠ [] then do
        Effect.emit (.recordedContentSafety (blocked.map fun finding => finding.category.name) "blocked")
        Effect.raise (.contentSafetyBlocked (.violation blocked))
      else checkTexts provider policy texts

def applyContentSafetyGuard (gateway : ModelGateway σ) (texts : List String) : GatewayEffect σ Unit :=
  match gateway.contentSafetyControl with
  | some (provider, policy) => checkTexts provider policy texts
  | none => pure ()

/-- The pre-call estimate that the reservation is made for. -/
def estimatePromptTokens (request : ModelGenerationRequest) : Nat :=
  max 1 ((request.messages.map fun message => message.content.length).sum / 4)

def preflightCost (gateway : ModelGateway σ) (model : String) (request : ModelGenerationRequest) : Rat :=
  gateway.pricing.estimateCostGbp model ⟨estimatePromptTokens request, request.maxTokens⟩

def checkAndReserve (gateway : ModelGateway σ) (tenant : String) (cost : Rat) : GatewayEffect σ Unit :=
  fun world =>
    let now := gateway.monotonic world.env
    match gateway.budget.checkAndReserve world.spend now tenant cost with
    | (.ok (), spend) => (.ok (), { world with spend := spend }, [.reserved now tenant cost (.ok ())])
    | (.error error, spend) =>
      (.error (.budgetExceeded error), { world with spend := spend },
        [.reserved now tenant cost (.error error)])

/-- The part of `generate` before the provider is called: the request that goes out. -/
def preflight (gateway : ModelGateway σ) (request : ModelGenerationRequest) :
    GatewayEffect σ ModelGenerationRequest := do
  gateway.checkAllowlist request.model
  let sanitized ← gateway.applyPiiGuardToRequest request
  gateway.applyContentSafetyGuard (sanitized.messages.map ChatMessage.content)
  gateway.checkAndReserve request.tenant (gateway.preflightCost request.model sanitized)
  pure sanitized

def attempt (gateway : ModelGateway σ) (sanitized : ModelGenerationRequest) :
    GatewayEffect σ ModelGenerationResult := do
  let raw ← consult gateway.provider sanitized (.called sanitized)
  let content ← gateway.applyPiiGuardToText raw.content
  gateway.applyContentSafetyGuard [content]
  pure { raw with
    content := content
    estimatedCostGbp := gateway.pricing.estimateCostGbp raw.model raw.usage }

/-- The retry loop with so many attempts left, and the outcome it leaves for the telemetry. -/
def attempts (gateway : ModelGateway σ) (sanitized : ModelGenerationRequest) :
    Nat → CallOutcome → GatewayEffect σ (Except GatewayException ModelGenerationResult × CallOutcome)
  | 0, outcome => pure (.error (.providerFailure "Model provider timed out on every attempt"), outcome)
  | left + 1, outcome => do
    match ← Effect.capture (gateway.attempt sanitized) with
    | .ok result => pure (.ok result, .success)
    | .error .timeout => gateway.attempts sanitized left .timeout
    | .error (.piiBlocked error) => pure (.error (.piiBlocked error), .piiBlocked)
    | .error (.contentSafetyBlocked error) =>
      pure (.error (.contentSafetyBlocked error), .contentSafetyBlocked)
    | .error (.providerFailure message) =>
      if left = 0 then pure (.error (.providerFailure message), .providerError)
      else gateway.attempts sanitized left .providerError
    | .error error => pure (.error error, outcome)

def readPerfCounter (gateway : ModelGateway σ) : GatewayEffect σ Rat := fun world =>
  (.ok (gateway.perfCounter world.env), world, [])

/-- The `finally` block and what leaves it. -/
def finish (gateway : ModelGateway σ) (request sanitized : ModelGenerationRequest) (started : Rat) :
    Except GatewayException ModelGenerationResult × CallOutcome → GatewayEffect σ ModelGenerationResult
  | (.ok result, .success) => do
    Effect.emit (.recordedSuccess sanitized.tenant result)
    pure result
  | (result, outcome) => do
    let now ← gateway.readPerfCounter
    Effect.emit (.recordedFailure request.tenant request.model gateway.providerName outcome (now - started))
    match result with
    | .ok result => pure result
    | .error error => Effect.raise error

def complete (gateway : ModelGateway σ) (request sanitized : ModelGenerationRequest) :
    GatewayEffect σ ModelGenerationResult := do
  let started ← gateway.readPerfCounter
  let ended ← gateway.attempts sanitized gateway.maxAttempts .error
  gateway.finish request sanitized started ended

def generate (gateway : ModelGateway σ) (request : ModelGenerationRequest) :
    GatewayEffect σ ModelGenerationResult := do
  let sanitized ← gateway.preflight request
  gateway.complete request sanitized

end ModelGateway

end AgentPlatform.ModelGateway
