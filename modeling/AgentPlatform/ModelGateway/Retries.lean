import AgentPlatform.ModelGateway.Attribution

/-! # Retries

How a call ends once its reservation is accepted: with the first result of the provider, as the output
guards judge it, or after a failure of every attempt. -/

set_option linter.dupNamespace false

namespace AgentPlatform.ModelGateway

open Effect Safety

def GatewayAction.answered : GatewayAction → Option (Except GatewayException ModelGenerationResult)
  | .called _ answer => some answer
  | _ => none

def GatewayAction.outcome : GatewayAction → Option CallOutcome
  | .recordedSuccess .. => some .success
  | .recordedFailure _ _ _ outcome _ => some outcome
  | _ => none

def GatewayAction.success : GatewayAction → Option (String × ModelGenerationResult)
  | .recordedSuccess tenant result => some (tenant, result)
  | _ => none

/-- What the counters of a tenant and a provider grow by. -/
structure UsageCounters where
  input : Nat
  output : Nat
  costGbp : Rat
deriving DecidableEq

def counted (tenant provider : String) (log : List GatewayAction) : UsageCounters :=
  let results := ((log.filterMap GatewayAction.success).filter fun entry =>
    entry.1 = tenant ∧ entry.2.provider = provider).map Prod.snd
  { input := (results.map fun result => result.usage.promptTokens).sum
    output := (results.map fun result => result.usage.completionTokens).sum
    costGbp := (results.map ModelGenerationResult.estimatedCostGbp).sum }

/-- The provider answers, times out or fails, the detector answers or blocks, and no check is
    interrupted. -/
structure Behaved (log : List GatewayAction) : Prop where
  provider : ∀ sent error, .called sent (.error error) ∈ log → ModelGateway.Retried error
  detector : ∀ text error, .scanned text (.error error) ∈ log → ∃ blocked, error = .piiBlocked blocked
  safety : ∀ text name, .checked text (.error (.interrupted name)) ∉ log

theorem Behaved.left {first second : List GatewayAction} (behaved : Behaved (first ++ second)) : Behaved first where
  provider sent error member := behaved.provider sent error (List.mem_append_left _ member)
  detector text error member := behaved.detector text error (List.mem_append_left _ member)
  safety text name member := behaved.safety text name (List.mem_append_left _ member)

theorem Behaved.right {first second : List GatewayAction} (behaved : Behaved (first ++ second)) :
    Behaved second where
  provider sent error member := behaved.provider sent error (List.mem_append_right _ member)
  detector text error member := behaved.detector text error (List.mem_append_right _ member)
  safety text name member := behaved.safety text name (List.mem_append_right _ member)

def failureOutcome : GatewayException → CallOutcome
  | .timeout => .timeout
  | .providerFailure _ => .providerError
  | .piiBlocked _ => .piiBlocked
  | .contentSafetyBlocked _ => .contentSafetyBlocked
  | _ => .error

/-- The message of the failure that leaves the loop after its last attempt. -/
def lastMessage (failures : List GatewayException) : String :=
  match failures.getLast? with
  | some (.providerFailure message) => message
  | _ => "Model provider timed out on every attempt"

def lastOutcome (failures : List GatewayException) (outcome : CallOutcome) : CallOutcome :=
  (failures.getLast?.map failureOutcome).getD outcome

namespace ModelGateway

variable {σ : Type} (gateway : ModelGateway σ)

/-- The check of the text failed, or found something at or above its threshold. -/
def SafetyBlocks (guards : List GatewayAction) (text : String) (error : ContentSafetyBlockedError) : Prop :=
  ∃ control ∈ gateway.contentSafetyControl,
    (∃ findings, .checked text (.ok findings) ∈ guards ∧ control.2.blockedFindings findings ≠ [] ∧
      error = .violation (control.2.blockedFindings findings)) ∨
    ∃ cause, .checked text (.error cause) ∈ guards ∧ error = .unavailable

theorem SafetyBlocks.mono {gateway : ModelGateway σ} {guards more : List GatewayAction} {text : String}
    {error : ContentSafetyBlockedError} (blocks : gateway.SafetyBlocks guards text error)
    (subset : guards ⊆ more) : gateway.SafetyBlocks more text error := by
  obtain ⟨control, on, ⟨findings, checked, facts⟩ | ⟨cause, checked, facts⟩⟩ := blocks
  · exact ⟨control, on, .inl ⟨findings, subset checked, facts⟩⟩
  · exact ⟨control, on, .inr ⟨cause, subset checked, facts⟩⟩

/-- The verdict of the two guards on a text, from what they did. -/
inductive Verdict (guards : List GatewayAction) (text : String) : Except GatewayException String → Prop where
  | passed (content : String) (scanned : gateway.ScannedAs guards text content)
      (safe : gateway.Safe guards [content]) : Verdict guards text (.ok content)
  | pii (error : PiiBlockedError) (scanned : .scanned text (.error (.piiBlocked error)) ∈ guards) :
      Verdict guards text (.error (.piiBlocked error))
  | safety (content : String) (error : ContentSafetyBlockedError)
      (scanned : gateway.ScannedAs guards text content) (blocks : gateway.SafetyBlocks guards content error) :
      Verdict guards text (.error (.contentSafetyBlocked error))

/-- The result with the text that passed the guards and the cost of its tokens. -/
def priced (raw : ModelGenerationResult) (content : String) : ModelGenerationResult :=
  { raw with
    content := content
    estimatedCostGbp := gateway.pricing.estimateCostGbp raw.model raw.usage }

/-- The failed calls of a run of the loop. -/
def failedCalls (sanitized : ModelGenerationRequest) (failures : List GatewayException) : List GatewayAction :=
  failures.map fun error => .called sanitized (.error error)

/-- The label that a verdict leaves. -/
def verdictOutcome : Except GatewayException String → CallOutcome
  | .ok _ => .success
  | .error error => failureOutcome error

/-- How the retry loop ends with so many attempts left, and what it did. -/
inductive LoopEnd (sanitized : ModelGenerationRequest) : Nat → CallOutcome → List GatewayAction →
    Except GatewayException ModelGenerationResult × CallOutcome → Prop where
  | exhausted {left : Nat} {outcome : CallOutcome} (failures : List GatewayException)
      (all_attempts : failures.length = left) (failed : ∀ error ∈ failures, Retried error) :
      LoopEnd sanitized left outcome (failedCalls sanitized failures)
        (.error (.providerFailure (lastMessage failures)), lastOutcome failures outcome)
  | judged {left : Nat} {outcome : CallOutcome} (failures : List GatewayException)
      (raw : ModelGenerationResult) (guards : List GatewayAction) (verdict : Except GatewayException String)
      (in_time : failures.length < left) (failed : ∀ error ∈ failures, Retried error)
      (ofGuard : ∀ action ∈ guards, action.OfGuard) (decided : gateway.Verdict guards raw.content verdict) :
      LoopEnd sanitized left outcome (failedCalls sanitized failures ++ .called sanitized (.ok raw) :: guards)
        (verdict.map (gateway.priced raw), verdictOutcome verdict)

end ModelGateway

section

variable {σ : Type} {gateway : ModelGateway σ} {world final : World σ} {log : List GatewayAction}

namespace ModelGateway

theorem lastOutcome_cons (error : GatewayException) (failures : List GatewayException) (outcome : CallOutcome) :
    lastOutcome (error :: failures) outcome = lastOutcome failures (failureOutcome error) := by
  cases failures with
  | nil => rfl
  | cons other failures =>
    rw [lastOutcome, List.getLast?_cons_cons, lastOutcome, List.getLast?_eq_some_getLast (by simp)]
    rfl

theorem lastMessage_cons {error : GatewayException} {failures : List GatewayException}
    (more : failures = [] → error = .timeout) : lastMessage (error :: failures) = lastMessage failures := by
  cases failures with
  | nil =>
    rw [more rfl]
    rfl
  | cons other failures => rw [lastMessage, List.getLast?_cons_cons, lastMessage]

theorem LoopEnd.cons {sanitized : ModelGenerationRequest} {left : Nat} {outcome : CallOutcome}
    {error : GatewayException} {ended : Except GatewayException ModelGenerationResult × CallOutcome}
    (failed : Retried error) (more : left = 0 → error = .timeout)
    (onward : gateway.LoopEnd sanitized left (failureOutcome error) log ended) :
    gateway.LoopEnd sanitized (left + 1) outcome (.called sanitized (.error error) :: log) ended := by
  cases onward with
  | exhausted failures all_attempts failures_failed =>
    have message : lastMessage (error :: failures) = lastMessage failures := by
      apply lastMessage_cons
      rintro rfl
      exact more all_attempts.symm
    rw [← lastOutcome_cons error failures outcome, ← message]
    exact .exhausted (error :: failures) (congrArg (· + 1) all_attempts) (List.forall_mem_cons.mpr ⟨failed, failures_failed⟩)
  | judged failures raw guards verdict in_time failures_failed ofGuard decided =>
    exact .judged (error :: failures) raw guards verdict (Nat.succ_lt_succ in_time)
      (List.forall_mem_cons.mpr ⟨failed, failures_failed⟩) ofGuard decided

end ModelGateway

end

end AgentPlatform.ModelGateway
