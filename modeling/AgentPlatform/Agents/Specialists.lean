import AgentPlatform.Base.Fallible
import AgentPlatform.McpBoundary.Servers
import AgentPlatform.Orchestration.Contracts

/-! # The specialists

Each of them validates what the gateway answers, and reports a tool failure for an error of the gateway. -/

namespace AgentPlatform.Agents

open McpBoundary Orchestration Python

/-- Decimal digits of a number of hundredths. -/
def hundredths (count : Nat) : String :=
  toString (count / 100) ++ "." ++ toString (count / 10 % 10) ++ toString (count % 10)

/-- The format `.2f` of a decimal. -/
def twoDecimals (amount : Rat) : String :=
  let cents := roundHalfEven (amount * 100)
  (if cents < 0 then "-" else "") ++ hundredths cents.natAbs

def validationError : Raised := ⟨"ValidationError"⟩

def evidenceOf (sourceId : String) (sourceType : EvidenceSource) (detail : String) : Except Raised Evidence :=
  if lengths : (1 ≤ sourceId.length ∧ sourceId.length ≤ 100) ∧ 1 ≤ detail.length ∧ detail.length ≤ 1000 then
    .ok ⟨sourceId, sourceType, detail, lengths.1, lengths.2⟩
  else .error validationError

def resultOf (agent : AgentRoute) (summary : String) (evidence : List Evidence) (requiresHumanApproval : Bool)
    (errorCode : Option String) : Except Raised AgentResult :=
  if length : 1 ≤ summary.length ∧ summary.length ≤ 2000 then
    .ok ⟨agent, summary, evidence, requiresHumanApproval, errorCode, length⟩
  else .error validationError

/-- `invoke` of the gateway that a specialist holds. -/
abbrev ToolCall (m : Type → Type) :=
  String → ToolDictionary → CallerContext → m (Except InvocationError ToolOutput)

/-- The handler of `MCPGatewayError`, which other exceptions pass by. -/
def onGatewayError (failure : Except Raised AgentResult) : InvocationError → Except Raised AgentResult
  | .gateway _ => failure
  | .unserialisable => .error ⟨"TypeError"⟩
  | .interrupted => .error ⟨"CancelledError"⟩

section

variable {m : Type → Type} [Monad m] (unicode : Unicode) (invoke : ToolCall m) (query : String)
  (caller : CallerContext)

/-! ## Customers -/

def customerFailure : Except Raised AgentResult :=
  resultOf .customer "Customer tools could not return an authorised result." [] true (some "CUSTOMER_TOOL_FAILURE")

def customerEvidence (customer : CustomerRecord) : Except Raised Evidence :=
  evidenceOf customer.customerId .customer
    ("Customer " ++ customer.displayName ++ "; preferred contact " ++ customer.contactPreference ++
      "; masked email " ++ customer.maskedEmail ++ ".")

def accountEvidence (account : AccountRecord) : Except Raised Evidence :=
  evidenceOf account.accountId .account
    (account.accountType ++ " account is " ++ account.status ++ " in " ++ account.currency ++ ".")

def customerReport (customer : CustomerRecord) (accounts : List AccountRecord) : Except Raised AgentResult := do
  let first ← customerEvidence customer
  let others ← accounts.mapM accountEvidence
  resultOf .customer
    ("Found synthetic customer " ++ customer.customerId ++ " with " ++ toString accounts.length ++ " accounts.")
    (first :: others) false none

/-- `CustomerAgent.investigate`. -/
def customerInvestigate : m (Except Raised AgentResult) :=
  match customerIdFrom unicode query with
  | none =>
    pure (resultOf .customer "A valid fictional customer identifier is required." [] false
      (some "CUSTOMER_ID_REQUIRED"))
  | some customerId => do
    match ← invoke "customer.get_customer" (.customer customerId) caller with
    | .error error => pure (onGatewayError customerFailure error)
    | .ok (.customer customer) =>
      match ← invoke "customer.get_accounts" (.customer customerId) caller with
      | .error error => pure (onGatewayError customerFailure error)
      | .ok (.accounts result) => pure (customerReport customer result.accounts)
      | .ok _ => pure (.error validationError)
    | .ok _ => pure (.error validationError)

/-! ## Payments -/

def paymentsFailure : Except Raised AgentResult :=
  resultOf .payments "Payment tools could not return an authorised result." [] true (some "PAYMENT_TOOL_FAILURE")

def paymentsReport (requested : Option String) (transaction : TransactionRecord) : Except Raised AgentResult :=
  if requested.any fun customerId => customerId ≠ transaction.customerId then
    resultOf .payments "The supplied customer and transaction identifiers do not match." [] true
      (some "CUSTOMER_TRANSACTION_MISMATCH")
  else do
    let reason := match transaction.failureReason with
      | none => "No failure reason recorded"
      | some reason => if reason = "" then "No failure reason recorded" else reason
    let evidence ← evidenceOf transaction.transactionId .transaction
      (transaction.currency ++ " " ++ twoDecimals transaction.amount ++ " via " ++ transaction.paymentRoute ++
        "; status " ++ transaction.status ++ "; reason: " ++ reason ++ ".")
    resultOf .payments
      ("Transaction " ++ transaction.transactionId ++ " is " ++ transaction.status ++
        "; no payment action was executed.")
      [evidence] false none

/-- `PaymentsAgent.investigate`. -/
def paymentsInvestigate : m (Except Raised AgentResult) :=
  match transactionIdFrom unicode query with
  | none =>
    pure (resultOf .payments "A valid fictional transaction identifier is required." [] false
      (some "TRANSACTION_ID_REQUIRED"))
  | some transactionId => do
    match ← invoke "payments.get_transaction" (.transaction transactionId) caller with
    | .error error => pure (onGatewayError paymentsFailure error)
    | .ok (.transaction transaction) => pure (paymentsReport (customerIdFrom unicode query) transaction)
    | .ok _ => pure (.error validationError)

/-! ## Policies -/

def policyFailure : Except Raised AgentResult :=
  resultOf .policy "Policy tools could not return an authorised result." [] true (some "POLICY_TOOL_FAILURE")

def policyEvidence (policy : PolicyRecord) : Except Raised Evidence :=
  evidenceOf policy.policyId .policy
    (policy.title ++ ": " ++ policy.text ++ " [citation: " ++ policy.chunkId ++ ", version " ++ policy.version ++
      ", sha256 " ++ policy.provenanceSha256 ++ "]")

def policyReport (policies : List PolicyRecord) : Except Raised AgentResult :=
  if policies = [] then
    resultOf .policy "No matching synthetic policy was found; manual review is required." [] true
      (some "POLICY_NOT_FOUND")
  else do
    let evidence ← policies.mapM policyEvidence
    resultOf .policy ("Found " ++ toString policies.length ++ " relevant synthetic policy record(s).") evidence
      false none

/-- `PolicyAgent.investigate`. -/
def policyInvestigate : m (Except Raised AgentResult) := do
  match ← invoke "policy.search" (.policy query 3) caller with
  | .error error => pure (onGatewayError policyFailure error)
  | .ok (.policies results) => pure (policyReport results.policies)
  | .ok _ => pure (.error validationError)

end

/-! ## Evidence -/

theorem run_bind {σ α β : Type} (first : StateM σ α) (rest : α → StateM σ β) (state : σ) :
    (first >>= rest) state = rest (first state).1 (first state).2 := rfl

theorem run_pure {σ α : Type} (value : α) (state : σ) : (pure value : StateM σ α) state = (value, state) := rfl

section

variable {result : AgentResult} {evidence : Evidence}

theorem evidenceOf_ok {sourceId detail : String} {sourceType : EvidenceSource}
    (made : evidenceOf sourceId sourceType detail = .ok evidence) : evidence.sourceType = sourceType := by
  unfold evidenceOf at made
  split at made
  · cases made
    rfl
  · cases made

theorem resultOf_ok {agent : AgentRoute} {summary : String} {listed : List Evidence} {review : Bool}
    {errorCode : Option String} (made : resultOf agent summary listed review errorCode = .ok result) :
    result.evidence = listed := by
  unfold resultOf at made
  split at made
  · cases made
    rfl
  · cases made

theorem resultOf_empty {agent : AgentRoute} {summary : String} {review : Bool} {errorCode : Option String}
    (made : resultOf agent summary [] review errorCode = .ok result) : evidence ∉ result.evidence := by
  rw [resultOf_ok made]
  exact List.not_mem_nil

theorem onGatewayError_ok {failure : Except Raised AgentResult} {error : InvocationError}
    (reported : onGatewayError failure error = .ok result) : failure = .ok result := by
  cases error with
  | gateway error => exact reported
  | _ => cases reported

theorem customerReport_sources {customer : CustomerRecord} {accounts : List AccountRecord}
    (reported : customerReport customer accounts = .ok result) (member : evidence ∈ result.evidence) :
    evidence.sourceType ≠ .policy := by
  obtain ⟨first, made, reported⟩ := Except.bind_eq_ok reported
  obtain ⟨others, listed, reported⟩ := Except.bind_eq_ok reported
  rw [resultOf_ok reported] at member
  rcases List.mem_cons.mp member with rfl | member
  · rw [evidenceOf_ok made]
    decide
  · obtain ⟨account, -, made⟩ := Except.exists_of_mapM listed member
    rw [evidenceOf_ok made]
    decide

theorem paymentsReport_sources {requested : Option String} {transaction : TransactionRecord}
    (reported : paymentsReport requested transaction = .ok result) (member : evidence ∈ result.evidence) :
    evidence.sourceType ≠ .policy := by
  unfold paymentsReport at reported
  split at reported
  · exact absurd member (resultOf_empty reported)
  · obtain ⟨only, made, reported⟩ := Except.bind_eq_ok reported
    rw [resultOf_ok reported, List.mem_singleton] at member
    rw [member, evidenceOf_ok made]
    decide

theorem policyReport_sources {policies : List PolicyRecord} (reported : policyReport policies = .ok result)
    (member : evidence ∈ result.evidence) : ∃ policy ∈ policies, policyEvidence policy = .ok evidence := by
  unfold policyReport at reported
  split at reported
  · exact absurd member (resultOf_empty reported)
  · obtain ⟨listed, made, reported⟩ := Except.bind_eq_ok reported
    rw [resultOf_ok reported] at member
    exact Except.exists_of_mapM made member

variable {σ : Type} {unicode : Unicode} {invoke : ToolCall (StateM σ)} {query : String} {caller : CallerContext} {state : σ}

theorem customerInvestigate_sources (reported : (customerInvestigate unicode invoke query caller state).1 = .ok result)
    (member : evidence ∈ result.evidence) : evidence.sourceType ≠ .policy := by
  cases identified : customerIdFrom unicode query with
  | none =>
    simp only [customerInvestigate, identified, run_pure] at reported
    exact absurd member (resultOf_empty reported)
  | some customerId =>
    simp only [customerInvestigate, identified, run_bind] at reported
    generalize invoke "customer.get_customer" (.customer customerId) caller state = first at reported
    obtain ⟨error | output, after⟩ := first
    · simp only [run_pure] at reported
      exact absurd member (resultOf_empty (onGatewayError_ok reported))
    · cases output with
      | customer customer =>
        simp only [run_bind] at reported
        generalize invoke "customer.get_accounts" (.customer customerId) caller after = second at reported
        obtain ⟨error | output, last⟩ := second
        · simp only [run_pure] at reported
          exact absurd member (resultOf_empty (onGatewayError_ok reported))
        · cases output with
          | accounts accounts => exact customerReport_sources reported member
          | _ => cases reported
      | _ => cases reported

theorem paymentsInvestigate_sources (reported : (paymentsInvestigate unicode invoke query caller state).1 = .ok result)
    (member : evidence ∈ result.evidence) : evidence.sourceType ≠ .policy := by
  cases identified : transactionIdFrom unicode query with
  | none =>
    simp only [paymentsInvestigate, identified, run_pure] at reported
    exact absurd member (resultOf_empty reported)
  | some transactionId =>
    simp only [paymentsInvestigate, identified, run_bind] at reported
    generalize invoke "payments.get_transaction" (.transaction transactionId) caller state = first at reported
    obtain ⟨error | output, after⟩ := first
    · simp only [run_pure] at reported
      exact absurd member (resultOf_empty (onGatewayError_ok reported))
    · cases output with
      | transaction transaction => exact paymentsReport_sources reported member
      | _ => cases reported

theorem policyInvestigate_sources (reported : (policyInvestigate invoke query caller state).1 = .ok result)
    (member : evidence ∈ result.evidence) :
    ∃ results, (invoke "policy.search" (.policy query 3) caller state).1 = .ok (.policies results) ∧
      ∃ policy ∈ results.policies, policyEvidence policy = .ok evidence := by
  simp only [policyInvestigate, run_bind] at reported
  generalize invoke "policy.search" (.policy query 3) caller state = first at reported ⊢
  obtain ⟨error | output, after⟩ := first
  · simp only [run_pure] at reported
    exact absurd member (resultOf_empty (onGatewayError_ok reported))
  · cases output with
    | policies results => exact ⟨results, rfl, policyReport_sources reported member⟩
    | _ => cases reported

end

end AgentPlatform.Agents
