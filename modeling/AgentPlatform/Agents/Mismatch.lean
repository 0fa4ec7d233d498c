import AgentPlatform.Agents.Specialists
import AgentPlatform.McpBoundary.Mediation

/-! # The customers that a payments query names -/

namespace AgentPlatform.Agents

open McpBoundary Orchestration Python

/-- A customer identifier anywhere in a query, in capitals. -/
def MentionsCustomer (unicode : Unicode) (query customerId : String) : Prop :=
  ∃ before matched after, query.toList = before ++ matched ++ after ∧
    (identifierPattern unicode "cust").OccursAt unicode.isWord before matched after ∧
    customerId = "CUST" ++ String.ofList (matched.drop "cust".length)

/-- A query names a customer other than the owner of a transaction. -/
def NamesAnother (unicode : Unicode) (query owner : String) : Prop :=
  ∃ customerId, MentionsCustomer unicode query customerId ∧ customerId ≠ owner

/-- The answer to customer and transaction identifiers that do not match. -/
def MismatchReported (reported : Except Raised AgentResult) : Prop :=
  ∃ result, reported = .ok result ∧ result.evidence = [] ∧ result.requiresHumanApproval = true ∧
    result.errorCode = some "CUSTOMER_TRANSACTION_MISMATCH"

section

variable {unicode : Unicode} {query customerId : String} {transaction : TransactionRecord}

theorem mentionsCustomer_of_customerIdFrom (identified : customerIdFrom unicode query = some customerId) :
    MentionsCustomer unicode query customerId := by
  obtain ⟨matched, found, rfl⟩ := Option.map_eq_some_iff.mp identified
  obtain ⟨before, after, shape, occurs⟩ := SearchPattern.of_find found
  exact ⟨before, matched, after, shape, occurs, rfl⟩

theorem customerIdFrom_of_mentions (mentioned : MentionsCustomer unicode query customerId) :
    ∃ first, customerIdFrom unicode query = some first := by
  obtain ⟨before, matched, after, shape, occurs, -⟩ := mentioned
  have found : ((identifierPattern unicode "cust").find unicode.isWord query.toList).isSome = true := by
    rw [SearchPattern.find_isSome, SearchPattern.search_iff]
    exact ⟨before, matched, after, shape, occurs⟩
  obtain ⟨first, found⟩ := Option.isSome_iff_exists.mp found
  refine ⟨"CUST" ++ String.ofList (first.drop "cust".length), ?_⟩
  rw [customerIdFrom, identifierFrom, found, Option.map_some]

theorem resultOf_errorCode {result : AgentResult} {agent : AgentRoute} {summary : String}
    {listed : List Evidence} {review : Bool} {errorCode : Option String}
    (made : resultOf agent summary listed review errorCode = .ok result) : result.errorCode = errorCode := by
  unfold resultOf at made
  split at made
  · cases made
    rfl
  · cases made

theorem paymentsReport_mismatch {requested : String} (other : requested ≠ transaction.customerId) :
    MismatchReported (paymentsReport (some requested) transaction) := by
  rw [paymentsReport, if_pos (by simpa using other), resultOf, dif_pos (by decide)]
  exact ⟨_, rfl, rfl, rfl, rfl⟩

theorem not_mismatchReported_owner :
    ¬ MismatchReported (paymentsReport (some transaction.customerId) transaction) := by
  rintro ⟨result, reported, -, -, code⟩
  rw [paymentsReport, if_neg (by simp)] at reported
  obtain ⟨evidence, -, made⟩ := Except.bind_eq_ok reported
  rw [resultOf_errorCode made] at code
  cases code

section

variable {σ : Type} {invoke : ToolCall (StateM σ)} {caller : CallerContext} {state : σ} {transactionId : String}

theorem paymentsInvestigate_answered (identified : transactionIdFrom unicode query = some transactionId)
    (answered : (invoke "payments.get_transaction" (.transaction transactionId) caller state).1 =
      .ok (.transaction transaction)) :
    (paymentsInvestigate unicode invoke query caller state).1 =
      paymentsReport (customerIdFrom unicode query) transaction := by
  simp only [paymentsInvestigate, identified, run_bind]
  generalize invoke "payments.get_transaction" (.transaction transactionId) caller state = first at answered
  obtain ⟨outcome, after⟩ := first
  obtain rfl : outcome = .ok (.transaction transaction) := answered
  rfl

/-- Another customer in the query is reported, unless the first customer of the query is the owner. -/
theorem paymentsInvestigate_mismatch_iff (identified : transactionIdFrom unicode query = some transactionId)
    (answered : (invoke "payments.get_transaction" (.transaction transactionId) caller state).1 =
      .ok (.transaction transaction)) :
    (NamesAnother unicode query transaction.customerId →
        MismatchReported (paymentsInvestigate unicode invoke query caller state).1) ↔
      customerIdFrom unicode query ≠ some transaction.customerId ∨
        ∀ customerId, MentionsCustomer unicode query customerId → customerId = transaction.customerId := by
  rw [paymentsInvestigate_answered identified answered]
  constructor
  · intro checked
    by_cases first : customerIdFrom unicode query = some transaction.customerId
    · right
      intro customerId mentioned
      by_contra other
      have reported := checked ⟨customerId, mentioned, other⟩
      rw [first] at reported
      exact not_mismatchReported_owner reported
    · exact .inl first
  · rintro (first | owner) ⟨customerId, mentioned, other⟩
    · obtain ⟨requested, found⟩ := customerIdFrom_of_mentions mentioned
      rw [found] at first ⊢
      exact paymentsReport_mismatch fun same => first (congrArg some same)
    · exact absurd (owner customerId mentioned) other

end

end

/-! ## Queries that name the owner and another customer -/

def delayedTransfer : TransactionRecord where
  transactionId := "TXN-5001"
  customerId := "CUST-1098"
  accountId := "ACCT-2001"
  amount := 2500
  currency := "GBP"
  status := "delayed"
  paymentRoute := "Faster Payments"
  failureReason := some "Beneficiary bank acknowledgement timeout"

def delayedTool : ToolCall (StateM Unit) := fun _ _ _ => pure (.ok (.transaction delayedTransfer))

def strangerFirst : String := "Show CUST-2042 and CUST-1098 transaction TXN-5001"

theorem paymentsInvestigate_mismatch_strangerFirst :
    NamesAnother asciiUnicode strangerFirst delayedTransfer.customerId ∧
      MismatchReported (paymentsInvestigate asciiUnicode delayedTool strangerFirst paymentsCaller ()).1 := by
  have first : customerIdFrom asciiUnicode strangerFirst = some "CUST-2042" := by decide
  have named : NamesAnother asciiUnicode strangerFirst delayedTransfer.customerId :=
    ⟨"CUST-2042", mentionsCustomer_of_customerIdFrom first, by decide⟩
  have other : customerIdFrom asciiUnicode strangerFirst ≠ some delayedTransfer.customerId := by
    rw [first]
    decide
  exact ⟨named, (@paymentsInvestigate_mismatch_iff asciiUnicode strangerFirst delayedTransfer Unit delayedTool
    paymentsCaller () "TXN-5001" (by decide) rfl).mpr (.inl other) named⟩

def ownerFirst : String := "Show CUST-1098 and CUST-2042 transaction TXN-5001"

theorem ownerFirst_mentions : MentionsCustomer asciiUnicode ownerFirst "CUST-2042" := by
  have found : (identifierPattern asciiUnicode "cust").findFrom asciiUnicode.isWord
      "Show CUST-1098 and ".toList.getLast? "CUST-2042 transaction TXN-5001".toList = some "CUST-2042".toList := by
    decide
  obtain ⟨skipped, after, shape, occurs⟩ := SearchPattern.of_findFrom found
  refine ⟨"Show CUST-1098 and ".toList ++ skipped, "CUST-2042".toList, after, ?_, occurs, by decide⟩
  have joined : ownerFirst.toList = "Show CUST-1098 and ".toList ++ "CUST-2042 transaction TXN-5001".toList := by
    decide
  rw [joined, shape]
  simp only [List.append_assoc]

/-- The second customer is not compared with the owner. -/
theorem ownerFirst_unreported :
    ¬ (NamesAnother asciiUnicode ownerFirst delayedTransfer.customerId →
      MismatchReported (paymentsInvestigate asciiUnicode delayedTool ownerFirst paymentsCaller ()).1) := by
  intro checked
  have reported := checked ⟨"CUST-2042", ownerFirst_mentions, by decide⟩
  have identified : transactionIdFrom asciiUnicode ownerFirst = some "TXN-5001" := by decide
  have first : customerIdFrom asciiUnicode ownerFirst = some delayedTransfer.customerId := by decide
  rw [@paymentsInvestigate_answered asciiUnicode ownerFirst delayedTransfer Unit delayedTool paymentsCaller () "TXN-5001"
    identified rfl, first] at reported
  exact not_mismatchReported_owner reported

end AgentPlatform.Agents
