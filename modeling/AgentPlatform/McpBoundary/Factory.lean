import AgentPlatform.Base.PythonJson
import AgentPlatform.McpBoundary.Audit
import AgentPlatform.McpBoundary.Quota
import AgentPlatform.McpBoundary.Servers

/-! # The local gateway

The registry of the local tools, and a call that runs its handlers to the end. -/

namespace AgentPlatform.McpBoundary

open PyJson Python

/-- The entry of a dictionary in its canonical text. -/
def jsonField (name : String) (value : String) : String := jsonString (Str.ofString name) ++ ":" ++ value

def jsonText (value : String) : String := jsonString (Str.ofString value)

/-- `json.dumps` with sorted keys and without white space. -/
def ToolDictionary.canonical : ToolDictionary → String
  | .customer customerId => "\x7b" ++ jsonField "customer_id" (jsonText customerId) ++ "\x7d"
  | .transaction transactionId => "\x7b" ++ jsonField "transaction_id" (jsonText transactionId) ++ "\x7d"
  | .policy query limit =>
    "\x7b" ++ jsonField "limit" (toString limit) ++ "," ++ jsonField "query" (jsonText query) ++ "\x7d"

abbrev LocalRegistration (unicode : Unicode) :=
  ToolRegistration ToolDictionary (ToolInput unicode) ToolOutput ToolOutput

section

variable (unicode : Unicode)

def customerInput : ToolDictionary → Option (ToolInput unicode)
  | .customer customerId => (CustomerRequest.make unicode customerId).map .customer
  | _ => none

def transactionInput : ToolDictionary → Option (ToolInput unicode)
  | .transaction transactionId => (TransactionRequest.make unicode transactionId).map .transaction
  | _ => none

def policyInput : ToolDictionary → Option (ToolInput unicode)
  | .policy query limit => (PolicySearchRequest.make query limit).map .policy
  | _ => none

def customerTool : LocalRegistration unicode where
  name := "customer.get_customer"
  allowedAgents := {"customer"}
  requiredRoles := {"agent.invoke"}
  inputModel := customerInput unicode
  outputModel
    | .customer record => some (.customer record)
    | _ => none

def accountsTool : LocalRegistration unicode where
  name := "customer.get_accounts"
  allowedAgents := {"customer"}
  requiredRoles := {"agent.invoke"}
  inputModel := customerInput unicode
  outputModel
    | .accounts record => some (.accounts record)
    | _ => none

def transactionTool : LocalRegistration unicode where
  name := "payments.get_transaction"
  allowedAgents := {"payments"}
  requiredRoles := {"agent.invoke"}
  inputModel := transactionInput unicode
  outputModel
    | .transaction record => some (.transaction record)
    | _ => none

def policyTool : LocalRegistration unicode where
  name := "policy.search"
  allowedAgents := {"policy"}
  requiredRoles := {"agent.invoke"}
  inputModel := policyInput unicode
  outputModel
    | .policies results => some (.policies results)
    | _ => none

def localTools : List (LocalRegistration unicode) :=
  [customerTool unicode, accountsTool unicode, transactionTool unicode, policyTool unicode]

theorem localTools_distinct : ((localTools unicode).map ToolRegistration.name).Nodup := by
  simp [localTools, customerTool, accountsTool, transactionTool, policyTool]

structure GatewayLimits where
  maxAttempts : Nat
  rateLimit : Nat
  rateWindow : Int
  attemptsPositive : 1 ≤ maxAttempts
  limitPositive : 1 ≤ rateLimit

theorem one_le_two' : 1 ≤ 2 := by decide

theorem one_le_thirty : 1 ≤ 30 := by decide

def GatewayLimits.default : GatewayLimits := ⟨2, 30, 60, one_le_two', one_le_thirty⟩

abbrev LocalGateway := GovernedMCPGateway ToolDictionary (ToolInput unicode) ToolOutput ToolOutput

abbrev LocalState := InvocationState ToolDictionary (ToolInput unicode) ToolOutput ToolOutput

def buildLocalMcpGateway (sha256 : String → String) (limits : GatewayLimits) : LocalGateway unicode where
  maxAttempts := limits.maxAttempts
  rateLimit := limits.rateLimit
  rateWindow := limits.rateWindow
  tools := localTools unicode
  fingerprint arguments := some (sha256 arguments.canonical)
  attemptsPositive := limits.attemptsPositive
  limitPositive := limits.limitPositive
  distinct := localTools_distinct unicode

end

/-- The handlers of the registry. -/
def DomainTools.handle (tools : DomainTools) {unicode : Unicode} (tool : String) (input : ToolInput unicode)
    (caller : CallerContext) : HandlerOutcome ToolOutput :=
  match input with
  | .customer request =>
    if tool = "customer.get_accounts" then tools.getAccounts request.customerId
    else tools.getCustomer request.customerId
  | .transaction request => tools.getTransaction request.transactionId
  | .policy request => tools.search request.query caller.roles request.limit

/-- The clocks that the invocations read, by their numbers. -/
structure Clocks where
  monotonic : Nat → Rat
  elapsed : Nat → Rat

section

variable {Arguments Input Raw Output : Type}

def concluded (out : List (Observation Arguments Input Raw Output)) : Option (Except InvocationError Output) :=
  out.findSome? Observation.result

namespace GovernedMCPGateway

variable (gateway : GovernedMCPGateway Arguments Input Raw Output)
  (handle : String → Input → CallerContext → HandlerOutcome Raw)

/-- The rest of a call, with each of its handlers run to its end, for so many handlers. -/
def follow (elapsed : Rat) : Nat →
    InvocationState Arguments Input Raw Output × List (Observation Arguments Input Raw Output) →
    Except InvocationError Output × InvocationState Arguments Input Raw Output
  | 0, run => ((concluded run.2).getD (.error (.gateway .timedOut)), run.1)
  | handlers + 1, run =>
    match concluded run.2 with
    | some result => (result, run.1)
    | none =>
      match run.1.pending with
      | [] => (.error (.gateway .timedOut), run.1)
      | call :: _ =>
        follow elapsed handlers
          (gateway.settle run.1 call elapsed (handle call.registration.name call.input call.caller))

/-- A call of a gateway with no other calls in flight. -/
def invoke (clocks : Clocks) (tool : String) (arguments : Arguments) (caller : CallerContext) :
    StateM (InvocationState Arguments Input Raw Output) (Except InvocationError Output) := fun state =>
  let elapsed := clocks.elapsed state.next
  gateway.follow handle elapsed gateway.maxAttempts
    (gateway.begin state (clocks.monotonic state.next) elapsed tool arguments caller)

/-- The answer of a tool to a call that the gates let through. -/
def answer (registration : ToolRegistration Arguments Input Raw Output) (arguments : Arguments)
    (caller : CallerContext) : Except InvocationError Output :=
  match registration.inputModel arguments with
  | none => .error (.gateway .badArguments)
  | some input => registration.answered (handle registration.name input caller)

section

variable {gateway : GovernedMCPGateway Arguments Input Raw Output}
  {handle : String → Input → CallerContext → HandlerOutcome Raw}

theorem follow_concluded {elapsed : Rat} {handlers : Nat}
    {run : InvocationState Arguments Input Raw Output × List (Observation Arguments Input Raw Output)}
    {result : Except InvocationError Output} (ended : concluded run.2 = some result) :
    gateway.follow handle elapsed handlers run = (result, run.1) := by
  cases handlers <;> simp only [follow, ended, Option.getD_some]

theorem follow_settle {elapsed : Rat} {handlers : Nat}
    {run : InvocationState Arguments Input Raw Output × List (Observation Arguments Input Raw Output)}
    {call : PendingInvocation Arguments Input Raw Output} {others : List (PendingInvocation Arguments Input Raw Output)}
    (running : concluded run.2 = none) (first : run.1.pending = call :: others) :
    gateway.follow handle elapsed (handlers + 1) run =
      gateway.follow handle elapsed handlers
        (gateway.settle run.1 call elapsed (handle call.registration.name call.input call.caller)) := by
  simp only [follow, running, first]

theorem settle_ends (state : InvocationState Arguments Input Raw Output)
    (call : PendingInvocation Arguments Input Raw Output) (elapsed : Rat) (ended : HandlerOutcome Raw) :
    (gateway.settle state call elapsed ended).1.requests = state.requests ∧
      (gateway.settle state call elapsed ended).1.next = state.next ∧
      (concluded (gateway.settle state call elapsed ended).2 = some (call.registration.answered ended) ∨
        call.attempts ≠ gateway.maxAttempts ∧ concluded (gateway.settle state call elapsed ended).2 = none ∧
          ∃ outcome others, (gateway.settle state call elapsed ended).1.pending =
            { call with attempts := call.attempts + 1, outcome := outcome } :: others) := by
  have resumed := gateway.resume_cases
    { state with pending := state.pending.filter fun other => other.id ≠ call.id } call elapsed ended
  rcases resumed with ⟨outcome, closed⟩ | ⟨outcome, more, again⟩
  · rw [settle, closed]
    cases call.registration.answered ended <;> exact ⟨rfl, rfl, .inl rfl⟩
  · rw [settle, again]
    exact ⟨rfl, rfl, .inr ⟨more, rfl, outcome, _, rfl⟩⟩

theorem follow_pending {elapsed : Rat} {left : Nat}
    {run : InvocationState Arguments Input Raw Output × List (Observation Arguments Input Raw Output)}
    (call : PendingInvocation Arguments Input Raw Output) {others : List (PendingInvocation Arguments Input Raw Output)}
    (running : concluded run.2 = none) (first : run.1.pending = call :: others)
    (count : call.attempts + left = gateway.maxAttempts) :
    ∃ after, gateway.follow handle elapsed (left + 1) run =
        (call.registration.answered (handle call.registration.name call.input call.caller), after) ∧
      after.requests = run.1.requests ∧ after.next = run.1.next := by
  induction left generalizing run call others with
  | zero =>
    rw [follow_settle running first]
    obtain ⟨requests, next, ended | ⟨more, -⟩⟩ := gateway.settle_ends run.1 call elapsed
      (handle call.registration.name call.input call.caller)
    · exact ⟨_, follow_concluded ended, requests, next⟩
    · exact absurd count more
  | succ left ih =>
    rw [follow_settle running first]
    obtain ⟨requests, next, ended | ⟨-, going, outcome, rest, pending⟩⟩ := gateway.settle_ends run.1 call elapsed
      (handle call.registration.name call.input call.caller)
    · exact ⟨_, follow_concluded ended, requests, next⟩
    · obtain ⟨after, followed, requests', next'⟩ := ih _ going pending (by simp only; omega)
      exact ⟨after, followed, requests'.trans requests, next'.trans next⟩

theorem invoke_eq (handle : String → Input → CallerContext → HandlerOutcome Raw) (clocks : Clocks) {tool : String}
    (arguments : Arguments) {caller : CallerContext}
    {registration : ToolRegistration Arguments Input Raw Output} {fingerprint : String}
    (serialised : gateway.fingerprint arguments = some fingerprint) (found : gateway.lookup tool = some registration)
    (agent : caller.agent.name ∈ registration.allowedAgents) (roles : registration.requiredRoles ⊆ caller.roles)
    (state : InvocationState Arguments Input Raw Output) :
    ∃ after, gateway.invoke handle clocks tool arguments caller state =
        (if (RateLimit.check gateway.rateLimit (gateway.rateWindow : Rat) (clocks.monotonic state.next)
            (state.requests (rateKey caller.subject tool))).1 then
          answer handle registration arguments caller
        else .error (.gateway .rateLimited), after) ∧
      after.requests = Function.update state.requests (rateKey caller.subject tool)
        (RateLimit.check gateway.rateLimit (gateway.rateWindow : Rat) (clocks.monotonic state.next)
          (state.requests (rateKey caller.subject tool))).2 ∧
      after.next = state.next + 1 := by
  rw [invoke]
  rcases checked : RateLimit.check gateway.rateLimit (gateway.rateWindow : Rat) (clocks.monotonic state.next)
    (state.requests (rateKey caller.subject tool)) with ⟨admitted, kept⟩
  cases admitted with
  | false =>
    simp only [begin, serialised, admitCall, found, not_true, agent, roles, if_false, checked]
    exact ⟨_, follow_concluded rfl, rfl, rfl⟩
  | true =>
    cases valid : registration.inputModel arguments with
    | none =>
      simp only [begin, serialised, admitCall, found, not_true, agent, roles, if_false, checked, valid, answer]
      exact ⟨_, follow_concluded rfl, rfl, rfl⟩
    | some input =>
      simp only [begin, serialised, admitCall, found, not_true, agent, roles, if_false, checked, valid, answer, if_true]
      obtain ⟨left, attempts⟩ := Nat.exists_eq_add_of_le' gateway.attemptsPositive
      have count : 1 + left = gateway.maxAttempts := by rw [attempts, Nat.add_comm]
      rw [attempts]
      exact follow_pending ⟨state.next, registration, input, caller, fingerprint, 1, .error⟩ rfl rfl count

end

end GovernedMCPGateway

end

end AgentPlatform.McpBoundary
