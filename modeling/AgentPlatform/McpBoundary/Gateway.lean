import AgentPlatform.Base.Machine
import AgentPlatform.Base.RateLimit
import AgentPlatform.Base.Rounding
import AgentPlatform.McpBoundary.Contracts

/-! # The governed tool gateway

`invoke` runs without interruption up to the await of a handler, and from the end of a handler to the
next await or to its own end. -/

namespace AgentPlatform.McpBoundary

open Python

inductive MCPGatewayError where
  | accessDenied (message : String)
  | toolNotFound (message : String)
  | invalidArguments (message : String)
  | toolFailure (message : String)
deriving DecidableEq, Repr

/-- What `invoke` raises: an error of the gateway, the failure to serialise the arguments, or an
    interruption from outside `Exception`. -/
inductive InvocationError where
  | gateway (error : MCPGatewayError)
  | unserialisable
  | interrupted
deriving DecidableEq, Repr

/-- How a handler under the timeout ends. -/
inductive HandlerOutcome (Raw : Type) where
  | returned (raw : Raw)
  | timedOut
  | lookupOrValidation
  | failed
  | interrupted
deriving DecidableEq, Repr

/-- The models answer `none` on a validation error. -/
structure ToolRegistration (Arguments Input Raw Output : Type) where
  name : String
  allowedAgents : Finset String
  requiredRoles : Finset String
  inputModel : Arguments → Option Input
  outputModel : Raw → Option Output

structure GovernedMCPGateway (Arguments Input Raw Output : Type) where
  maxAttempts : Nat
  rateLimit : Nat
  rateWindow : Int
  tools : List (ToolRegistration Arguments Input Raw Output)
  fingerprint : Arguments → Option String
  attemptsPositive : 1 ≤ maxAttempts
  limitPositive : 1 ≤ rateLimit
  distinct : (tools.map ToolRegistration.name).Nodup

/-- A call that awaits its handler. -/
structure PendingInvocation (Arguments Input Raw Output : Type) where
  id : Nat
  registration : ToolRegistration Arguments Input Raw Output
  input : Input
  caller : CallerContext
  fingerprint : String
  attempts : Nat
  outcome : AuditOutcome

/-- The shared state: the clock, the limiter, the calls in flight and the audit sink. -/
structure InvocationState (Arguments Input Raw Output : Type) where
  now : Rat
  requests : String → List Rat
  pending : List (PendingInvocation Arguments Input Raw Output)
  audit : List AuditRecord
  next : Nat

inductive Observation (Arguments Input Raw Output : Type) where
  | invoked (id : Nat) (tool : String) (arguments : Arguments) (caller : CallerContext)
  | admitted (id : Nat) (subject tool : String) (now : Rat)
  | rateRefused (id : Nat) (subject tool : String) (now : Rat)
  | handlerStarted (id : Nat) (tool : String) (input : Input) (caller : CallerContext)
  | handlerEnded (id : Nat) (outcome : HandlerOutcome Raw)
  | counted (tool : String) (outcome : AuditOutcome)
  | audited (id : Nat) (record : AuditRecord)
  | returned (id : Nat) (output : Output)
  | raised (id : Nat) (error : InvocationError)

def MCPGatewayError.notApproved : MCPGatewayError := .toolNotFound "Tool is not approved"

def MCPGatewayError.agentDenied : MCPGatewayError :=
  .accessDenied "Agent is not permitted to use this tool"

def MCPGatewayError.roleDenied : MCPGatewayError := .accessDenied "Caller lacks the required tool role"

def MCPGatewayError.rateLimited : MCPGatewayError := .accessDenied "Tool rate limit exceeded"

def MCPGatewayError.badArguments : MCPGatewayError :=
  .invalidArguments "Tool arguments failed schema validation"

def MCPGatewayError.noValidResult : MCPGatewayError := .toolFailure "Tool returned no valid result"

def MCPGatewayError.executionFailed : MCPGatewayError := .toolFailure "Tool execution failed"

def MCPGatewayError.timedOut : MCPGatewayError := .toolFailure "Tool execution timed out"

def rateKey (subject tool : String) : String := subject ++ ":" ++ tool

namespace GovernedMCPGateway

variable {Arguments Input Raw Output : Type} (gateway : GovernedMCPGateway Arguments Input Raw Output)

def lookup (tool : String) : Option (ToolRegistration Arguments Input Raw Output) :=
  gateway.tools.find? fun registration => registration.name = tool

def toolLabel (tool : String) : String :=
  if (gateway.lookup tool).isSome then tool else "unapproved"

/-- The `finally` block and what leaves it. -/
def conclude (state : InvocationState Arguments Input Raw Output) (id : Nat) (caller : CallerContext)
    (tool fingerprint : String) (outcome : AuditOutcome) (elapsed : Rat) (attempts : Nat)
    (result : Except InvocationError Output) :
    InvocationState Arguments Input Raw Output × List (Observation Arguments Input Raw Output) :=
  let record : AuditRecord :=
    { requestId := caller.requestId
      subject := caller.subject
      agent := caller.agent
      tool := trim tool
      argumentFingerprint := fingerprint
      outcome := outcome
      durationMs := roundTo 3 (elapsed * 1000)
      attemptCount := attempts }
  ({ state with audit := state.audit ++ [record] },
    [.counted (gateway.toolLabel tool) outcome, .audited id record,
      match result with
      | .ok output => .returned id output
      | .error error => .raised id error])

def admitCall (state : InvocationState Arguments Input Raw Output) (id : Nat) (now elapsed : Rat) (tool : String)
    (arguments : Arguments) (caller : CallerContext) (fingerprint : String) :
    InvocationState Arguments Input Raw Output × List (Observation Arguments Input Raw Output) :=
  let deny (error : MCPGatewayError) :=
    gateway.conclude state id caller tool fingerprint .denied elapsed 0 (.error (.gateway error))
  match gateway.lookup tool with
  | none => deny .notApproved
  | some registration =>
    if caller.agent.name ∉ registration.allowedAgents then deny .agentDenied
    else if ¬ registration.requiredRoles ⊆ caller.roles then deny .roleDenied
    else
      let key := rateKey caller.subject tool
      match RateLimit.check gateway.rateLimit (gateway.rateWindow : Rat) now (state.requests key) with
      | (false, kept) =>
        let pruned := { state with requests := Function.update state.requests key kept }
        let (after, out) := gateway.conclude pruned id caller tool fingerprint .denied elapsed 0
          (.error (.gateway .rateLimited))
        (after, .rateRefused id caller.subject tool now :: out)
      | (true, kept) =>
        let metered := { state with requests := Function.update state.requests key kept }
        match registration.inputModel arguments with
        | none =>
          let (after, out) := gateway.conclude metered id caller tool fingerprint .invalid elapsed 0
            (.error (.gateway .badArguments))
          (after, .admitted id caller.subject tool now :: out)
        | some input =>
          ({ metered with pending := ⟨id, registration, input, caller, fingerprint, 1, .error⟩ ::
              metered.pending },
            [.admitted id caller.subject tool now, .handlerStarted id tool input caller])

/-- `invoke` up to its first await; the fingerprint is taken outside the `try` block. -/
def begin (state : InvocationState Arguments Input Raw Output) (now elapsed : Rat) (tool : String)
    (arguments : Arguments) (caller : CallerContext) :
    InvocationState Arguments Input Raw Output × List (Observation Arguments Input Raw Output) :=
  let id := state.next
  let started := { state with now := now, next := state.next + 1 }
  match gateway.fingerprint arguments with
  | none => (started, [.invoked id tool arguments caller, .raised id .unserialisable])
  | some fingerprint =>
    let (after, out) := gateway.admitCall started id now elapsed tool arguments caller fingerprint
    (after, .invoked id tool arguments caller :: out)

/-- `invoke` from the end of a handler; `call` has been taken off the calls in flight. -/
def resume (state : InvocationState Arguments Input Raw Output)
    (call : PendingInvocation Arguments Input Raw Output) (elapsed : Rat) (ended : HandlerOutcome Raw) :
    InvocationState Arguments Input Raw Output × List (Observation Arguments Input Raw Output) :=
  let conclude (outcome : AuditOutcome) (result : Except InvocationError Output) :=
    gateway.conclude state call.id call.caller call.registration.name call.fingerprint outcome elapsed
      call.attempts result
  let again (outcome : AuditOutcome) :=
    ({ state with pending := { call with attempts := call.attempts + 1, outcome := outcome } ::
        state.pending },
      [Observation.handlerStarted call.id call.registration.name call.input call.caller])
  match ended with
  | .returned raw =>
    match call.registration.outputModel raw with
    | some output => conclude .success (.ok output)
    | none => conclude .error (.error (.gateway .noValidResult))
  | .timedOut =>
    if call.attempts < gateway.maxAttempts then again .timeout
    else conclude .timeout (.error (.gateway .timedOut))
  | .lookupOrValidation => conclude .error (.error (.gateway .noValidResult))
  | .failed =>
    if call.attempts = gateway.maxAttempts then conclude .error (.error (.gateway .executionFailed))
    else again .error
  | .interrupted => conclude call.outcome (.error .interrupted)

def settle (state : InvocationState Arguments Input Raw Output)
    (call : PendingInvocation Arguments Input Raw Output) (elapsed : Rat) (ended : HandlerOutcome Raw) :
    InvocationState Arguments Input Raw Output × List (Observation Arguments Input Raw Output) :=
  let others := { state with pending := state.pending.filter fun other => other.id ≠ call.id }
  let (after, out) := gateway.resume others call elapsed ended
  (after, .handlerEnded call.id ended :: out)

end GovernedMCPGateway

/-- A caller invokes a tool, or the handler that a call awaits ends. -/
inductive InvocationEvent (Arguments Raw : Type) where
  | invoke (now elapsed : Rat) (tool : String) (arguments : Arguments) (caller : CallerContext)
  | handlerEnds (id : Nat) (elapsed : Rat) (ended : HandlerOutcome Raw)

/-- Any interleaving of calls at their awaits, under a clock that does not go back. -/
def GovernedMCPGateway.machine {Arguments Input Raw Output : Type}
    (gateway : GovernedMCPGateway Arguments Input Raw Output) (start : Rat) :
    Machine (InvocationState Arguments Input Raw Output) (InvocationEvent Arguments Raw)
      (Observation Arguments Input Raw Output) where
  init := ⟨start, fun _ => [], [], [], 0⟩
  step state
    | .invoke now elapsed tool arguments caller =>
      if now < state.now then none else some (gateway.begin state now elapsed tool arguments caller)
    | .handlerEnds id elapsed ended =>
      (state.pending.find? fun call => call.id = id).map fun call => gateway.settle state call elapsed ended

end AgentPlatform.McpBoundary
