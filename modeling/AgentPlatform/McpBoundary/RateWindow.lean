import AgentPlatform.Base.ExactLimit
import AgentPlatform.Gateway.RateLimiter
import AgentPlatform.McpBoundary.Gateway

/-! # The window of both limiters

The HTTP limiter counts by caller, the tool gateway by caller and tool; both admit at most their limit in
every window of their length, and refuse nothing below it. -/

namespace AgentPlatform

open RateLimit

namespace McpBoundary

variable {Arguments Input Raw Output : Type}

/-- The tool gateway's limiter over its table. -/
def GovernedMCPGateway.checkRateLimit (gateway : GovernedMCPGateway Arguments Input Raw Output)
    (requests : String → List Rat) (now : Rat) (subject tool : String) :
    Except MCPGatewayError Unit × (String → List Rat) :=
  let key := rateKey subject tool
  match check gateway.rateLimit (gateway.rateWindow : Rat) now (requests key) with
  | (false, kept) => (.error .rateLimited, Function.update requests key kept)
  | (true, kept) => (.ok (), Function.update requests key kept)

theorem GovernedMCPGateway.admitCall_checkRateLimit (gateway : GovernedMCPGateway Arguments Input Raw Output)
    (state : InvocationState Arguments Input Raw Output) (id : Nat) (now elapsed : Rat) (tool : String)
    (arguments : Arguments) (caller : CallerContext) (fingerprint : String)
    {registration : ToolRegistration Arguments Input Raw Output} (found : gateway.lookup tool = some registration)
    (agent : caller.agent.name ∈ registration.allowedAgents) (roles : registration.requiredRoles ⊆ caller.roles) :
    ((gateway.checkRateLimit state.requests now caller.subject tool).1 = .error .rateLimited ∧
      gateway.admitCall state id now elapsed tool arguments caller fingerprint =
        let limited := { state with
          requests := (gateway.checkRateLimit state.requests now caller.subject tool).2 }
        let (after, out) := gateway.conclude limited id caller tool fingerprint .denied elapsed 0
          (.error (.gateway .rateLimited))
        (after, .rateRefused id caller.subject tool now :: out)) ∨
    ((gateway.checkRateLimit state.requests now caller.subject tool).1 = .ok () ∧
      (gateway.admitCall state id now elapsed tool arguments caller fingerprint).1.requests =
        (gateway.checkRateLimit state.requests now caller.subject tool).2 ∧
      .admitted id caller.subject tool now ∈
        (gateway.admitCall state id now elapsed tool arguments caller fingerprint).2) := by
  have agentAllowed : ¬ caller.agent.name ∉ registration.allowedAgents := not_not.mpr agent
  have rolesHeld : ¬ ¬ registration.requiredRoles ⊆ caller.roles := not_not.mpr roles
  rcases checked : check gateway.rateLimit (gateway.rateWindow : Rat) now
    (state.requests (rateKey caller.subject tool)) with ⟨verdict, kept⟩
  cases verdict with
  | false =>
    left
    simp only [checkRateLimit, checked, admitCall, found, if_neg agentAllowed, if_neg rolesHeld]
    exact ⟨trivial, trivial⟩
  | true =>
    right
    simp only [checkRateLimit, checked, admitCall, found, if_neg agentAllowed, if_neg rolesHeld]
    cases registration.inputModel arguments with
    | none => exact ⟨trivial, rfl, List.mem_cons_self⟩
    | some input => exact ⟨trivial, rfl, List.mem_cons_self⟩

/-- The limiter as its callers, a subject and a tool, see it. -/
def GovernedMCPGateway.limiter (gateway : GovernedMCPGateway Arguments Input Raw Output) :
    Limiter String (String × String) Rat MCPGatewayError :=
  fun requests now caller => gateway.checkRateLimit requests now caller.1 caller.2

def limiterKey (caller : String × String) : String := rateKey caller.1 caller.2

theorem GovernedMCPGateway.implements (gateway : GovernedMCPGateway Arguments Input Raw Output) :
    Implements gateway.rateLimit (gateway.rateWindow : Rat) limiterKey gateway.limiter := by
  constructor
  all_goals
    intro requests now caller
    rcases checked : check gateway.rateLimit (gateway.rateWindow : Rat) now
      (requests (limiterKey caller)) with ⟨verdict, kept⟩
    rw [limiterKey] at checked
    cases verdict <;> simp only [limiter, checkRateLimit, checked, limiterKey] <;> rfl

end McpBoundary

theorem Gateway.InMemoryRateLimiter.implements (limiter : Gateway.InMemoryRateLimiter) :
    Implements limiter.limit (limiter.window : Rat) id limiter.check :=
  ⟨fun requests now key => (limiter.check_eq requests now key).1,
    fun requests now key => (limiter.check_eq requests now key).2⟩

/-- Both limiters refuse a call exactly when the window that ends with it is full. -/
theorem exact_windows :
    (∀ (limiter : Gateway.InMemoryRateLimiter) (calls : List (Call String Rat)), Clocked calls →
      ExactWindow limiter.limit (limiter.window : Rat) id limiter.check calls) ∧
    ∀ (Arguments Input Raw Output : Type)
      (gateway : McpBoundary.GovernedMCPGateway Arguments Input Raw Output)
      (calls : List (Call (String × String) Rat)), Clocked calls →
      ExactWindow gateway.rateLimit (gateway.rateWindow : Rat) McpBoundary.limiterKey gateway.limiter calls :=
  ⟨fun limiter _ clocked => limiter.implements.exactWindow clocked,
    fun _ _ _ _ gateway _ clocked => gateway.implements.exactWindow clocked⟩

theorem one_le_minute : (1 : Int) ≤ 60 := by decide

def minuteLimiter : Gateway.InMemoryRateLimiter where
  limit := 1
  window := 60
  limitPositive := Nat.one_pos
  windowPositive := one_le_minute

theorem exact_windows_minute :
    ExactWindow 1 ((60 : Int) : Rat) id minuteLimiter.check
      [⟨0, "alice"⟩, ⟨30, "alice"⟩, ⟨30, "bob"⟩, ⟨60, "alice"⟩] := by
  apply exact_windows.1 minuteLimiter
  simp only [Clocked]
  decide

end AgentPlatform
