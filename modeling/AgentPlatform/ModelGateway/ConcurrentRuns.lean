import AgentPlatform.Base.Allowance
import AgentPlatform.Base.Unwinding
import AgentPlatform.ModelGateway.BudgetIsolation
import AgentPlatform.ModelGateway.Concurrent

/-! # Runs of concurrent generations

Any number of calls of one gateway, a step of one call at a time, in any order and with any answers of
everything that is not the budget. -/

namespace AgentPlatform.ModelGateway.Concurrent

open Interleaving Safety SlidingWindow

/-- What the environment would answer a command with, and the clock it would show. -/
structure Reaction where
  scanned : Except GatewayException PiiScanResult
  checked : Except GatewayException (List ContentSafetyFinding)
  answered : Except GatewayException ModelGenerationResult
  now : Rat

/-- The monotonic clock, which reservations read, never goes back. -/
def reserve (policy : TenantBudgetPolicy) (state : BudgetState) (now : Rat) (tenant : String) (cost : Rat) :
    Option (BudgetState × Except GatewayException Unit × List GatewayAction) :=
  if now < state.now then none
  else
    match policy.checkAndReserve state.spend now tenant cost with
    | (.ok (), spend) => some (⟨now, spend⟩, .ok (), [.reserved now tenant cost (.ok ())])
    | (.error error, spend) => some (⟨now, spend⟩, .error (.budgetExceeded error), [.reserved now tenant cost (.error error)])

def execute (policy : TenantBudgetPolicy) (state : BudgetState) (reaction : Reaction) :
    (c : Command) → Option (BudgetState × Reply c × List GatewayAction)
  | .scan text => some (state, reaction.scanned, [.scanned text reaction.scanned])
  | .check text => some (state, reaction.checked, [.checked text reaction.checked])
  | .reserve tenant cost => reserve policy state reaction.now tenant cost
  | .call request => some (state, reaction.answered, [.called request reaction.answered])
  | .readPerfCounter => some (state, reaction.now, [])
  | .record telemetry => some (state, (), [telemetry.action])

def backend (policy : TenantBudgetPolicy) (start : Rat) :
    Backend BudgetState Command Reaction GatewayAction Reply where
  init := ⟨start, fun _ => []⟩
  exec _ := execute policy

abbrev CallObservation : Type :=
  Observation ModelGenerationRequest GatewayAction (Except GatewayException ModelGenerationResult)

def calls {σ : Type} (gateway : ModelGateway σ) (start : Rat) :
    Machine (Interleaving.State BudgetState Command Reply (Except GatewayException ModelGenerationResult))
      (Event ModelGenerationRequest Reaction) CallObservation :=
  machine (backend gateway.budget start) (generate gateway)

/-- A reservation is granted or refused as the policy says, and nothing else changes. -/
theorem reserve_some {policy : TenantBudgetPolicy} {state after : BudgetState} {now cost : Rat} {tenant : String}
    {reply : Except GatewayException Unit} {out : List GatewayAction}
    (ran : reserve policy state now tenant cost = some (after, reply, out)) :
    state.now ≤ now ∧ after = ⟨now, (policy.checkAndReserve state.spend now tenant cost).2⟩ ∧
      (((policy.checkAndReserve state.spend now tenant cost).1 = .ok () ∧ reply = .ok () ∧
        out = [.reserved now tenant cost (.ok ())]) ∨
      ∃ error, (policy.checkAndReserve state.spend now tenant cost).1 = .error error ∧
        reply = .error (.budgetExceeded error) ∧ out = [.reserved now tenant cost (.error error)]) := by
  unfold reserve at ran
  obtain ⟨onward, ran⟩ := Option.ite_none_left_eq_some.mp ran
  refine ⟨not_lt.mp onward, ?_⟩
  generalize policy.checkAndReserve state.spend now tenant cost = attempted at ran ⊢
  obtain ⟨result, spend⟩ := attempted
  cases result with
  | ok granted =>
    cases ran
    exact ⟨rfl, .inl ⟨rfl, rfl, rfl⟩⟩
  | error error =>
    cases ran
    exact ⟨rfl, .inr ⟨error, rfl, rfl, rfl⟩⟩

/-! ## What the program of a call asks for -/

/-- How often a command asks the provider. -/
def Command.calls : Command → Nat
  | .call _ => 1
  | _ => 0

/-- A command of the guards and of the telemetry. -/
def Command.Guards : Command → Prop
  | .reserve .. | .call _ => False
  | _ => True

/-- No more than guarding, and sending a request of one kind. -/
def Command.Sends (Kind : ModelGenerationRequest → Prop) : Command → Prop
  | .reserve .. => False
  | .call sent => Kind sent
  | _ => True

theorem Command.Guards.sends {Kind : ModelGenerationRequest → Prop} {c : Command} (guards : c.Guards) : c.Sends Kind := by
  cases c with
  | call sent => exact absurd guards not_false
  | _ => exact guards

/-- The provider is not asked. -/
def Quiet {α : Type} (Post : α → Prop) (point : Generation α) : Prop :=
  Within Command.calls Command.Guards (OnValue Post) 0 point

/-- The provider is asked at most so often, and only with requests of one kind. -/
def Bounded {α : Type} (Kind : ModelGenerationRequest → Prop) (allowance : Nat) (point : Generation α) : Prop :=
  Within Command.calls (Command.Sends Kind) (fun _ => True) allowance point

theorem Quiet.bounded {α : Type} {Post : α → Prop} {Kind : ModelGenerationRequest → Prop} {point : Generation α}
    (quiet : Quiet Post point) : Bounded Kind 0 point :=
  quiet.weaken (fun _ guards => guards.sends) fun _ _ => trivial

theorem Quiet.andThen {α β : Type} {Post : α → Prop} {Last : β → Prop} {first : Generation α} {rest : α → Generation β}
    (quiet : Quiet Post first) (onward : ∀ value, Post value → Quiet Last (rest value)) : Quiet Last (first.andThen rest) :=
  Within.andThen quiet onward

theorem quiet_record {α : Type} {Post : α → Prop} {telemetry : Telemetry} {next : Unit → Generation α}
    (onward : Quiet Post (next ())) : Quiet Post (.command (.record telemetry) next) :=
  .free trivial rfl fun _ => onward

theorem quiet_recordMasked (scan : PiiScanResult) : Quiet (fun _ => True) (recordMasked scan) := by
  unfold recordMasked
  split
  · exact quiet_record trivial
  · trivial

theorem quiet_scanAndRecord (text : String) : Quiet (fun _ => True) (scanAndRecord text) := by
  refine .free trivial rfl fun reply => ?_
  cases reply with
  | ok scan => exact (quiet_recordMasked scan).andThen fun _ _ => trivial
  | error error =>
    cases error with
    | piiBlocked => exact quiet_record trivial
    | _ => trivial

theorem quiet_sanitizeMessages (messages : List ChatMessage) : Quiet (fun _ => True) (sanitizeMessages messages) := by
  induction messages with
  | nil => trivial
  | cons message messages ih =>
    apply (quiet_scanAndRecord message.content).andThen
    intro content _
    exact ih.andThen fun _ _ => trivial

theorem quiet_checkTexts (policy : ContentSafetyPolicy) (texts : List String) : Quiet (fun _ => True) (checkTexts policy texts) := by
  induction texts with
  | nil => trivial
  | cons text texts ih =>
    unfold checkTexts
    split
    · exact ih
    · refine .free trivial rfl fun reply => ?_
      cases reply with
      | ok findings =>
        dsimp only
        split
        · exact quiet_record trivial
        · exact ih
      | error error =>
        cases error with
        | interrupted => trivial
        | _ => exact quiet_record trivial

section

variable {σ : Type} (gateway : ModelGateway σ)

/-- A request that differs from another in its messages at most. -/
def Forwards (request sent : ModelGenerationRequest) : Prop := sent = { request with messages := sent.messages }

theorem quiet_checkAllowlist (model : String) :
    Quiet (fun _ => model ∈ gateway.allowlist.allowed) (checkAllowlist gateway model) := by
  unfold checkAllowlist ModelAllowlist.check
  by_cases allowed : model ∈ gateway.allowlist.allowed
  · rw [if_pos allowed]
    exact allowed
  · rw [if_neg allowed]
    trivial

theorem quiet_applyPiiGuardToRequest (request : ModelGenerationRequest) :
    Quiet (Forwards request) (applyPiiGuardToRequest gateway request) := by
  unfold applyPiiGuardToRequest
  split
  · exact (quiet_sanitizeMessages request.messages).andThen fun _ _ => rfl
  · exact rfl

theorem quiet_applyPiiGuardToText (text : String) : Quiet (fun _ => True) (applyPiiGuardToText gateway text) := by
  unfold applyPiiGuardToText
  split
  · exact quiet_scanAndRecord text
  · trivial

theorem quiet_applyContentSafetyGuard (texts : List String) :
    Quiet (fun _ => True) (applyContentSafetyGuard gateway texts) := by
  unfold applyContentSafetyGuard
  split
  · exact quiet_checkTexts _ texts
  · trivial

theorem bounded_attempt (sanitized : ModelGenerationRequest) : Bounded (· = sanitized) 1 (attempt gateway sanitized) := by
  refine ⟨rfl, Nat.le_refl 1, fun reply => ?_⟩
  cases reply with
  | error error => trivial
  | ok raw =>
    have guarded : Quiet (fun _ => True) ((applyPiiGuardToText gateway raw.content).andThen fun content =>
        (applyContentSafetyGuard gateway [content]).andThen fun _ => .done (.ok { raw with
          content := content
          estimatedCostGbp := gateway.pricing.estimateCostGbp raw.model raw.usage })) := by
      apply (quiet_applyPiiGuardToText gateway raw.content).andThen
      intro content _
      exact (quiet_applyContentSafetyGuard gateway [content]).andThen fun _ _ => trivial
    exact guarded.bounded

theorem bounded_attempts (sanitized : ModelGenerationRequest) (left : Nat) (outcome : CallOutcome) :
    Bounded (· = sanitized) left (attempts gateway sanitized left outcome) := by
  induction left generalizing outcome with
  | zero => trivial
  | succ left ih =>
    unfold attempts
    rw [Nat.add_comm left 1]
    apply (bounded_attempt gateway sanitized).bind
    intro answer _
    cases answer with
    | ok result => trivial
    | error error =>
      cases error with
      | timeout => exact ih _
      | providerFailure message =>
        dsimp only
        split
        · trivial
        · exact ih _
      | _ => trivial

theorem bounded_finish {Kind : ModelGenerationRequest → Prop} (request sanitized : ModelGenerationRequest) (started : Rat)
    (ended : Except GatewayException ModelGenerationResult × CallOutcome) :
    Bounded Kind 0 (finish gateway request sanitized started ended) := by
  obtain ⟨result, outcome⟩ := ended
  have failing (result : Except GatewayException ModelGenerationResult) (outcome : CallOutcome) : Bounded Kind 0
      (.command .readPerfCounter fun (now : Rat) =>
        .command (.record (.failure request.tenant request.model gateway.providerName outcome (now - started))) fun _ =>
          .done result) :=
    .free trivial rfl fun now => .free trivial rfl fun _ => trivial
  cases result with
  | error error => exact failing (.error error) outcome
  | ok result =>
    cases outcome with
    | success => exact .free trivial rfl fun _ => trivial
    | _ => exact failing (.ok result) _

theorem bounded_complete (request sanitized : ModelGenerationRequest) :
    Bounded (· = sanitized) gateway.maxAttempts (complete gateway request sanitized) := by
  refine .free trivial rfl fun started => ?_
  have finished : Bounded (· = sanitized) (gateway.maxAttempts + 0)
      ((attempts gateway sanitized gateway.maxAttempts .error).andThen (finish gateway request sanitized started)) := by
    apply (bounded_attempts gateway sanitized gateway.maxAttempts .error).bind
    intro answer _
    cases answer with
    | ok ended => exact bounded_finish gateway request sanitized started ended
    | error error => trivial
  exact finished

/-- Nothing is sent before the budget accepted the cost of sending it. -/
def Unfunded (request : ModelGenerationRequest) : Generation ModelGenerationResult → Prop
  | .done _ => True
  | .command (.reserve tenant cost) next =>
    ∃ sent, Forwards request sent ∧ request.model ∈ gateway.allowlist.allowed ∧ tenant = request.tenant ∧
      cost = gateway.preflightCost request.model sent ∧
      Bounded (· = sent) gateway.maxAttempts (next (.ok ())) ∧ ∀ error, next (.error error) = .done (.error error)
  | .command c next => c.Guards ∧ ∀ reply, Unfunded request (next reply)

variable {gateway}

theorem Unfunded.guarded {request : ModelGenerationRequest} {c : Command} {next : Reply c → Generation ModelGenerationResult}
    (guards : c.Guards) (onward : ∀ reply, Unfunded gateway request (next reply)) :
    Unfunded gateway request (.command c next) := by
  cases c with
  | reserve => exact absurd guards not_false
  | _ => exact ⟨guards, onward⟩

theorem Quiet.unfunded {α : Type} {Post : α → Prop} {request : ModelGenerationRequest} {first : Generation α}
    {rest : α → Generation ModelGenerationResult} (quiet : Quiet Post first)
    (onward : ∀ value, Post value → Unfunded gateway request (rest value)) : Unfunded gateway request (first.andThen rest) := by
  induction first with
  | done answer =>
    cases answer with
    | ok value => exact onward value quiet
    | error error => trivial
  | command c next ih =>
    obtain ⟨guards, afforded, continues⟩ := quiet
    have weightless : Command.calls c = 0 := Nat.le_zero.mp afforded
    rw [weightless] at continues
    exact .guarded guards fun reply => ih reply (continues reply)

variable (gateway)

theorem unfunded_generate (request : ModelGenerationRequest) : Unfunded gateway request (generate gateway request) := by
  unfold generate preflight
  simp only [Program.andThen_assoc]
  apply (quiet_checkAllowlist gateway request.model).unfunded
  intro _ allowed
  apply (quiet_applyPiiGuardToRequest gateway request).unfunded
  intro sanitized forwards
  apply (quiet_applyContentSafetyGuard gateway _).unfunded
  intro _ _
  exact ⟨sanitized, forwards, allowed, rfl, rfl, bounded_complete gateway request sanitized, fun _ => rfl⟩

end

/-! ## Tenants apart -/

/-- A command that reserves for no other tenant. -/
def Command.ReservesFor (tenant : String) : Command → Prop
  | .reserve other _ => other = tenant
  | _ => True

theorem Bounded.issues {α : Type} {Kind : ModelGenerationRequest → Prop} {allowance : Nat} {point : Generation α}
    (bounded : Bounded Kind allowance point) (tenant : String) : Issues (Command.ReservesFor tenant) point := by
  induction point generalizing allowance with
  | done answer => trivial
  | command c next ih =>
    obtain ⟨sends, -, onward⟩ := bounded
    refine ⟨?_, fun reply => ih reply (onward reply)⟩
    cases c with
    | reserve => exact absurd sends not_false
    | _ => trivial

theorem Unfunded.issues {σ : Type} {gateway : ModelGateway σ} {request : ModelGenerationRequest}
    {point : Generation ModelGenerationResult} (unfunded : Unfunded gateway request point) :
    Issues (Command.ReservesFor request.tenant) point := by
  induction point with
  | done answer => trivial
  | command c next ih =>
    cases c with
    | reserve tenant cost =>
      obtain ⟨sent, -, -, own, -, bounded, refused⟩ := unfunded
      refine ⟨own, fun reply => ?_⟩
      change Except GatewayException Unit at reply
      cases reply with
      | ok granted => exact bounded.issues request.tenant
      | error error =>
        rw [refused error]
        trivial
    | _ => exact ⟨trivial, fun reply => ih reply (unfunded.2 reply)⟩

/-- Two budgets that hold the same of a tenant. -/
def ledgerView (tenant : String) : View BudgetState GatewayAction where
  Alike full reduced := full.spend tenant = reduced.spend tenant ∧ reduced.now ≤ full.now
  Known _ := True
  Allowed _ _ := True

theorem checkAndReserve_own {policy : TenantBudgetPolicy} {spend spend' : Spend} {tenant : String}
    (same : spend tenant = spend' tenant) (now cost : Rat) :
    (policy.checkAndReserve spend now tenant cost).1 = (policy.checkAndReserve spend' now tenant cost).1 ∧
      (policy.checkAndReserve spend now tenant cost).2 tenant = (policy.checkAndReserve spend' now tenant cost).2 tenant := by
  have pruned : policy.prune spend now tenant = policy.prune spend' now tenant :=
    TenantBudgetPolicy.prune_eq_of_ledger same now
  unfold TenantBudgetPolicy.checkAndReserve
  cases policy.ceilingFor tenant with
  | none => exact ⟨rfl, same⟩
  | some ceiling =>
    dsimp only
    rw [pruned]
    split
    · refine ⟨rfl, ?_⟩
      dsimp only
      rw [Function.update_self, Function.update_self]
    · refine ⟨rfl, ?_⟩
      dsimp only
      rw [Function.update_self, Function.update_self]

theorem checkAndReserve_other {policy : TenantBudgetPolicy} {tenant other : String} (apart : other ≠ tenant) (spend : Spend)
    (now cost : Rat) : (policy.checkAndReserve spend now other cost).2 tenant = spend tenant := by
  rcases policy.checkAndReserve_cases spend now other cost with
    ⟨_, result⟩ | ⟨_, _, ⟨_, result⟩ | ⟨_, result⟩⟩ <;> rw [result]
  · exact Function.update_of_ne apart.symm _ _
  · exact Function.update_of_ne apart.symm _ _

section

variable {policy : TenantBudgetPolicy} {start : Rat} {tenant : String}

/-- Every command but a reservation is answered the same way in every state of the budget. -/
theorem execute_unshared {c : Command} (unshared : ∀ tenant cost, c ≠ .reserve tenant cost) {state after : BudgetState}
    {reaction : Reaction} {reply : Reply c} {out : List GatewayAction}
    (ran : execute policy state reaction c = some (after, reply, out)) :
    after = state ∧ ∀ other, execute policy other reaction c = some (other, reply, out) := by
  cases c with
  | reserve tenant cost => exact absurd rfl (unshared tenant cost)
  | _ =>
    cases ran
    exact ⟨rfl, fun _ => rfl⟩

theorem hidden_step {c : Command} {other : String} (apart : other ≠ tenant) (own : c.ReservesFor other)
    {full after reduced : BudgetState} {reaction : Reaction} {reply : Reply c} {out : List GatewayAction}
    (alike : (ledgerView tenant).Alike full reduced) (ran : execute policy full reaction c = some (after, reply, out)) :
    (ledgerView tenant).Alike after reduced := by
  obtain ⟨same, earlier⟩ := alike
  cases c with
  | reserve tenant' cost =>
    obtain ⟨onward, rfl, -⟩ := reserve_some ran
    have own : tenant' = other := own
    rw [own]
    exact ⟨(checkAndReserve_other apart full.spend reaction.now cost).trans same, earlier.trans onward⟩
  | _ =>
    obtain ⟨rfl, -⟩ := execute_unshared (by intro _ _ absurd; cases absurd) ran
    exact ⟨same, earlier⟩

theorem shown_step {c : Command} (own : c.ReservesFor tenant) {full after reduced : BudgetState} {reaction : Reaction}
    {reply : Reply c} {out : List GatewayAction} (alike : (ledgerView tenant).Alike full reduced)
    (ran : execute policy full reaction c = some (after, reply, out)) :
    ∃ after', execute policy reduced reaction c = some (after', reply, out) ∧ (ledgerView tenant).Alike after after' := by
  obtain ⟨same, earlier⟩ := alike
  cases c with
  | reserve tenant' cost =>
    have own : tenant' = tenant := own
    subst own
    obtain ⟨onward, rfl, answered⟩ := reserve_some ran
    have ready : ¬ reaction.now < reduced.now := not_lt.mpr (earlier.trans onward)
    obtain ⟨sameResult, sameLedger⟩ := @checkAndReserve_own policy full.spend reduced.spend tenant' same reaction.now cost
    refine ⟨⟨reaction.now, (policy.checkAndReserve reduced.spend reaction.now tenant' cost).2⟩, ?_, sameLedger, le_refl _⟩
    change reserve policy reduced reaction.now tenant' cost = _
    rw [sameResult] at answered
    unfold reserve
    rw [if_neg ready]
    generalize policy.checkAndReserve reduced.spend reaction.now tenant' cost = attempted at answered
    obtain ⟨result, spend⟩ := attempted
    rcases answered with ⟨rfl, rfl, rfl⟩ | ⟨error, rfl, rfl, rfl⟩
    · rfl
    · rfl
  | _ =>
    obtain ⟨rfl, others⟩ := execute_unshared (by intro _ _ absurd; cases absurd) ran
    exact ⟨reduced, others reduced, same, earlier⟩

theorem shown_of_issues {α : Type} {point : Program Command Reply α} {id : Nat}
    (issues : Issues (Command.ReservesFor tenant) point) : Shown (ledgerView tenant) (backend policy start) id point := by
  apply issues.shown
  intro c reserves full reduced reaction after reply out _ _ _ alike stepped _
  obtain ⟨after', stepped', alike'⟩ := shown_step reserves alike stepped
  exact ⟨after', out, stepped', fun _ _ => trivial, fun _ => alike'⟩

theorem hidden_of_issues {α : Type} {point : Program Command Reply α} {id : Nat} {other : String} (apart : other ≠ tenant)
    (issues : Issues (Command.ReservesFor other) point) : Hidden (ledgerView tenant) (backend policy start) id point := by
  apply issues.hidden
  intro c reserves full reduced reaction after reply out _ _ _ alike stepped _
  exact hidden_step apart reserves alike stepped

end

/-- Whether a call is one of the tenant. -/
def isOf (tenant : String) (request : ModelGenerationRequest) : Bool := request.tenant = tenant

/-- The events of the calls of a tenant. -/
def eventsOf (tenant : String) (events : List (Event ModelGenerationRequest Reaction)) :
    List (Event ModelGenerationRequest Reaction) :=
  restrict (keptCalls (isOf tenant) events) events

/-- What the calls of a tenant return. -/
def answersOf (tenant : String) (events : List (Event ModelGenerationRequest Reaction)) (log : List CallObservation) :
    List (Nat × Except GatewayException ModelGenerationResult) :=
  answers (keptCalls (isOf tenant) events) log

section

variable {σ : Type} (gateway : ModelGateway σ) (start : Rat) (tenant : String)

theorem run_alone {events : List (Event ModelGenerationRequest Reaction)}
    {final : Interleaving.State BudgetState Command Reply (Except GatewayException ModelGenerationResult)}
    {log : List CallObservation} (ran : (calls gateway start).run events = some (final, log)) :
    ∃ final' log', (calls gateway start).run (eventsOf tenant events) = some (final', log') ∧
      answersOf tenant events log = answersOf tenant events log' := by
  apply run_keptCalls (ledgerView tenant) ⟨rfl, le_refl _⟩ (fun _ _ _ _ _ => trivial) ?_ ?_ ran (fun _ _ _ => trivial)
  · intro id request _ keep
    have own : request.tenant = tenant := of_decide_eq_true keep
    have issues := (unfunded_generate gateway request).issues
    rw [own] at issues
    exact shown_of_issues issues
  · intro id request _ drop
    have apart : request.tenant ≠ tenant := of_decide_eq_false drop
    exact hidden_of_issues apart (unfunded_generate gateway request).issues

/-- What the calls of a tenant return depends on their own steps alone: it is what they return without the calls of
    the other tenants, and the same in every run that has the same steps of the tenant. -/
theorem calls_noninterference (events : List (Event ModelGenerationRequest Reaction))
    (final : Interleaving.State BudgetState Command Reply (Except GatewayException ModelGenerationResult))
    (log : List CallObservation) (ran : (calls gateway start).run events = some (final, log)) :
    (∃ alone own, (calls gateway start).run (eventsOf tenant events) = some (alone, own) ∧
      answersOf tenant events log = answersOf tenant events own) ∧
    ∀ events' final' log', (calls gateway start).run events' = some (final', log') →
      eventsOf tenant events' = eventsOf tenant events → answersOf tenant events' log' = answersOf tenant events log := by
  have alone := run_alone gateway start tenant ran
  refine ⟨alone, fun events' final' log' ran' same => ?_⟩
  obtain ⟨_, own, ranOwn, answered⟩ := alone
  obtain ⟨_, own', ranOwn', answered'⟩ := run_alone gateway start tenant ran'
  have kept : keptCalls (isOf tenant) events' = keptCalls (isOf tenant) events := by
    rw [← keptCalls_restrict (isOf tenant) events', ← keptCalls_restrict (isOf tenant) events]
    exact congrArg _ same
  rw [same, ranOwn] at ranOwn'
  cases ranOwn'
  rw [answered, answered', answersOf, answersOf, kept]

end

/-- A gateway with a budget for one tenant. -/
def deskGateway : ModelGateway Unit where
  provider _ env := (.error .timeout, env)
  providerName := "desk"
  allowlist := ⟨{"desk-model"}, Finset.singleton_nonempty _⟩
  budget := singleTenantPolicy
  pricing := ⟨[("desk-model", ⟨1, 0⟩)]⟩
  maxAttempts := 2
  attempts_positive := Nat.two_pos
  piiDetector := none
  piiPolicy := none
  contentSafetyProvider := none
  contentSafetyPolicy := none
  monotonic _ := 0
  perfCounter _ := 0

def deskRequest (tenant : String) : ModelGenerationRequest :=
  ⟨"desk-model", [⟨.user, "Where is the refund?"⟩], tenant, "desk", 512, 0⟩

def deskResult : ModelGenerationResult := ⟨"On its way.", "desk-model", "desk", ⟨8, 3⟩, 0, 1, "stop"⟩

def reaction (answered : Except GatewayException ModelGenerationResult) (now : Rat) : Reaction :=
  ⟨.error .timeout, .error .timeout, answered, now⟩

/-- The call of a tenant without a budget between the steps of one that is retried. -/
def deskEvents : List (Event ModelGenerationRequest Reaction) :=
  [.invoke 0 (deskRequest "payment-disputes"), .invoke 1 (deskRequest "complaints"),
    .advance 0 (reaction (.error .timeout) 1), .advance 1 (reaction (.error .timeout) 2),
    .advance 0 (reaction (.error .timeout) 2), .advance 0 (reaction (.error .timeout) 2),
    .advance 1 (reaction (.error .timeout) 3), .advance 0 (reaction (.ok deskResult) 3),
    .advance 0 (reaction (.error .timeout) 4), .advance 0 (reaction (.error .timeout) 4)]

theorem deskEvents_run : (calls deskGateway 0).run deskEvents = some
    (((calls deskGateway 0).run deskEvents).get (by decide +kernel)) := by
  rw [Option.some_get]

theorem calls_noninterference_desk : ∃ final log, (calls deskGateway 0).run deskEvents = some (final, log) ∧
    (∃ alone own, (calls deskGateway 0).run (eventsOf "payment-disputes" deskEvents) = some (alone, own) ∧
      answersOf "payment-disputes" deskEvents log = answersOf "payment-disputes" deskEvents own) ∧
    answersOf "payment-disputes" deskEvents log = [(0, .ok { deskResult with estimatedCostGbp := 8 / 1000 })] :=
  ⟨_, _, deskEvents_run, (calls_noninterference deskGateway 0 "payment-disputes" deskEvents _ _ deskEvents_run).1,
    by decide +kernel⟩

end AgentPlatform.ModelGateway.Concurrent
