import AgentPlatform.ModelGateway.ConcurrentRuns

/-! # Mediation of concurrent generations

Every provider call of every interleaving is one of a bounded number that an accepted reservation pays for,
and the reservations of all calls together hold the ceilings. -/

namespace AgentPlatform.ModelGateway.Concurrent

open Interleaving Safety SlidingWindow

def budgetRecord : CallObservation → Option BudgetRecord
  | .did _ (.reserved now tenant cost (.ok ())) => some (.accepted tenant ⟨now, cost⟩)
  | .did _ (.reserved now tenant cost (.error _)) => some (.refused tenant ⟨now, cost⟩)
  | _ => none

/-- The reservations of a run, in the order in which they were made. -/
def reservations (log : List CallObservation) : List BudgetRecord := log.filterMap budgetRecord

def asksProvider (id : Nat) : CallObservation → Bool
  | .did other (.called ..) => other = id
  | _ => false

def isGranted (id : Nat) : CallObservation → Bool
  | .did other (.reserved _ _ _ (.ok ())) => other = id
  | _ => false

section

variable {σ : Type} (gateway : ModelGateway σ)

/-- A request that goes out is one that the gateway admitted, and its cost was reserved before. -/
def Funded (before : List CallObservation) (observation : CallObservation) : Prop :=
  ∀ id sent result, observation = .did id (.called sent result) → ∃ request now, .invoked id request ∈ before ∧
    request.model ∈ gateway.allowlist.allowed ∧ Forwards request sent ∧
    .did id (.reserved now request.tenant (gateway.preflightCost request.model sent) (.ok ())) ∈ before

/-- What holds of the budget and of everything observed between the steps of a run. -/
structure Mediated (state : BudgetState) (log : List CallObservation) : Prop where
  accounted : gateway.budget.Accounted state (reservations log)
  funded : Throughout (Funded gateway) log
  asked : ∀ id, log.countP (asksProvider id) ≤ gateway.maxAttempts * log.countP (isGranted id)
  granted : ∀ id, log.countP (isGranted id) ≤ 1

def discipline : Discipline BudgetState ModelGenerationRequest GatewayAction
    (Except GatewayException ModelGenerationResult) where
  Invariant := Mediated gateway
  Guarantee _ _ _ := True
  Allowed _ := True
  quiet _ _ := trivial

/-- A call that has reserved nothing and asked nothing. -/
structure Waiting (id : Nat) (request : ModelGenerationRequest) (log : List CallObservation) : Prop where
  invoked : .invoked id request ∈ log
  asked : log.countP (asksProvider id) = 0
  granted : log.countP (isGranted id) = 0

/-- A call that may ask the provider so often for what it has reserved. -/
structure Paid (id : Nat) (request sent : ModelGenerationRequest) (allowance : Nat) (log : List CallObservation) : Prop where
  invoked : .invoked id request ∈ log
  allowed : request.model ∈ gateway.allowlist.allowed
  forwards : Forwards request sent
  reserved : ∃ now, .did id (.reserved now request.tenant (gateway.preflightCost request.model sent) (.ok ())) ∈ log
  granted : log.countP (isGranted id) = 1
  asked : log.countP (asksProvider id) + allowance ≤ gateway.maxAttempts

/-- What a reservation that was answered leaves a call with. -/
def Reserved (id : Nat) (request sent : ModelGenerationRequest) :
    Except GatewayException Unit → BudgetState → List CallObservation → Prop
  | .ok () => fun _ => Paid gateway id request sent gateway.maxAttempts
  | .error _ => fun _ _ => True

variable {gateway}

theorem countP_foreign {id : Nat} {out : List CallObservation} (foreign : ∀ observation ∈ out, observation.id ≠ id) :
    out.countP (asksProvider id) = 0 ∧ out.countP (isGranted id) = 0 := by
  constructor
  · rw [List.countP_eq_zero]
    intro observation member asks
    apply foreign observation member
    unfold asksProvider at asks
    split at asks
    · exact of_decide_eq_true asks
    · cases asks
  · rw [List.countP_eq_zero]
    intro observation member granted
    apply foreign observation member
    unfold isGranted at granted
    split at granted
    · exact of_decide_eq_true granted
    · cases granted

theorem stable_own {id : Nat} {assertion : List CallObservation → Prop}
    (kept : ∀ log out, out.countP (asksProvider id) = 0 → out.countP (isGranted id) = 0 → assertion log →
      assertion (log ++ out)) : Stable (discipline gateway) id fun _ => assertion := by
  intro other _ log _ out apart _ _ own holds
  have foreign (observation : CallObservation) (member : observation ∈ out) : observation.id ≠ id :=
    fun same => apart ((own observation member).symm.trans same)
  obtain ⟨unasked, ungranted⟩ := countP_foreign foreign
  exact kept log out unasked ungranted holds

theorem Waiting.append {id : Nat} {request : ModelGenerationRequest} {log out : List CallObservation}
    (waiting : Waiting id request log) (unasked : out.countP (asksProvider id) = 0)
    (ungranted : out.countP (isGranted id) = 0) : Waiting id request (log ++ out) where
  invoked := List.mem_append_left _ waiting.invoked
  asked := by rw [List.countP_append, waiting.asked, unasked]
  granted := by rw [List.countP_append, waiting.granted, ungranted]

theorem Paid.append {id asked allowance : Nat} {request sent : ModelGenerationRequest} {log out : List CallObservation}
    (paid : Paid gateway id request sent allowance log) (counted : out.countP (asksProvider id) = asked)
    (afforded : asked ≤ allowance) (ungranted : out.countP (isGranted id) = 0) :
    Paid gateway id request sent (allowance - asked) (log ++ out) where
  invoked := List.mem_append_left _ paid.invoked
  allowed := paid.allowed
  forwards := paid.forwards
  reserved := paid.reserved.imp fun _ member => List.mem_append_left _ member
  granted := by rw [List.countP_append, paid.granted, ungranted]
  asked := by
    have before := paid.asked
    rw [List.countP_append, counted]
    omega

/-- What is observed of a step that reserves nothing. -/
structure Silent (id : Nat) (Kind : ModelGenerationRequest → Prop) (asked : Nat) (out : List CallObservation) : Prop where
  unreserved : reservations out = []
  ungranted : ∀ other, out.countP (isGranted other) = 0
  asked : out.countP (asksProvider id) = asked
  others : ∀ other, other ≠ id → out.countP (asksProvider other) = 0
  kind : ∀ other sent result, .did other (.called sent result) ∈ out → other = id ∧ Kind sent

theorem silent_of_sends {policy : TenantBudgetPolicy} {Kind : ModelGenerationRequest → Prop} {c : Command}
    (sends : c.Sends Kind) {state after : BudgetState} {reaction : Reaction} {reply : Reply c} {out : List GatewayAction}
    (ran : execute policy state reaction c = some (after, reply, out)) (id : Nat) :
    after = state ∧ Silent id Kind c.calls (out.map (.did id)) := by
  have plain (action : GatewayAction) (unreserved : ∀ now tenant cost result, action ≠ .reserved now tenant cost result)
      (uncalled : ∀ request result, action ≠ .called request result) :
      Silent id Kind 0 ([action].map (.did id)) := by
    cases action with
    | reserved now tenant cost result => exact absurd rfl (unreserved now tenant cost result)
    | called request result => exact absurd rfl (uncalled request result)
    | _ => exact ⟨rfl, fun _ => rfl, rfl, fun _ _ => rfl, by simp⟩
  cases c with
  | reserve => exact absurd sends not_false
  | call request =>
    cases ran
    refine ⟨rfl, rfl, fun _ => rfl, ?_, ?_, ?_⟩
    · simp [asksProvider, Command.calls]
    · intro other apart
      simp [asksProvider, apart.symm]
    · intro other sent result member
      cases List.mem_singleton.mp member
      exact ⟨rfl, sends⟩
  | scan text =>
    cases ran
    exact ⟨rfl, plain _ (by simp) (by simp)⟩
  | check text =>
    cases ran
    exact ⟨rfl, plain _ (by simp) (by simp)⟩
  | readPerfCounter =>
    cases ran
    exact ⟨rfl, rfl, fun _ => rfl, rfl, fun _ _ => rfl, by simp⟩
  | record telemetry =>
    cases ran
    refine ⟨rfl, plain _ ?_ ?_⟩
    · cases telemetry <;> simp [Telemetry.action]
    · cases telemetry <;> simp [Telemetry.action]

theorem reservations_append (first second : List CallObservation) :
    reservations (first ++ second) = reservations first ++ reservations second := List.filterMap_append

/-- A step that reserves nothing keeps the invariant, where its call may still ask so often. -/
theorem Mediated.silent {state : BudgetState} {log out : List CallObservation} {id asked : Nat}
    {Kind : ModelGenerationRequest → Prop} (mediated : Mediated gateway state log) (silent : Silent id Kind asked out)
    (afforded : log.countP (asksProvider id) + asked ≤ gateway.maxAttempts * log.countP (isGranted id))
    (funded : ∀ sent, Kind sent → ∃ request now, .invoked id request ∈ log ∧ request.model ∈ gateway.allowlist.allowed ∧
      Forwards request sent ∧
      .did id (.reserved now request.tenant (gateway.preflightCost request.model sent) (.ok ())) ∈ log) :
    Mediated gateway state (log ++ out) where
  accounted := by
    rw [reservations_append, silent.unreserved, List.append_nil]
    exact mediated.accounted
  funded := by
    apply mediated.funded.append_of_forall
    intro observation member more other sent result same
    rw [same] at member
    obtain ⟨rfl, kind⟩ := silent.kind other sent result member
    obtain ⟨request, now, invoked, allowed, forwards, reserved⟩ := funded sent kind
    exact ⟨request, now, List.mem_append_left _ invoked, allowed, forwards, List.mem_append_left _ reserved⟩
  asked other := by
    rw [List.countP_append, List.countP_append, silent.ungranted other, Nat.add_zero]
    by_cases own : other = id
    · rw [own, silent.asked]
      exact afforded
    · rw [silent.others other own, Nat.add_zero]
      exact mediated.asked other
  granted other := by
    rw [List.countP_append, silent.ungranted other, Nat.add_zero]
    exact mediated.granted other

theorem Mediated.responded {state : BudgetState} {log : List CallObservation} (mediated : Mediated gateway state log) (id : Nat)
    (answer : Except GatewayException ModelGenerationResult) : Mediated gateway state (log ++ [.responded id answer]) where
  accounted := by
    rw [reservations_append]
    change gateway.budget.Accounted state (reservations log ++ [])
    rw [List.append_nil]
    exact mediated.accounted
  funded := mediated.funded.snoc fun _ _ _ absurd => by cases absurd
  asked other := by
    rw [List.countP_append, List.countP_append]
    exact mediated.asked other
  granted other := by
    rw [List.countP_append]
    exact mediated.granted other

theorem Mediated.invoked {state : BudgetState} {log : List CallObservation} (mediated : Mediated gateway state log) (id : Nat)
    (request : ModelGenerationRequest) : Mediated gateway state (log ++ [.invoked id request]) where
  accounted := by
    rw [reservations_append]
    change gateway.budget.Accounted state (reservations log ++ [])
    rw [List.append_nil]
    exact mediated.accounted
  funded := mediated.funded.snoc fun _ _ _ absurd => by cases absurd
  asked other := by
    rw [List.countP_append, List.countP_append]
    exact mediated.asked other
  granted other := by
    rw [List.countP_append]
    exact mediated.granted other

/-- A reservation of a call that has made none. -/
theorem Mediated.reserve {state : BudgetState} {log : List CallObservation} {id : Nat} {now cost : Rat} {tenant : String}
    {spend : Spend} {result : Except ModelBudgetExceeded Unit} (mediated : Mediated gateway state log)
    (first : log.countP (isGranted id) = 0) (onward : state.now ≤ now) (nonneg : 0 ≤ cost)
    (attempted : gateway.budget.checkAndReserve state.spend now tenant cost = (result, spend)) :
    Mediated gateway ⟨now, spend⟩ (log ++ [.did id (.reserved now tenant cost result)]) := by
  have valid : BudgetCall.CostNonneg (.checkAndReserve tenant cost) := nonneg
  have accounted := mediated.accounted.call onward valid
  simp only [TenantBudgetPolicy.answer, attempted] at accounted
  have granted (other : Nat) : List.countP (isGranted other) (log ++ [.did id (.reserved now tenant cost result)]) ≤ 1 := by
    rw [List.countP_append]
    by_cases own : other = id
    · rw [own, first, Nat.zero_add]
      exact List.countP_le_length
    · have foreign : List.countP (isGranted other) [Observation.did id (.reserved now tenant cost result)] = 0 := by
        cases result <;> simp [isGranted, Ne.symm own]
      rw [foreign]
      exact mediated.granted other
  refine ⟨?_, ?_, fun other => ?_, granted⟩
  · rw [reservations_append]
    cases result with
    | ok value => exact accounted
    | error error => exact accounted
  · exact mediated.funded.snoc fun _ _ _ absurd => by cases absurd
  · rw [List.countP_append, List.countP_append]
    have asked := mediated.asked other
    have silent : List.countP (asksProvider other) [Observation.did id (.reserved now tenant cost result)] = 0 := rfl
    rw [silent, Nat.add_zero, Nat.mul_add]
    exact Nat.le_add_right_of_le asked

section

variable {start : Rat} {id : Nat} {request : ModelGenerationRequest}

/-- What a call does with its reservation. -/
theorem outline_bounded {sent : ModelGenerationRequest} {allowance : Nat} {point : Generation ModelGenerationResult}
    (bounded : Bounded (· = sent) allowance point) :
    Outline (discipline gateway) (backend gateway.budget start) id (fun _ => Paid gateway id request sent allowance) point := by
  have stable (allowance : Nat) : Stable (discipline gateway) id fun _ => Paid gateway id request sent allowance := by
    apply stable_own
    intro log out unasked ungranted paid
    have kept := paid.append unasked (Nat.zero_le allowance) ungranted
    exact kept
  induction point generalizing allowance with
  | done answer => exact .done (stable allowance) fun state log mediated _ => mediated.responded id answer
  | command c next ih =>
    obtain ⟨sends, afforded, onward⟩ := bounded
    refine .command (fun _ _ => Paid gateway id request sent (allowance - c.calls)) (stable allowance) ?_
      fun reply => ih reply (onward reply)
    intro state log reaction after reply out mediated paid ran _
    obtain ⟨rfl, silent⟩ := silent_of_sends sends ran id
    refine ⟨mediated.silent silent ?_ ?_, trivial, paid.append silent.asked afforded (silent.ungranted id)⟩
    · have asked := paid.asked
      rw [paid.granted, Nat.mul_one]
      omega
    · intro kind same
      obtain ⟨now, reserved⟩ := paid.reserved
      rw [same]
      exact ⟨request, now, paid.invoked, paid.allowed, paid.forwards, reserved⟩

/-- What a call does until it reserves. -/
theorem outline_unfunded (nonneg : gateway.pricing.Nonneg) {point : Generation ModelGenerationResult}
    (unfunded : Unfunded gateway request point) :
    Outline (discipline gateway) (backend gateway.budget start) id (fun _ => Waiting id request) point := by
  have stable : Stable (discipline gateway) id fun _ => Waiting id request := by
    apply stable_own
    intro log out unasked ungranted waiting
    exact waiting.append unasked ungranted
  have guarded {c : Command} {next : Reply c → Generation ModelGenerationResult} (guards : c.Guards)
      (onward : ∀ reply, Outline (discipline gateway) (backend gateway.budget start) id (fun _ => Waiting id request) (next reply)) :
      Outline (discipline gateway) (backend gateway.budget start) id (fun _ => Waiting id request) (.command c next) := by
    refine .command (fun _ _ => Waiting id request) stable ?_ onward
    intro state log reaction after reply out mediated waiting ran _
    have sends : c.Sends fun _ => False := guards.sends
    obtain ⟨rfl, silent⟩ := silent_of_sends sends ran id
    have weightless : c.calls = 0 := by
      cases c with
      | call => exact absurd guards not_false
      | _ => rfl
    have unasked := silent.asked.trans weightless
    refine ⟨mediated.silent silent ?_ fun _ absurd => absurd.elim, trivial, waiting.append unasked (silent.ungranted id)⟩
    rw [waiting.asked, weightless]
    exact Nat.zero_le _
  induction point with
  | done answer => exact .done stable fun state log mediated _ => mediated.responded id answer
  | command c next ih =>
    cases c with
    | reserve tenant cost =>
      obtain ⟨sent, forwards, allowed, rfl, rfl, bounded, refused⟩ := unfunded
      refine .command (Reserved gateway id request sent) stable ?_ ?_
      · intro state log reaction after reply out mediated waiting ran _
        obtain ⟨onward, rfl, answered⟩ := reserve_some ran
        have cost : 0 ≤ gateway.preflightCost request.model sent :=
          PricingTable.estimateCostGbp_nonneg nonneg request.model _
        generalize attempted : gateway.budget.checkAndReserve state.spend reaction.now request.tenant
          (gateway.preflightCost request.model sent) = attempt at answered ⊢
        obtain ⟨result, spend⟩ := attempt
        have kept := mediated.reserve waiting.granted onward cost attempted
        rcases answered with ⟨rfl, rfl, rfl⟩ | ⟨error, rfl, rfl, rfl⟩
        · refine ⟨kept, trivial, List.mem_append_left _ waiting.invoked, allowed, forwards,
            ⟨reaction.now, List.mem_append_right _ (List.mem_singleton_self _)⟩, ?_, ?_⟩
          · rw [List.countP_append, waiting.granted]
            simp [isGranted]
          · rw [List.countP_append, waiting.asked]
            simp [asksProvider]
        · exact ⟨kept, trivial, trivial⟩
      · intro reply
        change Except GatewayException Unit at reply
        cases reply with
        | ok granted => exact outline_bounded bounded
        | error error =>
          rw [refused error]
          exact .done (stable_own fun _ _ _ _ holds => holds) fun state log mediated _ => mediated.responded id _
    | _ => exact guarded unfunded.1 fun reply => ih reply (unfunded.2 reply)

theorem governs (nonneg : gateway.pricing.Nonneg) (start : Rat) :
    Governs (discipline gateway) (backend gateway.budget start) (generate gateway) where
  initial :=
    ⟨⟨fun _ => Tracks.empty _ _, fun _ _ member => absurd member List.not_mem_nil, Throughout.nil _⟩, Throughout.nil _,
      fun _ => Nat.zero_le _, fun _ => Nat.zero_le _⟩
  invoke state log id request mediated fresh := by
    obtain ⟨unasked, ungranted⟩ := countP_foreign fresh
    refine ⟨mediated.invoked id request, fun _ => Waiting id request, ⟨?_, ?_, ?_⟩,
      outline_unfunded nonneg (unfunded_generate gateway request)⟩
    · exact List.mem_append_right _ (List.mem_singleton_self _)
    · rw [List.countP_append, unasked]
      rfl
    · rw [List.countP_append, ungranted]
      rfl

end

end

/-- In every interleaving of calls, the accepted reservations hold the ceiling of each tenant in every window, each
    provider call was paid for by a reservation of its own call, and a call asks the provider no more often than it has
    attempts; a tenant without a ceiling never reaches the provider. -/
theorem calls_mediated {σ : Type} (gateway : ModelGateway σ) (nonneg : gateway.pricing.Nonneg) (start : Rat)
    (events : List (Event ModelGenerationRequest Reaction))
    (final : Interleaving.State BudgetState Command Reply (Except GatewayException ModelGenerationResult))
    (log : List CallObservation) (ran : (calls gateway start).run events = some (final, log)) :
    (∀ tenant ceiling, gateway.budget.ceilingFor tenant = some ceiling →
      ∀ t, gateway.budget.windowSpend (reservations log) tenant t ≤ ceiling) ∧
    Throughout (Funded gateway) log ∧
    (∀ id, log.countP (asksProvider id) ≤ gateway.maxAttempts * log.countP (isGranted id) ∧
      log.countP (isGranted id) ≤ 1) ∧
    ∀ id sent result, .did id (.called sent result) ∈ log → gateway.budget.ceilingFor sent.tenant ≠ none := by
  have mediated : Mediated gateway final.backend log := run_invariant (governs nonneg start) ran fun _ _ _ => trivial
  refine ⟨?_, mediated.funded, fun id => ⟨mediated.asked id, mediated.granted id⟩, ?_⟩
  · intro tenant ceiling found t
    exact mediated.accounted.windowSpend_le found t
  · intro id sent result called missing
    obtain ⟨before, after, same, funded⟩ := mediated.funded.of_mem called
    obtain ⟨request, now, -, -, forwards, reserved⟩ := funded id sent result rfl
    have own : sent.tenant = request.tenant := by rw [forwards]
    rw [own] at missing
    have accepted : .accepted request.tenant ⟨now, gateway.preflightCost request.model sent⟩ ∈ reservations log := by
      apply List.mem_filterMap.mpr
      exact ⟨_, by rw [same]; exact List.mem_append_left _ reserved, rfl⟩
    have none := mediated.accounted.no_ceiling missing
    rw [acceptedFor, List.filterMap_eq_nil_iff] at none
    have kept := none _ accepted
    simp [BudgetRecord.acceptedFor] at kept

theorem calls_mediated_desk : ∃ final log, (calls deskGateway 0).run deskEvents = some (final, log) ∧
    log.countP (asksProvider 0) = 2 ∧ log.countP (asksProvider 1) = 0 ∧
    deskGateway.budget.windowSpend (reservations log) "payment-disputes" 4 ≤ 5 := by
  refine ⟨_, _, deskEvents_run, by decide +kernel, by decide +kernel, ?_⟩
  have nonneg : deskGateway.pricing.Nonneg := by simp [deskGateway, PricingTable.Nonneg]
  exact (calls_mediated deskGateway nonneg 0 deskEvents _ _ deskEvents_run).1 "payment-disputes" 5 rfl 4

end AgentPlatform.ModelGateway.Concurrent
