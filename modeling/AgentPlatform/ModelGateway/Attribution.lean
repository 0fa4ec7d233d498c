import AgentPlatform.Base.Machine
import AgentPlatform.ModelGateway.BudgetRun
import AgentPlatform.ModelGateway.Mediation
import AgentPlatform.ModelGateway.MockChatModel

/-! # Attributed spend

Runs of `generate` calls that overlap: each is admitted by its reservation and returns, if it does, at
any later point. -/

set_option linter.dupNamespace false

namespace AgentPlatform.ModelGateway

open Effect SlidingWindow

/-- A call whose reservation was accepted and that has not ended. -/
structure PendingCall where
  id : Nat
  request : ModelGenerationRequest
  sanitized : ModelGenerationRequest

structure SpendState (σ : Type) where
  world : World σ
  pending : List PendingCall

/-- A call begins, an admitted call ends, or the environment moves on by itself. -/
inductive SpendEvent (σ : Type) where
  | start (id : Nat) (request : ModelGenerationRequest)
  | finish (id : Nat)
  | elapse (env : σ)

inductive SpendRecord where
  | acted (action : GatewayAction)
  | returned (tenant : String) (result : ModelGenerationResult)
deriving DecidableEq

namespace ModelGateway

variable {σ : Type}

def beginCall (gateway : ModelGateway σ) (state : SpendState σ) (id : Nat)
    (request : ModelGenerationRequest) : SpendState σ × List SpendRecord :=
  match gateway.preflight request state.world with
  | (.ok sanitized, world, log) =>
    (⟨world, ⟨id, request, sanitized⟩ :: state.pending⟩, log.map .acted)
  | (.error _, world, log) => (⟨world, state.pending⟩, log.map .acted)

def endCall (gateway : ModelGateway σ) (state : SpendState σ) (call : PendingCall) :
    SpendState σ × List SpendRecord :=
  let pending := state.pending.eraseP fun other => other.id = call.id
  match gateway.complete call.request call.sanitized state.world with
  | (.ok result, world, log) =>
    (⟨world, pending⟩, log.map .acted ++ [.returned call.request.tenant result])
  | (.error _, world, log) => (⟨world, pending⟩, log.map .acted)

def calls (gateway : ModelGateway σ) (env : σ) : Machine (SpendState σ) (SpendEvent σ) SpendRecord where
  init := ⟨⟨env, fun _ => []⟩, []⟩
  step state
    | .start id request => some (gateway.beginCall state id request)
    | .finish id =>
      (state.pending.find? fun call => call.id = id).map (gateway.endCall state)
    | .elapse env => some (⟨{ state.world with env := env }, state.pending⟩, [])

end ModelGateway

def SpendRecord.budget : SpendRecord → Option BudgetRecord
  | .acted (.reserved now tenant cost (.ok ())) => some (.accepted tenant ⟨now, cost⟩)
  | .acted (.reserved now tenant cost (.error _)) => some (.refused tenant ⟨now, cost⟩)
  | _ => none

def budgetRecords (log : List SpendRecord) : List BudgetRecord := log.filterMap SpendRecord.budget

def BudgetRecord.time : BudgetRecord → Rat
  | .accepted _ entry | .refused _ entry => entry.time
  | .reported _ now _ => now

def SpendRecord.returnedTo (tenant : String) : SpendRecord → Option ModelGenerationResult
  | .returned other result => if other = tenant then some result else none
  | .acted _ => none

/-- The sum of the costs attributed to the results that were returned to a tenant. -/
def attributedSpend (tenant : String) (log : List SpendRecord) : Rat :=
  total ModelGenerationResult.estimatedCostGbp (log.filterMap (SpendRecord.returnedTo tenant))

/-- The provider reports the requested model, no more than the allowed completion tokens, and the
    prompt tokens that its adapter counts. -/
def Reported (countPrompt : ModelGenerationRequest → Nat) (log : List SpendRecord) : Prop :=
  ∀ sent raw, .acted (.called sent (.ok raw)) ∈ log → raw.model = sent.model ∧
    raw.usage.completionTokens ≤ sent.maxTokens ∧ raw.usage.promptTokens = countPrompt sent

/-- The clock of the reservations does not go back. -/
def ClockOrdered (log : List SpendRecord) : Prop :=
  (budgetRecords log).Pairwise fun earlier later => earlier.time ≤ later.time

/-- The requests that reach the provider are among these. -/
def SendsOnly (Sends : ModelGenerationRequest → Prop) (log : List SpendRecord) : Prop :=
  ∀ sent answer, .acted (.called sent answer) ∈ log → Sends sent

def pendingCost {σ : Type} (gateway : ModelGateway σ) (tenant : String) (pending : List PendingCall) : Rat :=
  total (fun call => gateway.preflightCost call.request.model call.sanitized)
    (pending.filter fun call => call.request.tenant = tenant)

theorem budgetRecords_append (first second : List SpendRecord) :
    budgetRecords (first ++ second) = budgetRecords first ++ budgetRecords second :=
  List.filterMap_append

theorem attributedSpend_append (tenant : String) (first second : List SpendRecord) :
    attributedSpend tenant (first ++ second) = attributedSpend tenant first + attributedSpend tenant second := by
  simp only [attributedSpend, List.filterMap_append, total_append]

@[simp] theorem attributedSpend_acted (tenant : String) (log : List GatewayAction) :
    attributedSpend tenant (log.map .acted) = 0 := by
  have nothing : (log.map SpendRecord.acted).filterMap (SpendRecord.returnedTo tenant) = [] := by
    rw [List.filterMap_eq_nil_iff]
    rintro record member
    obtain ⟨action, _, rfl⟩ := List.mem_map.mp member
    rfl
  rw [attributedSpend, nothing, total_nil]

theorem attributedSpend_returned (tenant other : String) (result : ModelGenerationResult) :
    attributedSpend tenant [.returned other result] =
      if other = tenant then result.estimatedCostGbp else 0 := by
  by_cases same : other = tenant <;> simp [attributedSpend, SpendRecord.returnedTo, same]

theorem budgetRecords_acted {log : List GatewayAction}
    (silent : ∀ action ∈ log, SpendRecord.budget (.acted action) = none) :
    budgetRecords (log.map .acted) = [] := by
  rw [budgetRecords, List.filterMap_eq_nil_iff]
  rintro record member
  obtain ⟨action, inside, rfl⟩ := List.mem_map.mp member
  exact silent action inside

theorem GatewayAction.OfGuard.silent {action : GatewayAction} (ofGuard : action.OfGuard) :
    SpendRecord.budget (.acted action) = none := by
  cases action with
  | reserved now tenant cost answer => exact ofGuard.elim False.elim False.elim
  | _ => rfl

/-- The assumptions on a run, each of them on the records made so far. -/
structure WellReported (countPrompt : ModelGenerationRequest → Nat) (log : List SpendRecord) : Prop where
  clock : ClockOrdered log
  reported : Reported countPrompt log
  counted : SendsOnly (fun sent => countPrompt sent ≤ ModelGateway.estimatePromptTokens sent) log

theorem WellReported.prefix {countPrompt : ModelGenerationRequest → Nat} {log more : List SpendRecord}
    (well : WellReported countPrompt (log ++ more)) : WellReported countPrompt log where
  clock := by
    have clock := well.clock
    rw [ClockOrdered, budgetRecords_append] at clock
    exact (List.pairwise_append.mp clock).1
  reported sent raw member := well.reported sent raw (List.mem_append_left _ member)
  counted sent answer member := well.counted sent answer (List.mem_append_left _ member)

/-- The ledgers account for the reservations, and the reservations for what is attributed and pending. -/
structure ModelGateway.Covers {σ : Type} (gateway : ModelGateway σ) (state : SpendState σ)
    (log : List SpendRecord) : Prop where
  accounted : ∀ later, (∀ record ∈ budgetRecords log, record.time ≤ later) →
    gateway.budget.Accounted ⟨later, state.world.spend⟩ (budgetRecords log)
  cleared : ∀ call ∈ state.pending, ∃ before, gateway.Cleared call.request before call.sanitized
  covered : ∀ tenant, attributedSpend tenant log + pendingCost gateway tenant state.pending ≤
    total Reservation.cost (acceptedFor tenant (budgetRecords log))

section

variable {σ : Type} {gateway : ModelGateway σ} {state : SpendState σ} {log : List SpendRecord}

theorem ModelGateway.Covers.silent (covers : gateway.Covers state log) (world : World σ)
    (actions : List GatewayAction) (spend : world.spend = state.world.spend)
    (silent : ∀ action ∈ actions, SpendRecord.budget (.acted action) = none) :
    gateway.Covers ⟨world, state.pending⟩ (log ++ actions.map .acted) := by
  have same : budgetRecords (log ++ actions.map .acted) = budgetRecords log := by
    rw [budgetRecords_append, budgetRecords_acted silent, List.append_nil]
  refine ⟨?_, covers.cleared, fun tenant => ?_⟩
  · rw [same]
    dsimp only
    rw [spend]
    exact covers.accounted
  · rw [same, attributedSpend_append, attributedSpend_acted, add_zero]
    exact covers.covered tenant

/-- A reservation goes to the ledgers as the budget policy answers it. -/
theorem ModelGateway.Covers.reserve (covers : gateway.Covers state log) {now cost : Rat} {tenant : String}
    {answer : Except ModelBudgetExceeded Unit} {spend : Spend}
    (answered : gateway.budget.checkAndReserve state.world.spend now tenant cost = (answer, spend))
    (nonneg : 0 ≤ cost) (past : ∀ record ∈ budgetRecords log, record.time ≤ now) {later : Rat}
    (onward : now ≤ later) :
    gateway.budget.Accounted ⟨later, spend⟩
      (budgetRecords (log ++ [.acted (.reserved now tenant cost answer)])) := by
  have allowed : (BudgetCall.checkAndReserve tenant cost).CostNonneg := nonneg
  have accounted := (covers.accounted now past).call (le_refl now) allowed
  rw [budgetRecords_append]
  cases answer with
  | ok _ =>
    simp only [TenantBudgetPolicy.answer, answered] at accounted
    exact accounted.advance onward
  | error _ =>
    simp only [TenantBudgetPolicy.answer, answered] at accounted
    exact accounted.advance onward

theorem pendingCost_cons (gateway : ModelGateway σ) (tenant : String) (call : PendingCall)
    (pending : List PendingCall) :
    pendingCost gateway tenant (call :: pending) = (if call.request.tenant = tenant then
      gateway.preflightCost call.request.model call.sanitized else 0) + pendingCost gateway tenant pending := by
  by_cases own : call.request.tenant = tenant <;> simp [pendingCost, own, total]

theorem budgetRecords_accepted (now : Rat) (tenant : String) (cost : Rat) :
    budgetRecords [.acted (.reserved now tenant cost (.ok ()))] = [.accepted tenant ⟨now, cost⟩] := rfl

theorem mem_budgetRecords_last {log : List SpendRecord} {action : GatewayAction} {record : BudgetRecord}
    (recorded : SpendRecord.budget (.acted action) = some record) :
    record ∈ budgetRecords (log ++ [.acted action]) := by
  rw [budgetRecords_append]
  exact List.mem_append_right _ (by simp [budgetRecords, recorded])

theorem ClockOrdered.past {log : List SpendRecord} {action : GatewayAction} {record : BudgetRecord}
    (clock : ClockOrdered (log ++ [.acted action])) (recorded : SpendRecord.budget (.acted action) = some record) :
    ∀ earlier ∈ budgetRecords log, earlier.time ≤ record.time := by
  rw [ClockOrdered, budgetRecords_append] at clock
  intro earlier member
  refine (List.pairwise_append.mp clock).2.2 earlier member record ?_
  simp [budgetRecords, recorded]

theorem ModelGateway.Covers.beginCall (covers : gateway.Covers state log) (nonneg : gateway.pricing.Nonneg)
    {id : Nat} {request : ModelGenerationRequest} {next : SpendState σ} {out : List SpendRecord}
    (began : gateway.beginCall state id request = (next, out)) (clock : ClockOrdered (log ++ out)) :
    gateway.Covers next (log ++ out) := by
  rcases ran : gateway.preflight request state.world with ⟨result, world, actions⟩
  rcases preflight_cases ran with
    ⟨error, rfl, ofGuard, spend⟩ | ⟨sanitized, guards, now, answer, rfl, ofGuard, answered, same, _⟩
  · simp only [ModelGateway.beginCall, ran] at began
    cases began
    exact covers.silent _ _ spend fun action member => (ofGuard action member).silent
  · have covers' : gateway.Covers state (log ++ guards.map .acted) :=
      covers.silent state.world guards rfl fun action member => (ofGuard action member).silent
    have nonneg_cost : 0 ≤ gateway.preflightCost request.model sanitized :=
      gateway.pricing.estimateCostGbp_nonneg nonneg _ _
    have attributed (tenant : String) :
        attributedSpend tenant (log ++ guards.map .acted ++ [.acted (.reserved now request.tenant
          (gateway.preflightCost request.model sanitized) answer)]) =
        attributedSpend tenant (log ++ guards.map .acted) := by
      have none : attributedSpend tenant [SpendRecord.acted (.reserved now request.tenant
        (gateway.preflightCost request.model sanitized) answer)] = 0 := attributedSpend_acted tenant [_]
      rw [attributedSpend_append, none, add_zero]
    cases answer with
    | error refusal =>
      subst same
      simp only [ModelGateway.beginCall, ran, List.map_append, List.map_cons, List.map_nil] at began
      cases began
      rw [← List.append_assoc] at clock ⊢
      have past := clock.past rfl
      refine ⟨fun later bound => covers'.reserve answered nonneg_cost past ?_, covers.cleared, fun tenant => ?_⟩
      · exact bound _ (mem_budgetRecords_last rfl)
      · rw [attributed, budgetRecords_append, acceptedFor_append]
        simpa [budgetRecords, SpendRecord.budget, acceptedFor_refused] using covers'.covered tenant
    | ok granted =>
      cases granted
      obtain ⟨_, _, _, _, _, cleared⟩ := preflight_admits (ran.trans (by rw [same]))
      subst same
      simp only [ModelGateway.beginCall, ran, List.map_append, List.map_cons, List.map_nil] at began
      cases began
      rw [← List.append_assoc] at clock ⊢
      have past := clock.past rfl
      refine ⟨fun later bound => covers'.reserve answered nonneg_cost past ?_, fun call member => ?_,
        fun tenant => ?_⟩
      · exact bound _ (mem_budgetRecords_last rfl)
      · rcases List.mem_cons.mp member with rfl | earlier
        · exact ⟨_, cleared⟩
        · exact covers.cleared call earlier
      · have before := covers'.covered tenant
        rw [attributed, budgetRecords_append, budgetRecords_accepted, acceptedFor_append,
          acceptedFor_accepted, pendingCost_cons, total_append]
        by_cases own : request.tenant = tenant
        · rw [if_pos own, if_pos own, total_singleton]
          linarith
        · rw [if_neg own, if_neg own, total_nil]
          linarith

theorem pendingCost_erase {pending : List PendingCall} {id : Nat} {call : PendingCall} (tenant : String)
    (found : pending.find? (fun other => other.id = id) = some call) :
    pendingCost gateway tenant pending = (if call.request.tenant = tenant then
      gateway.preflightCost call.request.model call.sanitized else 0) +
      pendingCost gateway tenant (pending.eraseP fun other => other.id = call.id) := by
  induction pending with
  | nil => cases found
  | cons first pending ih =>
    by_cases same : first.id = id
    · rw [List.find?_cons_of_pos (by simpa using same)] at found
      cases found
      rw [pendingCost_cons, List.eraseP_cons_of_pos (by simp)]
    · rw [List.find?_cons_of_neg (by simpa using same)] at found
      have other : call.id = id := by simpa using List.find?_some found
      have apart : first.id ≠ call.id := fun equal => same (equal.trans other)
      rw [pendingCost_cons, List.eraseP_cons_of_neg (by simpa using apart), pendingCost_cons, ih found]
      ring

theorem ModelGateway.Returned.cost_le {countPrompt : ModelGenerationRequest → Nat}
    {sanitized : ModelGenerationRequest} {actions : List GatewayAction} {value : ModelGenerationResult}
    (returned : gateway.Returned actions sanitized value) (nonneg : gateway.pricing.Nonneg)
    {log : List SpendRecord} (well : WellReported countPrompt log)
    (inside : ∀ action ∈ actions, .acted action ∈ log) :
    value.estimatedCostGbp ≤ gateway.preflightCost sanitized.model sanitized := by
  obtain ⟨earlier, raw, scans, checks, rfl, _, _, same⟩ := returned
  have called : SpendRecord.acted (.called sanitized (.ok raw)) ∈ log := inside _ (by simp)
  obtain ⟨model, completion, prompt⟩ := well.reported sanitized raw called
  have counted := well.counted sanitized _ called
  rw [same]
  dsimp only
  rw [model]
  exact gateway.pricing.estimateCostGbp_mono nonneg _ (prompt ▸ counted) completion

/-- The end of a call moves at most its reservation to what is attributed. -/
theorem ModelGateway.Covers.endCall {countPrompt : ModelGenerationRequest → Nat}
    (covers : gateway.Covers state log) (nonneg : gateway.pricing.Nonneg) {id : Nat} {call : PendingCall}
    (found : state.pending.find? (fun other => other.id = id) = some call) {next : SpendState σ}
    {out : List SpendRecord} (ended : gateway.endCall state call = (next, out))
    (well : WellReported countPrompt (log ++ out)) : gateway.Covers next (log ++ out) := by
  obtain ⟨before, cleared⟩ := covers.cleared call (List.mem_of_find?_eq_some found)
  rcases ran : gateway.complete call.request call.sanitized state.world with ⟨result, world, actions⟩
  obtain ⟨inner, attempted, record, looped, rfl, rfl, telemetry⟩ := complete_cases ran
  obtain ⟨spend, ofAttempt, _, returned⟩ := attempts_spec cleared looped
  have silent : ∀ action ∈ attempted ++ [record], SpendRecord.budget (.acted action) = none := by
    intro action member
    rcases List.mem_append.mp member with inside | last
    · rcases ofAttempt action inside with ofGuard | ⟨answer, rfl⟩
      · exact ofGuard.silent
      · rfl
    · rw [List.mem_singleton.mp last]
      rcases telemetry with ⟨_, _, rfl⟩ | ⟨_, _, rfl⟩ <;> rfl
  have silenced := covers.silent world _ spend silent
  have kept : ∀ other ∈ state.pending.eraseP fun other => other.id = call.id,
      ∃ before, gateway.Cleared other.request before other.sanitized :=
    fun other member => covers.cleared other (List.mem_of_mem_eraseP member)
  have reserved : 0 ≤ gateway.preflightCost call.request.model call.sanitized :=
    gateway.pricing.estimateCostGbp_nonneg nonneg _ _
  cases outcome : inner.1 with
  | error error =>
    simp only [ModelGateway.endCall, ran, outcome] at ended
    cases ended
    refine ⟨silenced.accounted, kept, fun tenant => ?_⟩
    have before := silenced.covered tenant
    dsimp only at before
    rw [pendingCost_erase tenant found] at before
    split at before <;> linarith
  | ok value =>
    simp only [ModelGateway.endCall, ran, outcome] at ended
    cases ended
    rw [← List.append_assoc] at well ⊢
    have none : budgetRecords [SpendRecord.returned call.request.tenant value] = [] := rfl
    have bound : value.estimatedCostGbp ≤ gateway.preflightCost call.request.model call.sanitized := by
      have model : call.request.model = call.sanitized.model := by rw [cleared.sanitized.rest]
      rw [model]
      refine (returned value outcome).2.cost_le nonneg well.prefix fun action member => ?_
      exact List.mem_append_right _ (List.mem_map_of_mem (List.mem_append_left _ member))
    refine ⟨?_, kept, fun tenant => ?_⟩
    · rw [budgetRecords_append, none, List.append_nil]
      exact silenced.accounted
    · have before := silenced.covered tenant
      dsimp only at before
      rw [pendingCost_erase tenant found] at before
      rw [budgetRecords_append, none, List.append_nil, attributedSpend_append, attributedSpend_returned]
      dsimp only
      split at before
      · rename_i own
        rw [if_pos own]
        linarith
      · rename_i other
        rw [if_neg other]
        linarith

end

end AgentPlatform.ModelGateway
