import AgentPlatform.Base.Keyed
import AgentPlatform.ModelGateway.BudgetRun

/-! # Budgets of different tenants

Every call reads and rewrites the ledger of its own tenant, so what the other tenants spend never shows. -/

namespace AgentPlatform.ModelGateway

def BudgetCall.tenant : BudgetCall → String
  | .checkAndReserve tenant _ => tenant
  | .spentGbp tenant => tenant

def BudgetRecord.tenant : BudgetRecord → String
  | .accepted tenant _ => tenant
  | .refused tenant _ => tenant
  | .reported tenant _ _ => tenant

/-- The calls of one tenant, each with its clock reading. -/
def callsOf (tenant : String) (events : List BudgetEvent) : List BudgetEvent :=
  events.filter fun event => event.call.tenant = tenant

def recordsOf (tenant : String) (log : List BudgetRecord) : List BudgetRecord :=
  log.filter fun record => record.tenant = tenant

/-- A call as it is answered from the ledger of its tenant alone. -/
def TenantBudgetPolicy.ledgers (policy : TenantBudgetPolicy) :
    KeyedService String (List Reservation) BudgetEvent BudgetRecord where
  key event := event.call.tenant
  serve ledger event :=
    let (spend, record) := policy.answer (fun _ => ledger) event.now event.call
    (spend event.call.tenant, record)

section

variable {policy : TenantBudgetPolicy}

theorem TenantBudgetPolicy.prune_eq_of_ledger {spend spend' : Spend} {tenant : String}
    (same : spend tenant = spend' tenant) (now : Rat) :
    policy.prune spend now tenant = policy.prune spend' now tenant := by
  rw [prune, prune, same]

theorem TenantBudgetPolicy.answer_checkAndReserve (policy : TenantBudgetPolicy) (spend : Spend) (now cost : Rat)
    (tenant : String) :
    policy.answer spend now (.checkAndReserve tenant cost) =
      policy.ledgers.call spend ⟨now, .checkAndReserve tenant cost⟩ := by
  have pruned : policy.prune (fun _ => spend tenant) now tenant = policy.prune spend now tenant :=
    prune_eq_of_ledger rfl now
  have frozen : Function.update spend tenant (spend tenant) = spend := Function.update_eq_self _ _
  simp only [KeyedService.call, ledgers, BudgetCall.tenant, answer, checkAndReserve, pruned]
  cases found : policy.ceilingFor tenant with
  | none => simp only [frozen]
  | some ceiling =>
    by_cases exceeded :
        ceiling < SlidingWindow.total Reservation.cost (policy.prune spend now tenant) + cost
    · simp only [if_pos exceeded, Function.update_self]
    · simp only [if_neg exceeded, Function.update_self]

theorem TenantBudgetPolicy.answer_spentGbp (policy : TenantBudgetPolicy) (spend : Spend) (now : Rat)
    (tenant : String) :
    policy.answer spend now (.spentGbp tenant) = policy.ledgers.call spend ⟨now, .spentGbp tenant⟩ := by
  have pruned : policy.prune (fun _ => spend tenant) now tenant = policy.prune spend now tenant :=
    prune_eq_of_ledger rfl now
  simp only [KeyedService.call, ledgers, BudgetCall.tenant, answer, spentGbp, pruned, Function.update_self]

/-- No call sees or changes the ledger of another tenant. -/
theorem TenantBudgetPolicy.answer_eq_call (policy : TenantBudgetPolicy) (spend : Spend) (event : BudgetEvent) :
    policy.answer spend event.now event.call = policy.ledgers.call spend event := by
  obtain ⟨now, call⟩ := event
  cases call with
  | checkAndReserve tenant cost => exact policy.answer_checkAndReserve spend now cost tenant
  | spentGbp tenant => exact policy.answer_spentGbp spend now tenant

theorem TenantBudgetPolicy.answer_tenant (policy : TenantBudgetPolicy) (spend : Spend) (now : Rat)
    (call : BudgetCall) : (policy.answer spend now call).2.tenant = call.tenant := by
  cases call with
  | checkAndReserve tenant cost =>
    rcases policy.checkAndReserve_cases spend now tenant cost with
      ⟨_, result⟩ | ⟨_, _, ⟨_, result⟩ | ⟨_, result⟩⟩ <;>
      simp only [answer, result, BudgetRecord.tenant, BudgetCall.tenant]
  | spentGbp tenant => rfl

theorem TenantBudgetPolicy.step_inv {start : Rat} {state next : BudgetState} {event : BudgetEvent}
    {out : List BudgetRecord} (stepped : (policy.machine start).step state event = some (next, out)) :
    state.now ≤ event.now ∧ next = ⟨event.now, (policy.ledgers.call state.spend event).1⟩ ∧
      out = [(policy.ledgers.call state.spend event).2] := by
  simp only [machine] at stepped
  obtain ⟨onward, same⟩ := Option.ite_none_left_eq_some.mp stepped
  rw [policy.answer_eq_call] at same
  cases same
  exact ⟨not_lt.mp onward, rfl, rfl⟩

theorem TenantBudgetPolicy.runFrom_answers {start : Rat} {state final : BudgetState} {events : List BudgetEvent}
    {log : List BudgetRecord} (ran : (policy.machine start).runFrom state events = some (final, log)) :
    log = (policy.ledgers.answers state.spend events).map Prod.snd := by
  induction events generalizing state log with
  | nil =>
    cases ran
    rfl
  | cons event events ih =>
    obtain ⟨next, out, rest, stepped, onward, rfl⟩ := Machine.runFrom_cons ran
    obtain ⟨-, rfl, rfl⟩ := step_inv stepped
    rw [ih onward]
    rfl

theorem TenantBudgetPolicy.recordsOf_answers (policy : TenantBudgetPolicy) (tenant : String) (spend : Spend)
    (events : List BudgetEvent) :
    recordsOf tenant ((policy.ledgers.answers spend events).map Prod.snd) =
      ((policy.ledgers.answers spend events).filter fun answer => answer.1.call.tenant = tenant).map
        Prod.snd := by
  induction events generalizing spend with
  | nil => rfl
  | cons event events ih =>
    have own : (policy.ledgers.call spend event).2.tenant = event.call.tenant := by
      rw [← policy.answer_eq_call, policy.answer_tenant]
    have rest := ih (policy.ledgers.call spend event).1
    simp only [recordsOf] at rest ⊢
    simp only [KeyedService.answers, List.map_cons, List.filter_cons, own, rest]
    by_cases same : event.call.tenant = tenant
    · simp only [same, decide_true, if_true, List.map_cons]
    · simp only [same, decide_false, Bool.false_eq_true, if_false]

theorem TenantBudgetPolicy.ledgers_apart (policy : TenantBudgetPolicy) (tenant : String)
    (events : List BudgetEvent) :
    policy.ledgers.Apart (fun event => event.call.tenant = tenant) events := by
  apply KeyedService.Apart.of_key fun key => key = tenant
  intro event _
  exact decide_eq_true_iff

theorem TenantBudgetPolicy.runFrom_sublist {start : Rat} {state reduced final : BudgetState}
    {events kept : List BudgetEvent} {log : List BudgetRecord} (fewer : kept.Sublist events)
    (ran : (policy.machine start).runFrom state events = some (final, log)) (earlier : reduced.now ≤ state.now) :
    ∃ final' log', (policy.machine start).runFrom reduced kept = some (final', log') := by
  induction fewer generalizing state reduced log with
  | slnil => exact ⟨_, _, Machine.runFrom_nil reduced⟩
  | cons event fewer ih =>
    obtain ⟨next, out, rest, stepped, onward, rfl⟩ := Machine.runFrom_cons ran
    obtain ⟨later, rfl, rfl⟩ := step_inv stepped
    exact ih onward (earlier.trans later)
  | cons_cons event fewer ih =>
    obtain ⟨next, out, rest, stepped, onward, rfl⟩ := Machine.runFrom_cons ran
    obtain ⟨later, rfl, rfl⟩ := step_inv stepped
    have allowed : ¬ event.now < reduced.now := not_lt.mpr (earlier.trans later)
    have moved : (policy.machine start).step reduced event = some
        (⟨event.now, (policy.answer reduced.spend event.now event.call).1⟩,
          [(policy.answer reduced.spend event.now event.call).2]) := if_neg allowed
    have level : (BudgetState.mk event.now (policy.answer reduced.spend event.now event.call).1).now ≤
        event.now := le_refl event.now
    obtain ⟨final', log', ran'⟩ := ih onward level
    exact ⟨_, _, Machine.runFrom_step moved ran'⟩

end

/-- What a tenant is told depends on its own calls and their clock readings alone, whatever the other
    tenants call and whenever. -/
theorem TenantBudgetPolicy.run_noninterference (policy : TenantBudgetPolicy) (start : Rat) (tenant : String)
    (events : List BudgetEvent) (final : BudgetState) (log : List BudgetRecord)
    (ran : (policy.machine start).run events = some (final, log)) :
    (∃ alone, (policy.machine start).run (callsOf tenant events) = some (alone, recordsOf tenant log)) ∧
    ∀ start' events' final' log', (policy.machine start').run events' = some (final', log') →
      callsOf tenant events' = callsOf tenant events → recordsOf tenant log' = recordsOf tenant log := by
  have told : recordsOf tenant log =
      ((policy.ledgers.answers (fun _ => []) events).filter fun answer => answer.1.call.tenant = tenant).map
        Prod.snd := by
    rw [runFrom_answers ran, recordsOf_answers]
    rfl
  constructor
  · have fewer : (callsOf tenant events).Sublist events := List.filter_sublist
    obtain ⟨alone, own, ranAlone⟩ := runFrom_sublist fewer ran (le_refl (policy.machine start).init.now)
    have answered : own = (policy.ledgers.answers (fun _ => []) (callsOf tenant events)).map Prod.snd :=
      runFrom_answers ranAlone
    have deleted := KeyedService.answers_kept (fun _ => []) (policy.ledgers_apart tenant events)
    refine ⟨alone, ?_⟩
    rw [told, deleted]
    exact answered ▸ ranAlone
  · intro start' events' final' log' ran' same
    rw [told, runFrom_answers ran', recordsOf_answers]
    exact congrArg (List.map Prod.snd) (KeyedService.answers_eq_of_kept (fun _ => [])
      (policy.ledgers_apart tenant events') (policy.ledgers_apart tenant events) same)

def rivalCalls : List BudgetEvent :=
  [⟨0, .checkAndReserve "payment-disputes" 4⟩, ⟨1, .checkAndReserve "complaints" 9⟩,
    ⟨2, .checkAndReserve "payment-disputes" 2⟩, ⟨2, .spentGbp "payment-disputes"⟩]

theorem rivalCalls_noninterference : ∃ final log,
    (singleTenantPolicy.machine 0).run rivalCalls = some (final, log) ∧
      (∃ alone, (singleTenantPolicy.machine 0).run (callsOf "payment-disputes" rivalCalls) =
        some (alone, recordsOf "payment-disputes" log)) ∧
      recordsOf "payment-disputes" log = [.accepted "payment-disputes" ⟨0, 4⟩,
        .refused "payment-disputes" ⟨2, 2⟩, .reported "payment-disputes" 2 4] := by
  have ran : (singleTenantPolicy.machine 0).run rivalCalls = some
      (((singleTenantPolicy.machine 0).run rivalCalls).get (by decide +kernel)) := by
    rw [Option.some_get]
  exact ⟨_, _, ran, (singleTenantPolicy.run_noninterference 0 "payment-disputes" rivalCalls _ _ ran).1,
    by decide +kernel⟩

end AgentPlatform.ModelGateway
