import AgentPlatform.Base.History
import AgentPlatform.ModelGateway.Policy

/-! # Runs of the budget policy

The in-process ledger of every tenant, driven by calls at instants of a clock that never goes back. -/

namespace AgentPlatform.ModelGateway

open Python SlidingWindow

inductive BudgetCall where
  | checkAndReserve (tenant : String) (cost : Rat)
  | spentGbp (tenant : String)
deriving DecidableEq

structure BudgetEvent where
  now : Rat
  call : BudgetCall
deriving DecidableEq

inductive BudgetRecord where
  | accepted (tenant : String) (entry : Reservation)
  | refused (tenant : String) (entry : Reservation)
  | reported (tenant : String) (now amount : Rat)
deriving DecidableEq

structure BudgetState where
  now : Rat
  spend : Spend

def TenantBudgetPolicy.answer (policy : TenantBudgetPolicy) (spend : Spend) (now : Rat) :
    BudgetCall → Spend × BudgetRecord
  | .checkAndReserve tenant cost =>
    match policy.checkAndReserve spend now tenant cost with
    | (.ok (), after) => (after, .accepted tenant ⟨now, cost⟩)
    | (.error _, after) => (after, .refused tenant ⟨now, cost⟩)
  | .spentGbp tenant =>
    match policy.spentGbp spend now tenant with
    | (amount, after) => (after, .reported tenant now amount)

/-- A call is possible at any instant that is not before the last one. -/
def TenantBudgetPolicy.machine (policy : TenantBudgetPolicy) (start : Rat) :
    Machine BudgetState BudgetEvent BudgetRecord where
  init := ⟨start, fun _ => []⟩
  step state event :=
    if event.now < state.now then none
    else
      let (spend, record) := policy.answer state.spend event.now event.call
      some (⟨event.now, spend⟩, [record])

def BudgetRecord.acceptedFor (tenant : String) : BudgetRecord → Option Reservation
  | .accepted other entry => if other = tenant then some entry else none
  | .refused .. | .reported .. => none

def acceptedFor (tenant : String) (log : List BudgetRecord) : List Reservation :=
  log.filterMap (BudgetRecord.acceptedFor tenant)

/-- The sum of the reservations accepted for the tenant in `(t - window, t]`. -/
def TenantBudgetPolicy.windowSpend (policy : TenantBudgetPolicy) (log : List BudgetRecord)
    (tenant : String) (t : Rat) : Rat :=
  total Reservation.cost (inWindow Reservation.time policy.window t (acceptedFor tenant log))

/-- No ceiling exists, or the reservation would push the window that ends with it over the ceiling. -/
def TenantBudgetPolicy.Exceeds (policy : TenantBudgetPolicy) (log : List BudgetRecord)
    (tenant : String) (entry : Reservation) : Prop :=
  ∀ ceiling ∈ policy.ceilingFor tenant, ceiling < policy.windowSpend log tenant entry.time + entry.cost

/-- What a record says of the calls before it. -/
def TenantBudgetPolicy.Justified (policy : TenantBudgetPolicy) (before : List BudgetRecord) :
    BudgetRecord → Prop
  | .accepted tenant entry => ¬ policy.Exceeds before tenant entry
  | .refused tenant entry => policy.Exceeds before tenant entry
  | .reported tenant now amount => amount = roundTo 8 (policy.windowSpend before tenant now)

def BudgetCall.CostNonneg : BudgetCall → Prop
  | .checkAndReserve _ cost => 0 ≤ cost
  | .spentGbp _ => True

/-- The ledgers track the accepted reservations, and every answer so far was the right one. -/
structure TenantBudgetPolicy.Accounted (policy : TenantBudgetPolicy) (state : BudgetState)
    (log : List BudgetRecord) : Prop where
  tracked : ∀ tenant,
    Tracks Reservation.time (policy.window : Rat) state.now (acceptedFor tenant log) (state.spend tenant)
  nonneg : ∀ tenant, ∀ entry ∈ acceptedFor tenant log, 0 ≤ entry.cost
  justified : Throughout policy.Justified log

section

variable {policy : TenantBudgetPolicy}

theorem acceptedFor_append (tenant : String) (first second : List BudgetRecord) :
    acceptedFor tenant (first ++ second) = acceptedFor tenant first ++ acceptedFor tenant second :=
  List.filterMap_append

theorem acceptedFor_accepted (tenant other : String) (entry : Reservation) :
    acceptedFor tenant [.accepted other entry] = if other = tenant then [entry] else [] := by
  by_cases same : other = tenant <;> simp [acceptedFor, BudgetRecord.acceptedFor, same]

theorem acceptedFor_refused (tenant other : String) (entry : Reservation) :
    acceptedFor tenant [.refused other entry] = [] := rfl

theorem TenantBudgetPolicy.window_cast_pos (policy : TenantBudgetPolicy) : (0 : Rat) < policy.window := by
  exact_mod_cast policy.window_positive

theorem TenantBudgetPolicy.Accounted.prune_eq {state : BudgetState} {log : List BudgetRecord}
    (accounted : policy.Accounted state log) {now : Rat} (onward : state.now ≤ now) (tenant : String) :
    policy.prune state.spend now tenant =
      inWindow Reservation.time (policy.window : Rat) now (acceptedFor tenant log) :=
  (accounted.tracked tenant).expire onward

theorem TenantBudgetPolicy.Accounted.tracked_prune {state : BudgetState} {log : List BudgetRecord}
    (accounted : policy.Accounted state log) {now : Rat} (onward : state.now ≤ now)
    (pruned tenant : String) :
    Tracks Reservation.time (policy.window : Rat) now (acceptedFor tenant log)
      (Function.update state.spend pruned (policy.prune state.spend now pruned) tenant) := by
  by_cases same : tenant = pruned
  · subst same
    rw [Function.update_self]
    exact (accounted.tracked tenant).prune onward
  · rw [Function.update_of_ne same]
    exact (accounted.tracked tenant).advance onward

theorem TenantBudgetPolicy.Accounted.spend_eq {state : BudgetState} {log : List BudgetRecord}
    (accounted : policy.Accounted state log) {now : Rat} (onward : state.now ≤ now) (tenant : String) :
    total Reservation.cost (policy.prune state.spend now tenant) = policy.windowSpend log tenant now := by
  rw [accounted.prune_eq onward, windowSpend]

theorem TenantBudgetPolicy.Accounted.unchanged {state : BudgetState} {log : List BudgetRecord}
    (accounted : policy.Accounted state log) {now : Rat} {spend : Spend} {record : BudgetRecord}
    (none : ∀ tenant, acceptedFor tenant [record] = [])
    (tracked : ∀ tenant, Tracks Reservation.time (policy.window : Rat) now (acceptedFor tenant log)
      (spend tenant))
    (justified : policy.Justified log record) : policy.Accounted ⟨now, spend⟩ (log ++ [record]) := by
  refine ⟨fun tenant => ?_, fun tenant => ?_, accounted.justified.snoc justified⟩
  · rw [acceptedFor_append, none, List.append_nil]
    exact tracked tenant
  · rw [acceptedFor_append, none, List.append_nil]
    exact accounted.nonneg tenant

theorem TenantBudgetPolicy.Accounted.accept {state : BudgetState} {log : List BudgetRecord}
    (accounted : policy.Accounted state log) {now cost : Rat} (onward : state.now ≤ now)
    {tenant : String} (nonneg : 0 ≤ cost)
    (justified : policy.Justified log (.accepted tenant ⟨now, cost⟩)) :
    policy.Accounted ⟨now, Function.update state.spend tenant
      (policy.prune state.spend now tenant ++ [⟨now, cost⟩])⟩ (log ++ [.accepted tenant ⟨now, cost⟩]) := by
  refine ⟨fun other => ?_, fun other => ?_, accounted.justified.snoc justified⟩
  · dsimp only
    rw [acceptedFor_append, acceptedFor_accepted]
    by_cases same : tenant = other
    · subst same
      rw [if_pos rfl, Function.update_self]
      exact ((accounted.tracked tenant).prune onward).accept policy.window_cast_pos rfl
    · rw [if_neg same, List.append_nil, Function.update_of_ne (Ne.symm same)]
      exact (accounted.tracked other).advance onward
  · rw [acceptedFor_append, acceptedFor_accepted]
    intro entry member
    rcases List.mem_append.mp member with before | last
    · exact accounted.nonneg other entry before
    · by_cases same : tenant = other
      · rw [if_pos same, List.mem_singleton] at last
        rw [last]
        exact nonneg
      · rw [if_neg same] at last
        cases last

theorem TenantBudgetPolicy.Accounted.call {state : BudgetState} {log : List BudgetRecord}
    (accounted : policy.Accounted state log) {now : Rat} (onward : state.now ≤ now) {call : BudgetCall}
    (nonneg : call.CostNonneg) :
    policy.Accounted ⟨now, (policy.answer state.spend now call).1⟩
      (log ++ [(policy.answer state.spend now call).2]) := by
  cases call with
  | spentGbp tenant =>
    refine accounted.unchanged (fun _ => rfl) (accounted.tracked_prune onward tenant) ?_
    simp only [answer, spentGbp, Justified, accounted.spend_eq onward]
  | checkAndReserve tenant cost =>
    have spent := accounted.spend_eq onward tenant
    rcases policy.checkAndReserve_cases state.spend now tenant cost with
      ⟨missing, result⟩ | ⟨ceiling, found, ⟨exceeded, result⟩ | ⟨fits, result⟩⟩
    · simp only [answer, result]
      refine accounted.unchanged (fun _ => rfl) (fun other => (accounted.tracked other).advance onward) ?_
      intro ceiling found
      rw [missing] at found
      cases found
    · simp only [answer, result]
      refine accounted.unchanged (fun _ => rfl) (accounted.tracked_prune onward tenant) ?_
      intro other same
      rw [found] at same
      cases same
      rwa [← spent]
    · simp only [answer, result]
      refine accounted.accept onward nonneg fun exceeds => ?_
      have exceeded := exceeds ceiling found
      rw [spent] at fits
      exact absurd exceeded (not_lt.mpr fits)

theorem TenantBudgetPolicy.run_accounted {start : Rat} {events : List BudgetEvent}
    {final : BudgetState} {log : List BudgetRecord}
    (nonneg : ∀ event ∈ events, event.call.CostNonneg)
    (ran : (policy.machine start).run events = some (final, log)) : policy.Accounted final log := by
  refine Machine.run_invariant_of_events ?_ ?_ nonneg ran
  · exact ⟨fun _ => Tracks.empty _ _, fun _ _ member => absurd member List.not_mem_nil, Throughout.nil _⟩
  · intro state log event next out accounted allowed stepped
    simp only [machine, Option.ite_none_left_eq_some, Option.some.injEq, Prod.mk.injEq] at stepped
    obtain ⟨onward, rfl, rfl⟩ := stepped
    exact accounted.call (not_lt.mp onward) allowed

theorem TenantBudgetPolicy.Accounted.advance {state : BudgetState} {log : List BudgetRecord}
    (accounted : policy.Accounted state log) {later : Rat} (onward : state.now ≤ later) :
    policy.Accounted ⟨later, state.spend⟩ log where
  tracked tenant := (accounted.tracked tenant).advance onward
  nonneg := accounted.nonneg
  justified := accounted.justified

/-- Whatever the history, no window holds more than the ceiling. -/
theorem TenantBudgetPolicy.Accounted.windowSpend_le {state : BudgetState} {log : List BudgetRecord}
    (accounted : policy.Accounted state log) {tenant : String} {ceiling : Rat}
    (found : policy.ceilingFor tenant = some ceiling) (t : Rat) :
    policy.windowSpend log tenant t ≤ ceiling := by
  refine window_total_le (policy.ceilingFor_positive found).le (accounted.tracked tenant).ordered
    (accounted.nonneg tenant) ?_ t
  refine Throughout.filterMap _ (accounted.justified.imp ?_)
  intro before record justified entry kept
  cases record with
  | accepted other reserved =>
    simp only [BudgetRecord.acceptedFor, Option.ite_none_right_eq_some, Option.some.injEq] at kept
    obtain ⟨rfl, rfl⟩ := kept
    by_contra exceeded
    refine justified fun other same => ?_
    rw [found] at same
    cases same
    exact not_le.mp exceeded
  | refused other reserved => cases kept
  | reported other now amount => cases kept

theorem TenantBudgetPolicy.Accounted.no_ceiling {state : BudgetState} {log : List BudgetRecord}
    (accounted : policy.Accounted state log) {tenant : String} (none : policy.ceilingFor tenant = none) :
    acceptedFor tenant log = [] := by
  rw [acceptedFor, List.filterMap_eq_nil_iff]
  intro record member
  obtain ⟨before, after, _, justified⟩ := accounted.justified.of_mem member
  cases record with
  | accepted other entry =>
    by_cases same : other = tenant
    · subst same
      refine absurd ?_ justified
      intro ceiling found
      rw [none] at found
      cases found
    · simp only [BudgetRecord.acceptedFor, if_neg same]
  | refused other entry => rfl
  | reported other now amount => rfl

/-- A refused call prunes the tenant's ledger at most, so no window that ends now or later sees a
    difference in any ledger. -/
theorem TenantBudgetPolicy.refused_inWindow_eq {state : BudgetState} {log : List BudgetRecord}
    (accounted : policy.Accounted state log) {now : Rat} (onward : state.now ≤ now) {tenant : String}
    {cost : Rat} {error : ModelBudgetExceeded} {after : Spend}
    (refused : policy.checkAndReserve state.spend now tenant cost = (.error error, after))
    (other : String) {t : Rat} (later : now ≤ t) :
    inWindow Reservation.time (policy.window : Rat) t (after other) =
      inWindow Reservation.time (policy.window : Rat) t (state.spend other) := by
  rw [(accounted.tracked other).inWindow_eq (onward.trans later)]
  rcases policy.checkAndReserve_cases state.spend now tenant cost with
    ⟨_, result⟩ | ⟨ceiling, _, ⟨_, result⟩ | ⟨_, result⟩⟩
  · rw [result] at refused
    cases refused
    exact (accounted.tracked other).inWindow_eq (onward.trans later)
  · rw [result] at refused
    cases refused
    exact (accounted.tracked_prune onward tenant other).inWindow_eq later
  · rw [result] at refused
    cases refused

theorem TenantBudgetPolicy.Accounted.refused_iff {state : BudgetState} {log : List BudgetRecord}
    (accounted : policy.Accounted state log) {now : Rat} (onward : state.now ≤ now) (tenant : String)
    (cost : Rat) :
    (∃ error, (policy.checkAndReserve state.spend now tenant cost).1 = .error error) ↔
      policy.Exceeds log tenant ⟨now, cost⟩ := by
  have spent := accounted.spend_eq onward tenant
  rcases policy.checkAndReserve_cases state.spend now tenant cost with
    ⟨missing, result⟩ | ⟨ceiling, found, ⟨exceeded, result⟩ | ⟨fits, result⟩⟩
  · rw [result]
    refine ⟨fun _ ceiling found => ?_, fun _ => ⟨_, rfl⟩⟩
    rw [missing] at found
    cases found
  · rw [result]
    refine ⟨fun _ other same => ?_, fun _ => ⟨_, rfl⟩⟩
    rw [found] at same
    cases same
    rwa [← spent]
  · rw [result]
    constructor
    · rintro ⟨error, same⟩
      cases same
    · intro exceeds
      have exceeded := exceeds ceiling found
      rw [spent] at fits
      exact absurd exceeded (not_lt.mpr fits)

end

/-- The rolling ceiling, at a state of the policy with the calls answered so far. -/
structure TenantBudgetPolicy.HoldsCeilings (policy : TenantBudgetPolicy) (state : BudgetState)
    (log : List BudgetRecord) : Prop where
  bounded : ∀ tenant ceiling, policy.ceilingFor tenant = some ceiling →
    ∀ t, policy.windowSpend log tenant t ≤ ceiling
  unfunded : ∀ tenant, policy.ceilingFor tenant = none → acceptedFor tenant log = []
  justified : Throughout policy.Justified log
  refused_iff : ∀ now tenant cost, state.now ≤ now →
    ((∃ error, (policy.checkAndReserve state.spend now tenant cost).1 = .error error) ↔
      policy.Exceeds log tenant ⟨now, cost⟩)
  refused_unchanged : ∀ now tenant cost error after, state.now ≤ now →
    policy.checkAndReserve state.spend now tenant cost = (.error error, after) →
    ∀ other t, now ≤ t →
      inWindow Reservation.time (policy.window : Rat) t (after other) =
        inWindow Reservation.time (policy.window : Rat) t (state.spend other)

/-- Every run of calls with non-negative costs keeps every rolling ceiling. -/
theorem TenantBudgetPolicy.run_holdsCeilings (policy : TenantBudgetPolicy) (start : Rat)
    (events : List BudgetEvent) (nonneg : ∀ event ∈ events, event.call.CostNonneg)
    (final : BudgetState) (log : List BudgetRecord)
    (ran : (policy.machine start).run events = some (final, log)) : policy.HoldsCeilings final log := by
  have accounted := run_accounted nonneg ran
  exact
    { bounded := fun _ _ found t => accounted.windowSpend_le found t
      unfunded := fun _ missing => accounted.no_ceiling missing
      justified := accounted.justified
      refused_iff := fun _ tenant cost onward => accounted.refused_iff onward tenant cost
      refused_unchanged := fun _ _ _ _ _ onward refused other _ later =>
        refused_inWindow_eq accounted onward refused other later }

def singleTenantPolicy : TenantBudgetPolicy where
  ceilings := [("payment-disputes", 5)]
  defaultCeiling := none
  window := 10
  configured := by decide
  ceilings_positive := by simp
  default_positive := no_default_positive
  window_positive := by decide

/-- A reservation, a refusal, a read at the edge of the window and a second reservation. -/
def boundaryCalls : List BudgetEvent :=
  [⟨0, .checkAndReserve "payment-disputes" 4⟩, ⟨1, .checkAndReserve "payment-disputes" 2⟩,
    ⟨10, .spentGbp "payment-disputes"⟩, ⟨10, .checkAndReserve "payment-disputes" 5⟩]

theorem boundaryCalls_holdCeilings : ∃ final log,
    (singleTenantPolicy.machine 0).run boundaryCalls = some (final, log) ∧
      log = [.accepted "payment-disputes" ⟨0, 4⟩, .refused "payment-disputes" ⟨1, 2⟩,
        .reported "payment-disputes" 10 0, .accepted "payment-disputes" ⟨10, 5⟩] ∧
      singleTenantPolicy.HoldsCeilings final log := by
  have ran : (singleTenantPolicy.machine 0).run boundaryCalls = some
      (((singleTenantPolicy.machine 0).run boundaryCalls).get (by decide +kernel)) := by
    rw [Option.some_get]
  refine ⟨_, _, ran, by decide +kernel, ?_⟩
  refine singleTenantPolicy.run_holdsCeilings 0 boundaryCalls ?_ _ _ ran
  simp [boundaryCalls, BudgetCall.CostNonneg]

end AgentPlatform.ModelGateway
