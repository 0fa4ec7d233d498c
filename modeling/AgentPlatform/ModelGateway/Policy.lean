import AgentPlatform.Base.Machine
import AgentPlatform.Base.Rounding
import AgentPlatform.Base.SlidingWindow
import Mathlib.Data.Finset.Basic

namespace AgentPlatform.ModelGateway

open Python SlidingWindow

structure ModelAllowlist where
  allowed : Finset String
  nonempty : allowed.Nonempty

/-- `ModelNotAllowed`, raised for a model outside the allowlist. -/
structure ModelNotAllowed where
  model : String
deriving DecidableEq, Repr

def ModelNotAllowed.message (error : ModelNotAllowed) : String :=
  "Model '" ++ error.model ++ "' is not on the governed allowlist"

def ModelAllowlist.check (allowlist : ModelAllowlist) (model : String) : Except ModelNotAllowed Unit :=
  if model ∈ allowlist.allowed then .ok () else .error ⟨model⟩

/-- The window and the ceilings of a policy, as the constructor leaves them. -/
structure TenantBudgetPolicy where
  ceilings : List (String × Rat)
  defaultCeiling : Option Rat
  window : Int
  configured : ceilings ≠ [] ∨ defaultCeiling ≠ none
  ceilings_positive : ∀ entry ∈ ceilings, 0 < entry.2
  default_positive : ∀ ceiling ∈ defaultCeiling, 0 < ceiling
  window_positive : 0 < window

theorem no_default_positive : ∀ ceiling ∈ (none : Option Rat), 0 < ceiling := by simp

/-- The `ValueError` texts of the constructor. -/
inductive BudgetConfigurationError where
  | unconfigured
  | ceilingNotPositive
  | defaultNotPositive
  | windowNotPositive
deriving DecidableEq, Repr

def BudgetConfigurationError.message : BudgetConfigurationError → String
  | .unconfigured => "At least one of ceilings or default_ceiling_gbp is required"
  | .ceilingNotPositive => "Every ceiling must be positive"
  | .defaultNotPositive => "default_ceiling_gbp must be positive"
  | .windowNotPositive => "window_seconds must be positive"

def TenantBudgetPolicy.make (ceilings : List (String × Rat)) (defaultCeiling : Option Rat)
    (window : Int) : Except BudgetConfigurationError TenantBudgetPolicy :=
  if configured : ceilings ≠ [] ∨ defaultCeiling ≠ none then
    if positive : ∀ entry ∈ ceilings, 0 < entry.2 then
      if default : ∀ ceiling ∈ defaultCeiling, 0 < ceiling then
        if length : 0 < window then
          .ok ⟨ceilings, defaultCeiling, window, configured, positive, default, length⟩
        else .error .windowNotPositive
      else .error .defaultNotPositive
    else .error .ceilingNotPositive
  else .error .unconfigured

inductive ModelBudgetExceeded where
  | noCeiling (tenant : String)
  | wouldExceed (tenant : String) (ceiling : Rat)
deriving DecidableEq

def TenantBudgetPolicy.ceilingFor (policy : TenantBudgetPolicy) (tenant : String) : Option Rat :=
  (policy.ceilings.lookup tenant).or policy.defaultCeiling

theorem TenantBudgetPolicy.ceilingFor_positive {policy : TenantBudgetPolicy} {tenant : String}
    {ceiling : Rat} (found : policy.ceilingFor tenant = some ceiling) : 0 < ceiling := by
  rcases Option.or_eq_some_iff.mp found with own | ⟨_, fallback⟩
  · obtain ⟨before, after, split, _⟩ := List.lookup_eq_some_iff.mp own
    exact policy.ceilings_positive (tenant, ceiling) (by rw [split]; simp)
  · exact policy.default_positive ceiling (by simp [fallback])

structure Reservation where
  time : Rat
  cost : Rat
deriving DecidableEq, Repr

/-- `defaultdict(deque)`: the ledger of each tenant. -/
abbrev Spend := String → List Reservation

def TenantBudgetPolicy.prune (policy : TenantBudgetPolicy) (spend : Spend) (now : Rat)
    (tenant : String) : List Reservation :=
  expire Reservation.time (now - policy.window) (spend tenant)

/-- The outcome and the ledgers after the call. -/
def TenantBudgetPolicy.checkAndReserve (policy : TenantBudgetPolicy) (spend : Spend) (now : Rat)
    (tenant : String) (cost : Rat) : Except ModelBudgetExceeded Unit × Spend :=
  match policy.ceilingFor tenant with
  | none => (.error (.noCeiling tenant), spend)
  | some ceiling =>
    let ledger := policy.prune spend now tenant
    if ceiling < total Reservation.cost ledger + cost then
      (.error (.wouldExceed tenant ceiling), Function.update spend tenant ledger)
    else
      (.ok (), Function.update spend tenant (ledger ++ [⟨now, cost⟩]))

def TenantBudgetPolicy.spentGbp (policy : TenantBudgetPolicy) (spend : Spend) (now : Rat)
    (tenant : String) : Rat × Spend :=
  let ledger := policy.prune spend now tenant
  (roundTo 8 (total Reservation.cost ledger), Function.update spend tenant ledger)

/-- What a reservation attempt can do: nothing without a ceiling; else prune the tenant's ledger,
    and add the reservation when it fits. -/
theorem TenantBudgetPolicy.checkAndReserve_cases (policy : TenantBudgetPolicy) (spend : Spend)
    (now : Rat) (tenant : String) (cost : Rat) :
    (policy.ceilingFor tenant = none ∧
      policy.checkAndReserve spend now tenant cost = (.error (.noCeiling tenant), spend)) ∨
    ∃ ceiling, policy.ceilingFor tenant = some ceiling ∧
      ((ceiling < total Reservation.cost (policy.prune spend now tenant) + cost ∧
        policy.checkAndReserve spend now tenant cost = (.error (.wouldExceed tenant ceiling),
          Function.update spend tenant (policy.prune spend now tenant))) ∨
      (total Reservation.cost (policy.prune spend now tenant) + cost ≤ ceiling ∧
        policy.checkAndReserve spend now tenant cost = (.ok (),
          Function.update spend tenant (policy.prune spend now tenant ++ [⟨now, cost⟩])))) := by
  cases found : policy.ceilingFor tenant with
  | none =>
    left
    exact ⟨rfl, by simp only [TenantBudgetPolicy.checkAndReserve, found]⟩
  | some ceiling =>
    right
    refine ⟨ceiling, rfl, ?_⟩
    by_cases exceeded : ceiling < total Reservation.cost (policy.prune spend now tenant) + cost
    · exact .inl ⟨exceeded, by simp only [TenantBudgetPolicy.checkAndReserve, found, if_pos exceeded]⟩
    · exact .inr ⟨not_lt.mp exceeded, by simp only [TenantBudgetPolicy.checkAndReserve, found, if_neg exceeded]⟩

theorem TenantBudgetPolicy.refused_suffix {policy : TenantBudgetPolicy} {spend after : Spend}
    {now cost : Rat} {tenant : String} {error : ModelBudgetExceeded}
    (refused : policy.checkAndReserve spend now tenant cost = (.error error, after)) (other : String) :
    after other <:+ spend other := by
  rcases policy.checkAndReserve_cases spend now tenant cost with
    ⟨_, result⟩ | ⟨ceiling, _, ⟨_, result⟩ | ⟨_, result⟩⟩
  · rw [result] at refused
    cases refused
    exact List.suffix_rfl
  · rw [result] at refused
    cases refused
    by_cases same : other = tenant
    · subst same
      rw [Function.update_self]
      exact List.dropWhile_suffix _
    · rw [Function.update_of_ne same]
  · rw [result] at refused
    cases refused

end AgentPlatform.ModelGateway
