import AgentPlatform.Base.Rounding
import AgentPlatform.ModelGateway.Contracts

namespace AgentPlatform.ModelGateway

open Python

structure ModelPrice where
  promptPricePer1kGbp : Rat
  completionPricePer1kGbp : Rat

structure PricingTable where
  prices : List (String × ModelPrice)

/-- An unpriced model is charged a fallback price, never nothing. -/
def PricingTable.priceOf (table : PricingTable) (model : String) : ModelPrice :=
  (table.prices.lookup model).getD ⟨1 / 1000, 2 / 1000⟩

def ModelPrice.rawCost (price : ModelPrice) (usage : TokenUsage) : Rat :=
  (usage.promptTokens : Rat) / 1000 * price.promptPricePer1kGbp +
    (usage.completionTokens : Rat) / 1000 * price.completionPricePer1kGbp

def PricingTable.estimateCostGbp (table : PricingTable) (model : String) (usage : TokenUsage) : Rat :=
  roundTo 8 ((table.priceOf model).rawCost usage)

def PricingTable.Nonneg (table : PricingTable) : Prop :=
  ∀ entry ∈ table.prices, 0 ≤ entry.2.promptPricePer1kGbp ∧ 0 ≤ entry.2.completionPricePer1kGbp

theorem PricingTable.Nonneg.priceOf {table : PricingTable} (nonneg : table.Nonneg) (model : String) :
    0 ≤ (table.priceOf model).promptPricePer1kGbp ∧
      0 ≤ (table.priceOf model).completionPricePer1kGbp := by
  unfold PricingTable.priceOf
  cases found : table.prices.lookup model with
  | none => exact ⟨by norm_num, by norm_num⟩
  | some price =>
    obtain ⟨before, after, split, _⟩ := List.lookup_eq_some_iff.mp found
    exact nonneg (model, price) (by rw [split]; simp)

theorem ModelPrice.rawCost_mono {price : ModelPrice} (nonneg : 0 ≤ price.promptPricePer1kGbp ∧
    0 ≤ price.completionPricePer1kGbp) {less more : TokenUsage}
    (prompt : less.promptTokens ≤ more.promptTokens)
    (completion : less.completionTokens ≤ more.completionTokens) :
    price.rawCost less ≤ price.rawCost more := by
  have first : (less.promptTokens : Rat) ≤ more.promptTokens := by exact_mod_cast prompt
  have second : (less.completionTokens : Rat) ≤ more.completionTokens := by exact_mod_cast completion
  unfold ModelPrice.rawCost
  exact add_le_add
    (mul_le_mul_of_nonneg_right (div_le_div_of_nonneg_right first (by norm_num)) nonneg.1)
    (mul_le_mul_of_nonneg_right (div_le_div_of_nonneg_right second (by norm_num)) nonneg.2)

theorem PricingTable.estimateCostGbp_mono {table : PricingTable} (nonneg : table.Nonneg)
    (model : String) {less more : TokenUsage} (prompt : less.promptTokens ≤ more.promptTokens)
    (completion : less.completionTokens ≤ more.completionTokens) :
    table.estimateCostGbp model less ≤ table.estimateCostGbp model more :=
  roundTo_mono 8 (ModelPrice.rawCost_mono (nonneg.priceOf model) prompt completion)

theorem PricingTable.estimateCostGbp_nonneg {table : PricingTable} (nonneg : table.Nonneg)
    (model : String) (usage : TokenUsage) : 0 ≤ table.estimateCostGbp model usage := by
  apply roundTo_nonneg
  obtain ⟨prompt, completion⟩ := nonneg.priceOf model
  unfold ModelPrice.rawCost
  positivity

end AgentPlatform.ModelGateway
