import Mathlib.Algebra.Order.Floor.Defs
import Mathlib.Algebra.Order.Round
import Mathlib.Algebra.Order.Field.Power
import Mathlib.Algebra.Ring.Int.Parity
import Mathlib.Data.Rat.Floor
import Mathlib.Tactic.Linarith
import Mathlib.Tactic.Positivity

/-! # Decimal rounding

To the nearest multiple, ties to the even one, on exact numbers. -/

namespace Python

def roundHalfEven (x : Rat) : Int :=
  let low := ⌊x⌋
  if x - low < 1 / 2 then low
  else if 1 / 2 < x - low then low + 1
  else if low % 2 = 0 then low else low + 1

theorem roundHalfEven_bounds (x : Rat) :
    ⌊x⌋ ≤ roundHalfEven x ∧ roundHalfEven x ≤ ⌊x⌋ + 1 := by
  simp only [roundHalfEven]
  split
  · omega
  · split
    · omega
    · split <;> omega

theorem roundHalfEven_mono {x y : Rat} (less : x ≤ y) : roundHalfEven x ≤ roundHalfEven y := by
  rcases (Int.floor_mono less).lt_or_eq with apart | same
  · have upper := (roundHalfEven_bounds x).2
    have lower := (roundHalfEven_bounds y).1
    omega
  · simp only [roundHalfEven, same]
    have rest : x - ⌊y⌋ ≤ y - ⌊y⌋ := by linarith
    split
    · split
      · omega
      · split
        · omega
        · split <;> omega
    · rename_i large
      have large' : ¬ y - ⌊y⌋ < 1 / 2 := by linarith
      by_cases above : 1 / 2 < x - ⌊y⌋
      · have above' : 1 / 2 < y - ⌊y⌋ := by linarith
        simp only [if_neg large', if_pos above, if_pos above', le_refl]
      · simp only [if_neg large', if_neg above]
        split <;> split <;> omega

theorem roundHalfEven_eq_succ_iff {x : Rat} :
    roundHalfEven x = ⌊x⌋ + 1 ↔ 1 / 2 < x - ⌊x⌋ ∨ (1 / 2 = x - ⌊x⌋ ∧ ¬ Even ⌊x⌋) := by
  rw [Int.even_iff]
  simp only [roundHalfEven]
  rcases lt_trichotomy (x - ⌊x⌋) (1 / 2) with low | half | high
  · simp only [if_pos low, low.not_gt, low.ne', false_and, or_false, iff_false]
    omega
  · simp only [half, lt_irrefl, if_false, false_or, true_and]
    split <;> omega
  · simp only [if_neg high.not_gt, high, true_or, if_true]

theorem le_roundHalfEven_iff {n : Int} {x : Rat} :
    n ≤ roundHalfEven x ↔ (n - 1 / 2 : Rat) < x ∨ ((n - 1 / 2 : Rat) = x ∧ Even n) := by
  obtain ⟨lower, upper⟩ := roundHalfEven_bounds x
  have low := Int.floor_le x
  have high := Int.lt_floor_add_one x
  rcases lt_trichotomy n (⌊x⌋ + 1) with small | rfl | large
  · have reached : n ≤ ⌊x⌋ := by omega
    have cast : (n : Rat) ≤ ⌊x⌋ := Int.cast_le.mpr reached
    have above : (n - 1 / 2 : Rat) < x := by linarith
    exact iff_of_true (reached.trans lower) (.inl above)
  · have next : ⌊x⌋ + 1 ≤ roundHalfEven x ↔ roundHalfEven x = ⌊x⌋ + 1 := by omega
    rw [next, roundHalfEven_eq_succ_iff, Int.even_add_one]
    push_cast
    have strict : (⌊x⌋ + 1 - 1 / 2 : Rat) < x ↔ 1 / 2 < x - ⌊x⌋ := by constructor <;> intro <;> linarith
    have tie : (⌊x⌋ + 1 - 1 / 2 : Rat) = x ↔ 1 / 2 = x - ⌊x⌋ := by constructor <;> intro <;> linarith
    rw [strict, tie]
  · have cast : (⌊x⌋ + 2 : Rat) ≤ n := by exact_mod_cast (by omega : ⌊x⌋ + 2 ≤ n)
    have missed : ¬ n ≤ roundHalfEven x := by omega
    refine iff_of_false missed ?_
    rintro (above | ⟨tie, -⟩) <;> linarith

@[simp] theorem roundHalfEven_intCast (n : Int) : roundHalfEven n = n := by
  simp [roundHalfEven]

theorem roundHalfEven_nonneg {x : Rat} (nonneg : 0 ≤ x) : 0 ≤ roundHalfEven x := by
  have rounded := roundHalfEven_mono nonneg
  have whole := roundHalfEven_intCast 0
  rw [Int.cast_zero] at whole
  rwa [whole] at rounded

/-- An exact number to so many decimals. -/
def roundTo (digits : Nat) (x : Rat) : Rat := roundHalfEven (x * 10 ^ digits) / 10 ^ digits

theorem roundTo_mono (digits : Nat) {x y : Rat} (less : x ≤ y) :
    roundTo digits x ≤ roundTo digits y := by
  have scale : (0 : Rat) < 10 ^ digits := by positivity
  unfold roundTo
  rw [div_le_div_iff_of_pos_right scale, Int.cast_le]
  exact roundHalfEven_mono (mul_le_mul_of_nonneg_right less scale.le)

@[simp] theorem roundTo_zero (digits : Nat) : roundTo digits 0 = 0 := by
  have whole := roundHalfEven_intCast 0
  rw [Int.cast_zero] at whole
  simp [roundTo, whole]

theorem roundTo_nonneg (digits : Nat) {x : Rat} (nonneg : 0 ≤ x) : 0 ≤ roundTo digits x := by
  simpa using roundTo_mono digits nonneg

end Python
