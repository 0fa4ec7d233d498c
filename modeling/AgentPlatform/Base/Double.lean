import AgentPlatform.Base.Rounding
import Mathlib.Data.Int.Log

/-! # Doubles

The float of Python: the rationals of 53 binary places between the infinities, and no number. Operations are exact and
then rounded to the nearest double, ties to the even one; both zeros are one. -/

namespace Python

/-! ## The nearest double -/

/-- The exponent of the last binary place of a double near a positive number. -/
def lastPlace (x : Rat) : Int := max (Int.log 2 x - 52) (-1074)

def unitAt (x : Rat) : Rat := 2 ^ lastPlace x

def toPlaces (x : Rat) : Rat := roundHalfEven (x / unitAt x) * unitAt x

/-- The nearest double, without a bound on its size. -/
def nearest (x : Rat) : Rat := if x < 0 then -toPlaces (-x) else toPlaces x

section

variable {x y : Rat}

theorem unitAt_pos (x : Rat) : 0 < unitAt x := zpow_pos two_pos _

theorem toPlaces_zero : toPlaces 0 = 0 := by
  have whole := roundHalfEven_intCast 0
  rw [Int.cast_zero] at whole
  rw [toPlaces, zero_div, whole, Int.cast_zero, zero_mul]

theorem toPlaces_nonneg (nonneg : 0 ≤ x) : 0 ≤ toPlaces x := by
  have scaled : 0 ≤ x / unitAt x := div_nonneg nonneg (unitAt_pos x).le
  exact mul_nonneg (Int.cast_nonneg (roundHalfEven_nonneg scaled)) (unitAt_pos x).le

theorem div_unitAt_lt (x : Rat) : x / unitAt x < 2 ^ 53 := by
  rw [div_lt_iff₀ (unitAt_pos x)]
  have above := Int.lt_zpow_succ_log_self (b := 2) Nat.one_lt_two x
  have place : Int.log 2 x + 1 ≤ 53 + lastPlace x := by
    have := le_max_left (Int.log 2 x - 52) (-1074)
    unfold lastPlace
    omega
  calc x < (2 : Rat) ^ (Int.log 2 x + 1) := by exact_mod_cast above
    _ ≤ (2 : Rat) ^ (53 + lastPlace x) := zpow_le_zpow_right₀ one_le_two place
    _ = 2 ^ 53 * unitAt x := by rw [zpow_add₀ two_ne_zero]; rfl

/-- Above the least place a double has all of its 53 places. -/
theorem le_div_unitAt (positive : 0 < x) (normal : -1074 < lastPlace x) : 2 ^ 52 ≤ x / unitAt x := by
  rw [le_div_iff₀ (unitAt_pos x)]
  have below := Int.zpow_log_le_self (b := 2) Nat.one_lt_two positive
  have place : 52 + lastPlace x = Int.log 2 x := by
    unfold lastPlace at normal ⊢
    omega
  calc (2 : Rat) ^ 52 * unitAt x = (2 : Rat) ^ (52 + lastPlace x) := by rw [zpow_add₀ two_ne_zero]; rfl
    _ = (2 : Rat) ^ Int.log 2 x := by rw [place]
    _ ≤ x := by exact_mod_cast below

theorem lastPlace_mono (positive : 0 < x) (less : x ≤ y) : lastPlace x ≤ lastPlace y := by
  have logs := Int.log_mono_right (b := 2) positive less
  unfold lastPlace
  omega

theorem unitAt_lt (lower : lastPlace x < lastPlace y) : 2 ^ 53 * unitAt x ≤ 2 ^ 52 * unitAt y := by
  calc 2 ^ 53 * unitAt x = (2 : Rat) ^ (53 + lastPlace x) := by rw [zpow_add₀ two_ne_zero]; rfl
    _ ≤ (2 : Rat) ^ (52 + lastPlace y) := zpow_le_zpow_right₀ one_le_two (by omega)
    _ = 2 ^ 52 * unitAt y := by rw [zpow_add₀ two_ne_zero]; rfl

theorem toPlaces_le (x : Rat) : toPlaces x ≤ 2 ^ 53 * unitAt x := by
  have bound : (x / unitAt x : Rat) ≤ ((2 ^ 53 : Int) : Rat) := by exact_mod_cast (div_unitAt_lt x).le
  have rounded := roundHalfEven_mono bound
  rw [roundHalfEven_intCast] at rounded
  exact mul_le_mul_of_nonneg_right (by exact_mod_cast rounded) (unitAt_pos x).le

theorem le_toPlaces (positive : 0 < x) (normal : -1074 < lastPlace x) : 2 ^ 52 * unitAt x ≤ toPlaces x := by
  have bound : ((2 ^ 52 : Int) : Rat) ≤ x / unitAt x := by exact_mod_cast le_div_unitAt positive normal
  have rounded := roundHalfEven_mono bound
  rw [roundHalfEven_intCast] at rounded
  exact mul_le_mul_of_nonneg_right (by exact_mod_cast rounded) (unitAt_pos x).le

theorem toPlaces_mono (nonneg : 0 ≤ x) (less : x ≤ y) : toPlaces x ≤ toPlaces y := by
  rcases nonneg.eq_or_lt with rfl | positive
  · rw [toPlaces_zero]
    exact toPlaces_nonneg less
  · rcases (lastPlace_mono positive less).eq_or_lt with same | lower
    · have units : unitAt x = unitAt y := by rw [unitAt, unitAt, same]
      have scaled : x / unitAt x ≤ y / unitAt x := div_le_div_of_nonneg_right less (unitAt_pos x).le
      rw [toPlaces, toPlaces, ← units]
      exact mul_le_mul_of_nonneg_right (by exact_mod_cast roundHalfEven_mono scaled) (unitAt_pos x).le
    · have normal : -1074 < lastPlace y := (le_max_right _ _).trans_lt lower
      calc toPlaces x ≤ 2 ^ 53 * unitAt x := toPlaces_le x
        _ ≤ 2 ^ 52 * unitAt y := unitAt_lt lower
        _ ≤ toPlaces y := le_toPlaces (positive.trans_le less) normal

theorem toPlaces_of_whole {n : Int} (whole : x = n * unitAt x) : toPlaces x = x := by
  have scaled : x / unitAt x = n := by rw [div_eq_iff (unitAt_pos x).ne', ← whole]
  rw [toPlaces, scaled, roundHalfEven_intCast, ← whole]

/-- A multiple of a power of two, of at most 53 places, is a double. -/
theorem toPlaces_of_places {n : Nat} {place : Int} (least : -1074 ≤ place) (few : n ≤ 2 ^ 53) :
    toPlaces (n * 2 ^ place) = n * 2 ^ place := by
  rcases Nat.eq_zero_or_pos n with rfl | positive
  · rw [Nat.cast_zero, zero_mul, toPlaces_zero]
  · have some : (0 : Rat) < n * 2 ^ place := mul_pos (Nat.cast_pos.mpr positive) (zpow_pos two_pos _)
    rcases few.eq_or_lt with rfl | fewer
    · have value : ((2 ^ 53 : Nat) : Rat) * 2 ^ place = 2 ^ (place + 53) := by
        rw [zpow_add₀ two_ne_zero, mul_comm]
        norm_num
      have log : Int.log 2 (((2 ^ 53 : Nat) : Rat) * 2 ^ place) = place + 53 := by
        rw [value]
        exact_mod_cast Int.log_zpow (R := Rat) Nat.one_lt_two (place + 53)
      apply toPlaces_of_whole (n := 2 ^ 52)
      have last : lastPlace (((2 ^ 53 : Nat) : Rat) * 2 ^ place) = place + 1 := by
        unfold lastPlace
        omega
      rw [unitAt, last, zpow_add₀ two_ne_zero]
      norm_num
      ring
    · have short : Int.log 2 ((n : Rat) * 2 ^ place) < place + 53 := by
        apply (Int.lt_zpow_iff_log_lt Nat.one_lt_two some).mp
        have cast : (n : Rat) < 2 ^ 53 := by exact_mod_cast fewer
        push_cast
        rw [add_comm, zpow_add₀ two_ne_zero]
        exact mul_lt_mul_of_pos_right cast (zpow_pos two_pos _)
      have last : lastPlace ((n : Rat) * 2 ^ place) ≤ place := by
        unfold lastPlace
        omega
      obtain ⟨more, reached⟩ := Int.le.dest last
      apply toPlaces_of_whole (n := n * 2 ^ more)
      have split : (2 : Rat) ^ place = 2 ^ more * unitAt ((n : Rat) * 2 ^ place) := by
        rw [unitAt, ← zpow_natCast, ← zpow_add₀ two_ne_zero, add_comm (more : Int), reached]
      push_cast
      rw [mul_assoc, ← split]

theorem toPlaces_toPlaces (nonneg : 0 ≤ x) : toPlaces (toPlaces x) = toPlaces x := by
  rcases nonneg.eq_or_lt with rfl | positive
  · rw [toPlaces_zero, toPlaces_zero]
  · have low : 0 ≤ roundHalfEven (x / unitAt x) := by
      have scaled : ((0 : Int) : Rat) ≤ x / unitAt x := by
        rw [Int.cast_zero]
        exact div_nonneg nonneg (unitAt_pos x).le
      have rounded := roundHalfEven_mono scaled
      rwa [roundHalfEven_intCast] at rounded
    have high : roundHalfEven (x / unitAt x) ≤ 2 ^ 53 := by
      have bound : (x / unitAt x : Rat) ≤ ((2 ^ 53 : Int) : Rat) := by exact_mod_cast (div_unitAt_lt x).le
      have rounded := roundHalfEven_mono bound
      rwa [roundHalfEven_intCast] at rounded
    obtain ⟨n, same⟩ := Int.eq_ofNat_of_zero_le low
    have written : toPlaces x = n * 2 ^ lastPlace x := by
      rw [toPlaces, same]
      rfl
    rw [written]
    exact toPlaces_of_places (le_max_right _ _) (by rw [same] at high; exact_mod_cast high)

theorem nearest_of_nonneg (nonneg : 0 ≤ x) : nearest x = toPlaces x := if_neg nonneg.not_gt

theorem nearest_neg (x : Rat) : nearest (-x) = -nearest x := by
  rcases lt_trichotomy x 0 with negative | rfl | positive
  · rw [nearest, nearest, if_neg (by linarith), if_pos negative, neg_neg]
  · rw [neg_zero, nearest_of_nonneg le_rfl, toPlaces_zero, neg_zero]
  · rw [nearest, nearest, if_pos (by linarith), if_neg positive.le.not_gt, neg_neg]

theorem nearest_nearest (x : Rat) : nearest (nearest x) = nearest x := by
  rcases le_total 0 x with nonneg | nonpos
  · rw [nearest_of_nonneg nonneg, nearest_of_nonneg (toPlaces_nonneg nonneg), toPlaces_toPlaces nonneg]
  · obtain ⟨y, rfl⟩ : ∃ y, x = -y := ⟨-x, (neg_neg x).symm⟩
    have nonneg : 0 ≤ y := by linarith
    rw [nearest_neg, nearest_neg, nearest_of_nonneg nonneg, nearest_of_nonneg (toPlaces_nonneg nonneg),
      toPlaces_toPlaces nonneg]

theorem nearest_mono (nonneg : 0 ≤ x) (less : x ≤ y) : nearest x ≤ nearest y := by
  rw [nearest_of_nonneg nonneg, nearest_of_nonneg (nonneg.trans less)]
  exact toPlaces_mono nonneg less

theorem nearest_natCast {n : Nat} (few : n ≤ 2 ^ 53) : nearest n = n := by
  have whole := @toPlaces_of_places n 0 (by omega) few
  rw [zpow_zero, mul_one] at whole
  rw [nearest_of_nonneg (Nat.cast_nonneg n), whole]

end

/-- `round(x, digits)` of a double. -/
def roundDouble (digits : Nat) (x : Rat) : Rat := nearest (roundTo digits x)

theorem roundDouble_mono (digits : Nat) {x y : Rat} (nonneg : 0 ≤ x) (less : x ≤ y) :
    roundDouble digits x ≤ roundDouble digits y :=
  nearest_mono (roundTo_nonneg digits nonneg) (roundTo_mono digits less)

/-! ## Thresholds -/

/-- The first double past a number, which may count itself, in last places. -/
def firstPast (t : Rat) (included : Bool) : Int := if included then ⌈t / unitAt t⌉ else ⌊t / unitAt t⌋ + 1

/-- Half way to the first double past a number from the double before. -/
def turn (t : Rat) (included : Bool) : Rat := (firstPast t included - 1 / 2) * unitAt t

section

variable {t x : Rat} {included : Bool}

theorem firstPast_le_iff {n : Int} : firstPast t included ≤ n ↔
    t / unitAt t < n ∨ included = true ∧ t / unitAt t = n := by
  cases included with
  | false =>
    rw [firstPast, if_neg Bool.false_ne_true, Int.add_one_le_iff, Int.floor_lt]
    simp
  | true => rw [firstPast, if_pos rfl, Int.ceil_le, le_iff_lt_or_eq, eq_self_iff_true, true_and]

theorem firstPast_le (t : Rat) (included : Bool) : firstPast t included ≤ 2 ^ 53 := by
  rw [firstPast_le_iff]
  left
  exact_mod_cast div_unitAt_lt t

theorem firstPast_pos (positive : 0 < t) : 1 ≤ firstPast t included := by
  by_contra none
  have low : firstPast t included ≤ 0 := by omega
  have scaled := div_pos positive (unitAt_pos t)
  rcases firstPast_le_iff.mp low with below | ⟨-, same⟩
  · exact below.not_gt (by exact_mod_cast scaled)
  · exact scaled.ne' (by exact_mod_cast same)

theorem turn_lt_iff : turn t included < x ↔ (firstPast t included - 1 / 2 : Rat) < x / unitAt t := by
  rw [turn, lt_div_iff₀ (unitAt_pos t)]

theorem turn_eq_iff : turn t included = x ↔ (firstPast t included - 1 / 2 : Rat) = x / unitAt t := by
  rw [turn, eq_div_iff (unitAt_pos t).ne']

/-- Below the threshold's power of two a number neither rounds past it nor reaches the turn. -/
theorem short_of_lower (positive : 0 < t) (apart : included = true → t ≠ 2 ^ 52 * unitAt t)
    (lower : lastPlace x < lastPlace t) :
    toPlaces x ≤ t ∧ (included = true → t ≠ toPlaces x) ∧ x / unitAt t < firstPast t included - 1 / 2 := by
  have units := unitAt_lt lower
  have places := le_div_unitAt positive ((le_max_right _ _).trans_lt lower)
  have reached : 2 ^ 52 * unitAt t ≤ t := (le_div_iff₀ (unitAt_pos t)).mp places
  have rounded := toPlaces_le x
  have quotient : x / unitAt t < 2 ^ 52 := by
    have small := (div_lt_iff₀ (unitAt_pos x)).mp (div_unitAt_lt x)
    rw [div_lt_iff₀ (unitAt_pos t)]
    linarith
  have many : (2 ^ 52 + 1 : Rat) ≤ firstPast t included := by
    have more : (2 ^ 52 : Int) < firstPast t included := by
      rw [← not_le, firstPast_le_iff]
      push_cast
      rintro (less | ⟨counted, same⟩)
      · linarith
      · exact apart counted ((div_eq_iff (unitAt_pos t).ne').mp same)
    exact_mod_cast Int.add_one_le_iff.mpr more
  exact ⟨by linarith, fun counted same => apart counted (by linarith), by linarith⟩

/-- Above the threshold's power of two a number does both. -/
theorem past_of_higher (some : 0 < x) (higher : lastPlace t < lastPlace x) :
    t < toPlaces x ∧ (firstPast t included - 1 / 2 : Rat) < x / unitAt t := by
  have normal : -1074 < lastPlace x := (le_max_right _ _).trans_lt higher
  have units := unitAt_lt higher
  have small := (div_lt_iff₀ (unitAt_pos t)).mp (div_unitAt_lt t)
  have rounded := le_toPlaces some normal
  have few : (firstPast t included : Rat) ≤ 2 ^ 53 := by exact_mod_cast firstPast_le t included
  have quotient : (2 ^ 53 : Rat) ≤ x / unitAt t := by
    have places := (le_div_iff₀ (unitAt_pos x)).mp (le_div_unitAt some normal)
    rw [le_div_iff₀ (unitAt_pos t)]
    linarith
  exact ⟨by linarith, by linarith⟩

theorem past_of_same (same : lastPlace x = lastPlace t) :
    (t < toPlaces x ∨ included = true ∧ t = toPlaces x) ↔
      turn t included < x ∨ turn t included = x ∧ Even (firstPast t included) := by
  have unit : unitAt x = unitAt t := by rw [unitAt, unitAt, same]
  rw [turn_lt_iff, turn_eq_iff, ← le_roundHalfEven_iff, firstPast_le_iff, toPlaces, unit, div_lt_iff₀ (unitAt_pos t),
    div_eq_iff (unitAt_pos t).ne']

/-- A number rounds past a threshold when it is past the turn before the first double there, or on it and that double
    is even. -/
theorem past_nearest_iff (positive : 0 < t) (apart : included = true → t ≠ 2 ^ 52 * unitAt t) (nonneg : 0 ≤ x) :
    (t < nearest x ∨ included = true ∧ t = nearest x) ↔
      turn t included < x ∨ turn t included = x ∧ Even (firstPast t included) := by
  rw [nearest_of_nonneg nonneg]
  rcases nonneg.eq_or_lt with rfl | some
  · have least : (1 : Rat) ≤ firstPast t included := by exact_mod_cast firstPast_pos positive
    rw [toPlaces_zero, turn_lt_iff, turn_eq_iff, zero_div]
    apply iff_of_false
    · rintro (below | ⟨-, same⟩) <;> linarith
    · rintro (below | ⟨same, -⟩) <;> linarith
  · rcases lt_trichotomy (lastPlace x) (lastPlace t) with lower | same | higher
    · have short := short_of_lower positive apart lower
      rw [turn_lt_iff, turn_eq_iff]
      apply iff_of_false
      · rintro (past | ⟨counted, same⟩)
        · exact absurd past short.1.not_gt
        · exact short.2.1 counted same
      · rintro (past | ⟨same, -⟩) <;> linarith [short.2.2]
    · exact past_of_same same
    · have past := @past_of_higher t x included some higher
      rw [turn_lt_iff]
      exact iff_of_true (.inl past.1) (.inl past.2)

end

/-! ## The type -/

structure IsDouble (value : Rat) : Prop where
  nearest : nearest value = value
  bounded : |value| < 2 ^ 1024

theorem isDouble_natCast {n : Nat} (few : n ≤ 2 ^ 53) : IsDouble n where
  nearest := nearest_natCast few
  bounded := by
    rw [abs_of_nonneg (Nat.cast_nonneg n)]
    calc (n : Rat) ≤ 2 ^ 53 := by exact_mod_cast few
      _ < 2 ^ 1024 := pow_lt_pow_right₀ one_lt_two (by omega)

theorem isDouble_zero : IsDouble 0 := by exact_mod_cast isDouble_natCast (Nat.zero_le _)

theorem isDouble_one : IsDouble 1 := by exact_mod_cast isDouble_natCast Nat.one_le_two_pow

theorem IsDouble.neg {value : Rat} (isDouble : IsDouble value) : IsDouble (-value) where
  nearest := by rw [nearest_neg, isDouble.nearest]
  bounded := by rw [abs_neg]; exact isDouble.bounded

theorem IsDouble.abs {value : Rat} (isDouble : IsDouble value) : IsDouble |value| := by
  rcases abs_choice value with same | turned
  · rw [same]
    exact isDouble
  · rw [turned]
    exact isDouble.neg

inductive Double where
  | nan
  | infinity (negative : Bool)
  | finite (value : Rat) (isDouble : IsDouble value)
deriving DecidableEq, Repr

namespace Double

/-- The double nearest to a rational, or the infinity that it overflows to. -/
def ofRat (x : Rat) : Double :=
  if bounded : |nearest x| < 2 ^ 1024 then .finite (nearest x) ⟨nearest_nearest x, bounded⟩
  else .infinity (decide (x < 0))

instance : Zero Double := ⟨.finite 0 isDouble_zero⟩

instance : One Double := ⟨.finite 1 isDouble_one⟩

instance : Neg Double where
  neg
    | .nan => .nan
    | .infinity negative => .infinity !negative
    | .finite value isDouble => .finite (-value) isDouble.neg

/-- `<`, which no number never satisfies. -/
def lt : Double → Double → Bool
  | .finite x _, .finite y _ => decide (x < y)
  | .infinity negative, .infinity negative' => negative && !negative'
  | .infinity negative, .finite _ _ => negative
  | .finite _ _, .infinity negative => !negative
  | .nan, _ => false
  | _, .nan => false

instance : LT Double := ⟨fun x y => x.lt y = true⟩

instance : DecidableLT Double := fun x y => inferInstanceAs (Decidable (x.lt y = true))

/-- `==`, which no number does not satisfy with itself. -/
def eq : Double → Double → Bool
  | .nan, _ => false
  | x, y => decide (x = y)

def isFinite : Double → Bool
  | .finite _ _ => true
  | _ => false

def abs : Double → Double
  | .nan => .nan
  | .infinity _ => .infinity false
  | .finite value isDouble => .finite |value| isDouble.abs

def add : Double → Double → Double
  | .finite x _, .finite y _ => ofRat (x + y)
  | .infinity negative, .infinity negative' => if negative = negative' then .infinity negative else .nan
  | .infinity negative, .finite _ _ => .infinity negative
  | .finite _ _, .infinity negative => .infinity negative
  | .nan, _ => .nan
  | _, .nan => .nan

instance : Add Double := ⟨add⟩

instance : Sub Double := ⟨fun x y => x + -y⟩

def mul : Double → Double → Double
  | .finite x _, .finite y _ => ofRat (x * y)
  | .nan, _ => .nan
  | _, .nan => .nan
  | x, y => if x = 0 ∨ y = 0 then .nan else .infinity (decide (x < 0) != decide (y < 0))

instance : Mul Double := ⟨mul⟩

/-- The quotient by a divisor that is not zero. -/
def div : Double → Double → Double
  | .finite x _, .finite y _ => ofRat (x / y)
  | .infinity _, .infinity _ => .nan
  | .infinity negative, .finite y _ => .infinity (negative != decide (y < 0))
  | .finite _ _, .infinity _ => 0
  | .nan, _ => .nan
  | _, .nan => .nan

instance : Div Double := ⟨div⟩

/-- `round(x, digits)`. -/
def round (digits : Nat) : Double → Double
  | .finite value _ => ofRat (roundTo digits value)
  | x => x

/-- `math.sqrt` of a number that is not negative. -/
def sqrt : Double → Double
  | .finite value _ =>
    let place := Int.log 2 value / 2 - 52
    let low := Nat.sqrt ⌊value / 2 ^ (2 * place)⌋.toNat
    -- the root is never half way between two doubles
    let whole := if (low + 1 / 2 : Rat) ^ 2 * 2 ^ (2 * place) < value then low + 1 else low
    ofRat (whole * 2 ^ place)
  | x => x

/-- The step of `sum` that adds an item and what the addition lost. -/
def accumulate (state : Double × Double) (x : Double) : Double × Double :=
  let (total, lost) := state
  let next := total + x
  (next, lost + (if total.abs < x.abs then x - next + total else total - next + x))

/-- `sum`, with compensation of what the additions lost. -/
def sum (items : List Double) : Double :=
  let (total, lost) := items.foldl accumulate (0, 0)
  if lost ≠ 0 ∧ lost.isFinite then total + lost else total

/-! ## The order of the numbers -/

/-- The place of a number in the order of all but no number. -/
def rank : Double → WithBot (WithTop Rat)
  | .nan => ⊥
  | .infinity true => ⊥
  | .infinity false => (⊤ : WithTop Rat)
  | .finite value _ => (value : WithTop Rat)

theorem lt_iff_rank {x y : Double} (number : x ≠ .nan) (other : y ≠ .nan) : x < y ↔ x.rank < y.rank := by
  change x.lt y = true ↔ _
  cases x with
  | nan => exact absurd rfl number
  | infinity negative =>
    cases y with
    | nan => exact absurd rfl other
    | infinity negative' => cases negative <;> cases negative' <;> simp [lt, rank]
    | finite value => cases negative <;> simp [lt, rank]
  | finite value =>
    cases y with
    | nan => exact absurd rfl other
    | infinity negative =>
      cases negative with
      | true => simp [lt, rank]
      | false => exact iff_of_true rfl (WithBot.coe_lt_coe.mpr (WithTop.coe_lt_top value))
    | finite value' => simp [lt, rank]

theorem rank_injective {x y : Double} (number : x ≠ .nan) (other : y ≠ .nan) (same : x.rank = y.rank) : x = y := by
  cases x with
  | nan => exact absurd rfl number
  | infinity negative =>
    cases y with
    | nan => exact absurd rfl other
    | infinity negative' => cases negative <;> cases negative' <;> simp_all [rank]
    | finite value => cases negative <;> simp [rank] at same
  | finite value =>
    cases y with
    | nan => exact absurd rfl other
    | infinity negative => cases negative <;> simp [rank] at same
    | finite value' =>
      obtain rfl : value = value' := by simpa [rank] using same
      rfl

theorem eq_iff {x y : Double} (number : x ≠ .nan) : x.eq y = true ↔ x = y := by
  cases x with
  | nan => exact absurd rfl number
  | infinity negative => exact decide_eq_true_iff
  | finite value => exact decide_eq_true_iff

theorem neg_lt_neg (x y : Double) : -x < -y ↔ y < x := by
  change lt (-x) (-y) = true ↔ lt y x = true
  cases x with
  | nan => cases y <;> exact Iff.rfl
  | infinity negative => cases y <;> cases negative <;> simp [lt]
  | finite value =>
    cases y with
    | finite value' =>
      change decide (-value < -value') = true ↔ decide (value' < value) = true
      rw [decide_eq_true_iff, decide_eq_true_iff, neg_lt_neg_iff]
    | _ => simp [lt]

theorem neg_injective {x y : Double} (same : -x = -y) : x = y := by
  cases x with
  | finite value =>
    cases y with
    | finite value' =>
      obtain rfl := neg_inj.mp (finite.inj same)
      rfl
    | _ => cases same
  | infinity negative =>
    cases y with
    | infinity negative' => rw [Bool.not_inj (infinity.inj same)]
    | _ => cases same
  | nan => cases y <;> first | rfl | cases same

/-! ## Small numbers -/

theorem ofRat_of_isDouble {value : Rat} (isDouble : IsDouble value) : ofRat value = .finite value isDouble := by
  rw [ofRat, dif_pos (by rw [isDouble.nearest]; exact isDouble.bounded)]
  simp only [isDouble.nearest]

section

variable {value : Rat} {isDouble : IsDouble value}

theorem zero_add_finite : 0 + finite value isDouble = finite value isDouble := by
  change ofRat (0 + value) = _
  rw [zero_add, ofRat_of_isDouble isDouble]

theorem finite_add_zero : finite value isDouble + 0 = finite value isDouble := by
  change ofRat (value + 0) = _
  rw [add_zero, ofRat_of_isDouble isDouble]

theorem zero_add_zero : (0 : Double) + 0 = 0 := @zero_add_finite 0 isDouble_zero

theorem finite_sub_self : finite value isDouble - finite value isDouble = 0 := by
  change ofRat (value + -value) = _
  rw [add_neg_cancel]
  exact ofRat_of_isDouble isDouble_zero

theorem zero_sub_zero : (0 : Double) - 0 = 0 := @finite_sub_self 0 isDouble_zero

theorem zero_div_finite : 0 / finite value isDouble = 0 := by
  change ofRat (0 / value) = _
  rw [zero_div]
  exact ofRat_of_isDouble isDouble_zero

theorem zero_mul_zero : (0 : Double) * 0 = 0 := by
  change ofRat (0 * 0) = _
  rw [mul_zero]
  exact ofRat_of_isDouble isDouble_zero

/-! ## Sums of one number -/

theorem accumulate_zero : accumulate (finite value isDouble, 0) 0 = (finite value isDouble, 0) := by
  have larger : ¬ (finite value isDouble).abs < abs 0 := by
    change ¬ decide (|value| < |0|) = true
    rw [decide_eq_true_iff, abs_zero]
    exact (abs_nonneg value).not_gt
  rw [accumulate]
  simp only [finite_add_zero, if_neg larger, finite_sub_self, zero_add_zero]

theorem accumulate_first : accumulate (0, 0) (finite value isDouble) = (finite value isDouble, 0) := by
  rw [accumulate]
  simp only [zero_add_finite, finite_sub_self]
  by_cases larger : abs 0 < (finite value isDouble).abs
  · rw [if_pos larger, zero_add_zero, zero_add_zero]
  · obtain rfl : value = 0 := by
      change ¬ decide (|0| < |value|) = true at larger
      rwa [decide_eq_true_iff, abs_zero, abs_pos, not_not] at larger
    rw [if_neg larger]
    change (_, 0 + ((0 : Double) - 0 + 0)) = _
    rw [zero_sub_zero, zero_add_zero, zero_add_zero]

theorem accumulate_zeros (count : Nat) :
    (List.replicate count 0).foldl accumulate (finite value isDouble, 0) = (finite value isDouble, 0) := by
  induction count with
  | zero => rfl
  | succ count ih => rw [List.replicate_succ, List.foldl_cons, accumulate_zero, ih]

theorem sum_single (before after : Nat) :
    sum (List.replicate before 0 ++ finite value isDouble :: List.replicate after 0) = finite value isDouble := by
  have zeros : (List.replicate before 0).foldl accumulate (0, 0) = (0, 0) :=
    @accumulate_zeros 0 isDouble_zero before
  rw [sum, List.foldl_append, zeros, List.foldl_cons, accumulate_first, accumulate_zeros]
  exact if_neg fun lost => lost.1 rfl

end

end Double

end Python
