import Mathlib

/-!
# Rounding to a binary precision

Magnitudes are nonnegative rationals.  `nearest` keeps a given number of significant
bits and breaks ties to even; the exponent range is unbounded, so the results are
those of a binary format wherever the format neither overflows nor underflows.  The
lemmas are the ones a bound on a rounded computation needs: rounding is monotone, it
fixes what the precision can hold, and it moves a value by a fixed fraction at most.
-/

namespace Rounding

/-- The natural number nearest to the value, the even one of two equally near. -/
def nearestEven (value : NNRat) : Nat :=
  if value - ⌊value⌋₊ < 1 / 2 then ⌊value⌋₊
  else if 1 / 2 < value - ⌊value⌋₊ then ⌊value⌋₊ + 1
  else if ⌊value⌋₊ % 2 = 0 then ⌊value⌋₊
  else ⌊value⌋₊ + 1

/-- The exponent of the last significant place. -/
def lastPlace (precision : Nat) (value : NNRat) : Int :=
  Int.log 2 value + 1 - precision

/-- The value rounded to the precision. -/
def nearest (precision : Nat) (value : NNRat) : NNRat :=
  nearestEven (value / 2 ^ lastPlace precision value) * 2 ^ lastPlace precision value

/-- The natural number nearest to the value, the larger of two equally near. -/
def halfUp (value : NNRat) : Nat := ⌊value + 1 / 2⌋₊

section HalfUp

theorem add_half_add_half (value : NNRat) : value + 1 / 2 + 1 / 2 = value + 1 := by
  rw [add_assoc]
  norm_num

theorem halfUp_le_iff (value : NNRat) (bound : Nat) :
    halfUp value ≤ bound ↔ value < bound + 1 / 2 := by
  rw [halfUp, ← Nat.lt_add_one_iff, Nat.floor_lt zero_le]
  push_cast
  rw [← add_half_add_half]
  constructor
  · intro below
    exact lt_of_add_lt_add_right below
  · intro below
    exact add_lt_add_of_lt_of_le below le_rfl

theorem halfUp_mono {small large : NNRat} (ordered : small ≤ large) :
    halfUp small ≤ halfUp large :=
  Nat.floor_mono (add_le_add ordered le_rfl)

theorem halfUp_natCast (n : Nat) : halfUp n = n := by
  apply le_antisymm
  · rw [halfUp_le_iff]
    exact lt_add_of_pos_right _ (by norm_num)
  · rw [halfUp]
    exact Nat.le_floor (le_add_of_nonneg_right zero_le)

theorem le_halfUp (value : NNRat) : value ≤ halfUp value + 1 / 2 := by
  have above := Nat.lt_floor_add_one (value + 1 / 2)
  rw [← add_half_add_half] at above
  exact (lt_of_add_lt_add_right above).le

end HalfUp

section NearestEven

theorem nearestEven_natCast (n : Nat) : nearestEven n = n := by
  simp [nearestEven]

/-- The result is one of the two neighbours, and no further than a half. -/
theorem nearestEven_bounds (value : NNRat) :
    (nearestEven value : NNRat) ≤ value + 1 / 2 ∧ value ≤ nearestEven value + 1 / 2 := by
  have below := Nat.floor_le (zero_le : 0 ≤ value)
  have above := (Nat.lt_floor_add_one value).le
  have whole : (⌊value⌋₊ : NNRat) + (value - ⌊value⌋₊) = value := add_tsub_cancel_of_le below
  unfold nearestEven
  split
  case isTrue small =>
      refine ⟨below.trans (le_add_of_nonneg_right zero_le), ?_⟩
      calc value = ⌊value⌋₊ + (value - ⌊value⌋₊) := whole.symm
        _ ≤ ⌊value⌋₊ + 1 / 2 := add_le_add le_rfl small.le
  case isFalse notSmall =>
      have up : ((⌊value⌋₊ + 1 : Nat) : NNRat) ≤ value + 1 / 2 := by
        push_cast
        rw [← add_half_add_half]
        apply add_le_add _ le_rfl
        calc (⌊value⌋₊ : NNRat) + 1 / 2 ≤ ⌊value⌋₊ + (value - ⌊value⌋₊) :=
              add_le_add le_rfl (not_lt.mp notSmall)
          _ = value := whole
      have upBelow : value ≤ ((⌊value⌋₊ + 1 : Nat) : NNRat) + 1 / 2 := by
        push_cast
        exact above.trans (le_add_of_nonneg_right zero_le)
      split
      case isTrue large => exact ⟨up, upBelow⟩
      case isFalse notLarge =>
          split
          case isTrue even =>
              refine ⟨below.trans (le_add_of_nonneg_right zero_le), ?_⟩
              calc value = ⌊value⌋₊ + (value - ⌊value⌋₊) := whole.symm
                _ ≤ ⌊value⌋₊ + 1 / 2 := add_le_add le_rfl (not_lt.mp notLarge)
          case isFalse odd => exact ⟨up, upBelow⟩

theorem floor_le_nearestEven (value : NNRat) : ⌊value⌋₊ ≤ nearestEven value := by
  unfold nearestEven
  split_ifs <;> omega

theorem nearestEven_le_floor_succ (value : NNRat) : nearestEven value ≤ ⌊value⌋₊ + 1 := by
  unfold nearestEven
  split_ifs <;> omega

theorem nearestEven_mono {small large : NNRat} (ordered : small ≤ large) :
    nearestEven small ≤ nearestEven large := by
  have floors := Nat.floor_mono ordered
  rcases floors.lt_or_eq with apart | together
  case inl =>
      calc nearestEven small ≤ ⌊small⌋₊ + 1 := nearestEven_le_floor_succ small
        _ ≤ ⌊large⌋₊ := apart
        _ ≤ nearestEven large := floor_le_nearestEven large
  case inr =>
      have rests : small - ⌊small⌋₊ ≤ large - ⌊small⌋₊ := tsub_le_tsub_right ordered _
      unfold nearestEven
      rw [← together]
      by_cases smallLow : small - ⌊small⌋₊ < 1 / 2
      · rw [if_pos smallLow]
        split_ifs <;> omega
      · have largeHigh : ¬ large - ⌊small⌋₊ < 1 / 2 := fun low => smallLow (rests.trans_lt low)
        rw [if_neg smallLow, if_neg largeHigh]
        by_cases smallHigh : 1 / 2 < small - ⌊small⌋₊
        · rw [if_pos smallHigh, if_pos (smallHigh.trans_le rests)]
        · rw [if_neg smallHigh]
          split_ifs <;> omega

end NearestEven

section Nearest

variable {precision : Nat}

theorem two_zpow_pos (exponent : Int) : (0 : NNRat) < 2 ^ exponent :=
  zpow_pos (by norm_num) exponent

@[simp]
theorem nearest_zero : nearest precision 0 = 0 := by
  simp [nearest, nearestEven]

/-- A value the precision can hold is its own rounding. -/
theorem nearest_mul_zpow (mantissa : Nat) (exponent : Int)
    (held : mantissa < 2 ^ precision) :
    nearest precision (mantissa * 2 ^ exponent) = mantissa * 2 ^ exponent := by
  rcases Nat.eq_zero_or_pos mantissa with zero | positive
  case inl => simp [zero]
  case inr =>
      have valuePos : (0 : NNRat) < mantissa * 2 ^ exponent :=
        mul_pos (by exact_mod_cast positive) (two_zpow_pos exponent)
      have below : (mantissa : NNRat) * 2 ^ exponent <
          ((2 : Nat) : NNRat) ^ ((precision : Int) + exponent) := by
        rw [Nat.cast_ofNat, zpow_add₀ (by norm_num), zpow_natCast]
        exact mul_lt_mul_of_pos_right (by exact_mod_cast held) (two_zpow_pos exponent)
      have logs := (Int.lt_zpow_iff_log_lt (by decide) valuePos).mp below
      have place : lastPlace precision ((mantissa : NNRat) * 2 ^ exponent) ≤ exponent := by
        unfold lastPlace
        omega
      obtain ⟨shift, gap⟩ := Int.eq_ofNat_of_zero_le (sub_nonneg.mpr place)
      have whole : (mantissa : NNRat) * 2 ^ exponent /
          2 ^ lastPlace precision (mantissa * 2 ^ exponent) = (mantissa * 2 ^ shift : Nat) := by
        rw [mul_div_assoc, ← zpow_sub₀ (by norm_num), gap]
        simp
      rw [nearest, whole, nearestEven_natCast, ← whole, div_mul_cancel₀ _ (two_zpow_pos _).ne']

theorem nearest_natCast (n : Nat) (held : n < 2 ^ precision) : nearest precision n = n := by
  have at_zero := nearest_mul_zpow n 0 held
  simpa using at_zero

/-- Half of a natural number is held as well. -/
theorem nearest_half (n : Nat) (held : n < 2 ^ precision) :
    nearest precision (n / 2) = n / 2 := by
  have at_minus_one := nearest_mul_zpow n (-1) held
  simpa [div_eq_mul_inv] using at_minus_one

theorem log_zpow_mul (exponent : Int) {value : NNRat} (positive : 0 < value) :
    Int.log 2 (2 ^ exponent * value) = exponent + Int.log 2 value := by
  have scaledPos : 0 < 2 ^ exponent * value := mul_pos (two_zpow_pos exponent) positive
  apply eq_of_forall_le_iff
  intro bound
  rw [← Int.zpow_le_iff_le_log (by decide) scaledPos, ← sub_le_iff_le_add',
    ← Int.zpow_le_iff_le_log (by decide) positive, Nat.cast_ofNat, zpow_sub₀ (by norm_num),
    div_le_iff₀' (two_zpow_pos exponent)]

/-- Rounding goes with powers of two. -/
theorem nearest_zpow_mul (exponent : Int) (value : NNRat) :
    nearest precision (2 ^ exponent * value) = 2 ^ exponent * nearest precision value := by
  rcases eq_or_ne value 0 with zero | nonzero
  · simp [zero]
  have positive : 0 < value := pos_of_ne_zero nonzero
  have place : lastPlace precision (2 ^ exponent * value) =
      exponent + lastPlace precision value := by
    rw [lastPlace, lastPlace, log_zpow_mul exponent positive]
    ring
  rw [nearest, nearest, place, zpow_add₀ (by norm_num),
    mul_div_mul_left _ _ (two_zpow_pos exponent).ne', mul_left_comm]
theorem two_zpow_lastPlace (value : NNRat) :
    (2 : NNRat) ^ lastPlace precision value * 2 ^ precision = 2 ^ (Int.log 2 value + 1) := by
  rw [← zpow_natCast, ← zpow_add₀ (by norm_num)]
  congr 1
  unfold lastPlace
  ring

/-- Half a unit in the last place is a fixed fraction of the value. -/
theorem half_lastPlace_le (value : NNRat) (positive : 0 < value) :
    (2 : NNRat) ^ lastPlace precision value / 2 ≤ value / 2 ^ precision := by
  rw [le_div_iff₀ (by positivity), div_mul_eq_mul_div, two_zpow_lastPlace,
    zpow_add_one₀ (by norm_num), mul_div_cancel_right₀ _ (by norm_num)]
  exact Int.zpow_log_le_self (by decide) positive

/-- Rounding adds at most the fraction `2 ^ -precision`. -/
theorem nearest_le (value : NNRat) :
    nearest precision value ≤ value + value / 2 ^ precision := by
  rcases eq_or_ne value 0 with zero | nonzero
  case inl => simp [zero]
  case inr =>
      have unit := two_zpow_pos (lastPlace precision value)
      calc nearest precision value
          ≤ (value / 2 ^ lastPlace precision value + 1 / 2) * 2 ^ lastPlace precision value :=
            mul_le_mul_of_nonneg_right (nearestEven_bounds _).1 unit.le
        _ = value + 2 ^ lastPlace precision value / 2 := by field_simp
        _ ≤ value + value / 2 ^ precision :=
            add_le_add le_rfl (half_lastPlace_le value (pos_iff_ne_zero.mpr nonzero))

/-- Rounding removes at most the fraction `2 ^ -precision`. -/
theorem le_nearest (value : NNRat) :
    value ≤ nearest precision value + value / 2 ^ precision := by
  rcases eq_or_ne value 0 with zero | nonzero
  case inl => simp [zero]
  case inr =>
      have unit := two_zpow_pos (lastPlace precision value)
      calc value
          = value / 2 ^ lastPlace precision value * 2 ^ lastPlace precision value :=
            (div_mul_cancel₀ _ unit.ne').symm
        _ ≤ (nearestEven (value / 2 ^ lastPlace precision value) + 1 / 2) *
              2 ^ lastPlace precision value :=
            mul_le_mul_of_nonneg_right (nearestEven_bounds _).2 unit.le
        _ = nearest precision value + 2 ^ lastPlace precision value / 2 := by
            rw [nearest]
            ring
        _ ≤ nearest precision value + value / 2 ^ precision :=
            add_le_add le_rfl (half_lastPlace_le value (pos_iff_ne_zero.mpr nonzero))

/-- A rounded value does not pass the power of two above it. -/
theorem nearest_le_zpow (value : NNRat) :
    nearest precision value ≤ 2 ^ (Int.log 2 value + 1) := by
  have above := (@Int.lt_zpow_succ_log_self NNRat _ _ _ _ 2 (by decide) value).le
  have scaled : value / 2 ^ lastPlace precision value ≤ ((2 ^ precision : Nat) : NNRat) := by
    rw [div_le_iff₀ (two_zpow_pos _), Nat.cast_pow, Nat.cast_ofNat, mul_comm, two_zpow_lastPlace]
    exact_mod_cast above
  have mantissa := nearestEven_mono scaled
  rw [nearestEven_natCast] at mantissa
  calc nearest precision value
      ≤ (2 ^ precision : Nat) * 2 ^ lastPlace precision value :=
        mul_le_mul_of_nonneg_right (by exact_mod_cast mantissa) (two_zpow_pos _).le
    _ = 2 ^ (Int.log 2 value + 1) := by
        rw [← two_zpow_lastPlace, Nat.cast_pow, Nat.cast_ofNat, mul_comm]

/-- A rounded value does not pass the power of two below it. -/
theorem zpow_le_nearest (value : NNRat) (positive : 0 < value) (keeps : 0 < precision) :
    2 ^ Int.log 2 value ≤ nearest precision value := by
  have below : ((2 : Nat) : NNRat) ^ Int.log 2 value ≤ value :=
    Int.zpow_log_le_self (by decide) positive
  have split : (2 : NNRat) ^ Int.log 2 value =
      (2 ^ (precision - 1) : Nat) * 2 ^ lastPlace precision value := by
    rw [Nat.cast_pow, Nat.cast_ofNat, ← zpow_natCast, ← zpow_add₀ (by norm_num)]
    congr 1
    unfold lastPlace
    omega
  have scaled : ((2 ^ (precision - 1) : Nat) : NNRat) ≤
      value / 2 ^ lastPlace precision value := by
    rw [le_div_iff₀ (two_zpow_pos _), ← split]
    exact_mod_cast below
  have mantissa := nearestEven_mono scaled
  rw [nearestEven_natCast] at mantissa
  rw [split]
  exact mul_le_mul_of_nonneg_right (by exact_mod_cast mantissa) (two_zpow_pos _).le

theorem nearest_mono {small large : NNRat} (ordered : small ≤ large) (keeps : 0 < precision) :
    nearest precision small ≤ nearest precision large := by
  rcases eq_or_ne small 0 with zero | nonzero
  case inl => simp [zero]
  case inr =>
      have smallPos := pos_iff_ne_zero.mpr nonzero
      rcases (@Int.log_mono_right NNRat _ _ _ _ 2 _ _ smallPos ordered).lt_or_eq with apart | together
      case inl =>
          calc nearest precision small ≤ 2 ^ (Int.log 2 small + 1) := nearest_le_zpow small
            _ ≤ 2 ^ Int.log 2 large := zpow_le_zpow_right₀ (by norm_num) apart
            _ ≤ nearest precision large :=
                zpow_le_nearest large (smallPos.trans_le ordered) keeps
      case inr =>
          have places : lastPlace precision small = lastPlace precision large := by
            rw [lastPlace, lastPlace, together]
          rw [nearest, nearest, places]
          have unit := two_zpow_pos (lastPlace precision large)
          apply mul_le_mul_of_nonneg_right _ unit.le
          exact_mod_cast nearestEven_mono (div_le_div_of_nonneg_right ordered unit.le)

/-- Below a value the precision holds, rounding stays below it. -/
theorem nearest_le_natCast {value : NNRat} {n : Nat} (below : value ≤ n)
    (held : n < 2 ^ precision) (keeps : 0 < precision) : nearest precision value ≤ n := by
  have mono := nearest_mono below keeps
  rwa [nearest_natCast n held] at mono

end Nearest

end Rounding
