import ImageResizer.Foundation.FloatArith

/-!
# Floats at the ends of an integer type

A conversion to an integer saturates.  A value that does not reach a power of two stays
below it by a whole last place, so that a sum with something small does not reach it either.
-/

namespace FloatVal

/-- At least the bound. -/
def reachesUp (bound : Nat) : FloatVal → Bool
  | .inf negative => !negative
  | .finite false magnitude => decide ((bound : NNRat) ≤ magnitude)
  | _ => false

/-- At most the bound with a minus sign. -/
def reachesDown (bound : Nat) : FloatVal → Bool
  | .inf negative => negative
  | .finite true magnitude => decide ((bound : NNRat) ≤ magnitude)
  | _ => false

variable {bound : Nat} {smallest largest : Int} {value : FloatVal}

theorem toSigned_round_up (ends : largest ≤ bound) (reaches : value.reachesUp bound = true) :
    value.round.toSigned smallest largest = largest := by
  cases value with
  | nan => cases reaches
  | inf negative =>
      cases negative with
      | true => cases reaches
      | false => rfl
  | finite negative magnitude =>
      cases negative with
      | true => cases reaches
      | false =>
          have rounded := Rounding.halfUp_mono (of_decide_eq_true reaches)
          rw [Rounding.halfUp_natCast] at rounded
          simp only [round, toSigned, Nat.floor_natCast]
          omega

theorem toSigned_round_down (ends : -(bound : Int) ≤ smallest)
    (reaches : value.reachesDown bound = true) :
    value.round.toSigned smallest largest = smallest := by
  cases value with
  | nan => cases reaches
  | inf negative =>
      cases negative with
      | true => rfl
      | false => cases reaches
  | finite negative magnitude =>
      cases negative with
      | false => cases reaches
      | true =>
          have rounded := Rounding.halfUp_mono (of_decide_eq_true reaches)
          rw [Rounding.halfUp_natCast] at rounded
          simp only [round, toSigned, Nat.floor_natCast]
          omega

/-- A magnitude of the format below a power of two is a whole place below it. -/
theorem place_below {precision n : Nat} {low high : Int} {negative : Bool} {magnitude : NNRat}
    (positive : 0 < precision) (holds : precision ≤ n)
    (representable : (finite negative magnitude).Representable precision low high)
    (below : magnitude < ((2 ^ n : Nat) : NNRat)) :
    magnitude ≤ ((2 ^ n - 2 ^ (n - precision) : Nat) : NNRat) := by
  obtain ⟨mantissa, exponent, small, _, _, isProduct⟩ := representable
  have whole : 2 ^ n = 2 ^ precision * 2 ^ (n - precision) := by
    rw [← Nat.pow_add, Nat.add_sub_cancel' holds]
  have belowRat : (magnitude : Rat) < ((2 ^ n : Nat) : Rat) := by exact_mod_cast below
  have goal : (magnitude : Rat) ≤ ((2 ^ n - 2 ^ (n - precision) : Nat) : Rat) := by
    rcases le_or_gt ((n - precision : Nat) : Int) exponent with coarse | fine
    · -- The magnitude is a multiple of the place.
      obtain ⟨shift, isShift⟩ := Int.eq_ofNat_of_zero_le (sub_nonneg.mpr coarse)
      have multiple : (magnitude : Rat) = ((mantissa * 2 ^ shift * 2 ^ (n - precision) : Nat) : Rat) := by
        rw [isProduct, ← sub_add_cancel exponent ((n - precision : Nat) : Int), isShift,
          zpow_add₀ (by norm_num), zpow_natCast, ← mul_assoc]
        push_cast
        rfl
      rw [multiple] at belowRat ⊢
      have belowNat : mantissa * 2 ^ shift * 2 ^ (n - precision) < 2 ^ n := by
        exact_mod_cast belowRat
      rw [whole] at belowNat
      have digits : mantissa * 2 ^ shift + 1 ≤ 2 ^ precision := Nat.lt_of_mul_lt_mul_right belowNat
      have scaled := Nat.mul_le_mul_right (2 ^ (n - precision)) digits
      rw [← whole, Nat.add_mul, Nat.one_mul] at scaled
      exact_mod_cast Nat.le_sub_of_add_le scaled
    · -- The magnitude is at most half of the power.
      have halfNat : 2 ^ (n - 1) ≤ 2 ^ n - 2 ^ (n - precision) := by
        have place : 2 ^ (n - precision) ≤ 2 ^ (n - 1) :=
          Nat.pow_le_pow_right (by decide) (by omega)
        have doubled : 2 ^ n = 2 * 2 ^ (n - 1) := by
          rw [← Nat.pow_succ', Nat.succ_eq_add_one, Nat.sub_add_cancel (by omega)]
        omega
      calc (magnitude : Rat) = mantissa * (2 : Rat) ^ exponent := isProduct
        _ ≤ (2 : Rat) ^ (precision : Int) * 2 ^ ((n : Int) - 1 - precision) := by
            apply mul_le_mul
            · rw [zpow_natCast]
              exact_mod_cast small.le
            · exact zpow_le_zpow_right₀ (by norm_num) (by omega)
            · positivity
            · positivity
        _ = ((2 ^ (n - 1) : Nat) : Rat) := by
            rw [← zpow_add₀ (by norm_num), Nat.cast_pow, Nat.cast_ofNat, ← zpow_natCast]
            congr 1
            omega
        _ ≤ ((2 ^ n - 2 ^ (n - precision) : Nat) : Rat) := by exact_mod_cast halfNat
  exact_mod_cast goal

/-- A value of the format that reaches neither end rounds to an integer a whole place
inside of both. -/
theorem toSigned_round_inside {precision n : Nat} {low high : Int}
    (float : BinaryFloat precision low high) (positive : 0 < precision) (holds : precision ≤ n)
    (room : smallest ≤ -(2 ^ n - 2 ^ (n - precision) : Nat) ∧ 0 ≤ largest)
    (belowMax : float.value.reachesUp (2 ^ n) = false)
    (aboveMin : float.value.reachesDown (2 ^ n) = false) :
    -((2 ^ n - 2 ^ (n - precision) : Nat) : Int) ≤ float.value.round.toSigned smallest largest ∧
      float.value.round.toSigned smallest largest ≤ (2 ^ n - 2 ^ (n - precision) : Nat) := by
  obtain ⟨value, representable⟩ := float
  cases value with
  | nan => exact ⟨by simp [round, toSigned], by simp [round, toSigned]⟩
  | inf negative =>
      cases negative with
      | true => cases aboveMin
      | false => cases belowMax
  | finite negative magnitude =>
      have below : magnitude < ((2 ^ n : Nat) : NNRat) := by
        cases negative with
        | false => exact not_le.mp (of_decide_eq_false belowMax)
        | true => exact not_le.mp (of_decide_eq_false aboveMin)
      have inside := Rounding.halfUp_mono (place_below positive holds representable below)
      rw [Rounding.halfUp_natCast] at inside
      cases negative with
      | false =>
          simp only [round, toSigned, Nat.floor_natCast]
          omega
      | true =>
          simp only [round, toSigned, Nat.floor_natCast]
          omega

end FloatVal
