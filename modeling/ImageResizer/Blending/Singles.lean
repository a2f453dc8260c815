import ImageResizer.Foundation.RoundingError
import ImageResizer.PixelGrid

/-!
# Errors in single precision

What one `f32` operation of the pixel arithmetic may add or lose, and how little of that is
left after the rounding to a channel at the end.
-/

namespace ImageResizer

open Rounding

/-! ## The error of one operation -/

/-- What one operation in single precision may add, in proportion. -/
def singleFactor : NNRat := 1 + (2 : Nat) / (2 ^ 24 : Nat)

/-- What it may lose where its result is subnormal. -/
def singleSlack : NNRat := 1 / (2 ^ 149 : Nat)

theorem one_le_singleFactor : 1 ≤ singleFactor := by
  rw [singleFactor]
  exact le_add_of_nonneg_right zero_le

theorem single_agrees (value : NNRat) :
    Agrees singleFactor singleSlack (single value) value := by
  unfold single
  split
  case isTrue =>
      have unit : (0 : NNRat) < 1 / 2 ^ 149 := by positivity
      have rounded := nearestEven_agrees (1 / 2 ^ 149) value unit
      rw [div_div_eq_mul_div, div_one, mul_one_div] at rounded
      push_cast
      exact rounded.mono one_le_singleFactor (half_le_self zero_le)
  case isFalse => exact (nearest_agrees (by decide) value).mono le_rfl zero_le

/-- A bound that the precision holds is not passed. -/
theorem single_le_natCast {value : NNRat} {bound : Nat} (below : value ≤ bound)
    (held : bound < 2 ^ 24) : single value ≤ bound := by
  unfold single
  split
  case isTrue subnormal =>
      rcases Nat.eq_zero_or_pos bound with none_ | some_
      case inl =>
          have zero : value = 0 := by simpa [none_] using below
          simp [zero, nearestEven]
      case inr =>
          have scaled : value * (2 ^ 149 : Nat) ≤ ((2 ^ 23 : Nat) : NNRat) := by
            calc value * (2 ^ 149 : Nat) ≤ 1 / (2 ^ 126 : Nat) * (2 ^ 149 : Nat) := by gcongr
              _ = ((2 ^ 23 : Nat) : NNRat) := by norm_num
          have whole := nearestEven_mono scaled
          rw [nearestEven_natCast] at whole
          calc (nearestEven (value * (2 ^ 149 : Nat)) : NNRat) / (2 ^ 149 : Nat) ≤ 1 := by
                rw [div_le_one (by positivity)]
                exact_mod_cast whole.trans (by norm_num)
            _ ≤ bound := by exact_mod_cast some_
  case isFalse => exact_mod_cast nearest_le_natCast below held (by norm_num)

theorem single_le_one {value : NNRat} (small : value ≤ 1) : single value ≤ 1 := by
  exact_mod_cast @single_le_natCast _ 1 (by exact_mod_cast small) (by norm_num)

theorem single_of_le {value : NNRat} (normal : 1 / (2 ^ 126 : Nat) ≤ value) :
    single value = nearest 24 value := if_neg (not_lt.mpr normal)

theorem nearest_leastNormal :
    nearest 24 (1 / (2 ^ 126 : Nat)) = 1 / (2 ^ 126 : Nat) := by
  have held := @nearest_mul_zpow 24 1 (-126) (by norm_num)
  norm_num at held ⊢
  exact held

/-- A subnormal single is a multiple of the least one. -/
theorem single_natCast_div {count : Nat} (small : count ≤ 2 ^ 23) :
    single ((count : NNRat) / (2 ^ 149 : Nat)) = (count : NNRat) / (2 ^ 149 : Nat) := by
  rcases small.lt_or_eq with subnormal | normal
  case inl =>
      unfold single
      rw [if_pos, div_mul_cancel₀ _ (by positivity), nearestEven_natCast]
      rw [div_lt_div_iff₀ (by positivity) (by positivity), one_mul]
      calc (count : NNRat) * (2 ^ 126 : Nat) < (2 ^ 23 : Nat) * (2 ^ 126 : Nat) := by gcongr
        _ = (2 ^ 149 : Nat) := by norm_num
  case inr =>
      have least : (count : NNRat) / (2 ^ 149 : Nat) = 1 / (2 ^ 126 : Nat) := by
        rw [normal]
        norm_num
      rw [least, single_of_le le_rfl, nearest_leastNormal]

/-- What is rounded to a single is one. -/
theorem single_single (value : NNRat) : single (single value) = single value := by
  by_cases subnormal : value < 1 / (2 ^ 126 : Nat)
  case pos =>
      have shape : single value =
          (nearestEven (value * (2 ^ 149 : Nat)) : NNRat) / (2 ^ 149 : Nat) := if_pos subnormal
      have scaled : value * (2 ^ 149 : Nat) ≤ ((2 ^ 23 : Nat) : NNRat) := by
        calc value * (2 ^ 149 : Nat) ≤ 1 / (2 ^ 126 : Nat) * (2 ^ 149 : Nat) := by gcongr
          _ = ((2 ^ 23 : Nat) : NNRat) := by norm_num
      have few := nearestEven_mono scaled
      rw [nearestEven_natCast] at few
      rw [shape, single_natCast_div few]
  case neg =>
      have normal := not_lt.mp subnormal
      have kept := @nearest_mono 24 _ _ normal (by norm_num)
      rw [nearest_leastNormal] at kept
      rw [single_of_le normal, single_of_le kept, nearest_nearest (by norm_num)]

/-- A single times a natural number never loses to underflow. -/
theorem single_scaled_agrees {weight : NNRat} (held : single weight = weight) (n : Nat) :
    Agrees singleFactor 0 (single (n * weight)) (n * weight) := by
  by_cases subnormal : (n : NNRat) * weight < 1 / (2 ^ 126 : Nat)
  case pos =>
      rcases Nat.eq_zero_or_pos n with none_ | some_
      case inl =>
          subst none_
          rw [Nat.cast_zero, zero_mul, single_zero]
          exact .refl one_le_singleFactor 0
      case inr =>
          have weightSmall : weight < 1 / (2 ^ 126 : Nat) := by
            refine lt_of_le_of_lt ?_ subnormal
            exact le_mul_of_one_le_left zero_le (by exact_mod_cast some_)
          have whole : (n : NNRat) * weight =
              (n * nearestEven (weight * (2 ^ 149 : Nat)) : Nat) / (2 ^ 149 : Nat) := by
            conv_lhs => rw [← held, single, if_pos weightSmall]
            push_cast
            ring
          have few : n * nearestEven (weight * (2 ^ 149 : Nat)) ≤ 2 ^ 23 := by
            have bound := subnormal.le
            rw [whole, div_le_div_iff₀ (by positivity) (by positivity), one_mul] at bound
            have product : n * nearestEven (weight * (2 ^ 149 : Nat)) * 2 ^ 126 ≤ 2 ^ 149 := by
              exact_mod_cast bound
            omega
          rw [whole, single_natCast_div few]
          exact .refl one_le_singleFactor _
  case neg =>
      rw [single_of_le (not_lt.mp subnormal)]
      exact nearest_agrees (by norm_num) _

/-- Five roundings are far less than a step in a thousand. -/
theorem singleFactor_pow {n : Nat} (few : n ≤ 5) : singleFactor ^ n ≤ 1 + 1 / 2 ^ 19 := by
  calc singleFactor ^ n ≤ singleFactor ^ 5 := pow_le_pow_right₀ one_le_singleFactor few
    _ ≤ 1 + 1 / 2 ^ 19 := by
        rw [singleFactor, ← NNRat.coe_le_coe]
        push_cast
        norm_num

/-- The slack of an earlier operation, seen after some more. -/
theorem slack_grows (n : Nat) {slack : NNRat} : slack ≤ slack * singleFactor ^ n :=
  le_mul_of_one_le_right zero_le (one_le_pow₀ one_le_singleFactor)

theorem single_near {value : NNRat} {bound : Rat} (small : (value : Rat) ≤ bound) :
    |(single value : Rat) - value| ≤ bound / 2 ^ 23 + 1 / 2 ^ 140 := by
  obtain ⟨upper, lower⟩ := single_agrees value
  rw [singleFactor, singleSlack, ← NNRat.coe_le_coe] at upper lower
  push_cast at upper lower
  have nonnegative : (0 : Rat) ≤ value := value.2
  norm_num at upper lower ⊢
  rw [abs_le]
  constructor <;> linarith

theorem single_rounds {factor slack value exact : NNRat} (grows : 1 ≤ factor)
    (agrees : Agrees factor slack value exact) :
    Agrees (singleFactor * factor) (singleSlack + slack) (single value) exact :=
  (single_agrees value).trans agrees one_le_singleFactor grows

/-! ## Weighted means -/

section Mean

variable {bottom top weight num den mean : NNRat}

/-- What the roundings of a numerator add is less than an eighth of the denominator. -/
theorem errors_absorbed (bounded : num ≤ 256 * den) (heavy : 1 / 2048 ≤ den) :
    (num + 514 * singleSlack) * (1 + 1 / 2 ^ 19) ≤ num + 1 / 8 * den := by
  rw [← NNRat.coe_le_coe] at bounded heavy ⊢
  rw [singleSlack]
  push_cast at bounded heavy ⊢
  norm_num at bounded heavy ⊢
  linarith

theorem half_weight_le (heavy : 1 / 1024 ≤ weight)
    (denLower : weight ≤ (den + 2 * singleSlack) * singleFactor ^ 2) : 1 / 2048 ≤ den := by
  have bound : weight ≤ (den + 2 * singleSlack) * (1 + 1 / 2 ^ 19) :=
    denLower.trans (by gcongr; exact singleFactor_pow (by decide))
  rw [← NNRat.coe_le_coe] at bound heavy ⊢
  rw [singleSlack] at bound
  push_cast at bound heavy ⊢
  norm_num at bound heavy ⊢
  linarith

/-- A quotient whose numerator and denominator are three and two roundings from exact. -/
theorem quotient_below (small : top ≤ 255) (heavy : 1 / 1024 ≤ weight)
    (numUpper : num ≤ (top * weight + 4 * singleSlack) * singleFactor ^ 3)
    (denLower : weight ≤ (den + 2 * singleSlack) * singleFactor ^ 2) :
    num ≤ top * den + 1 / 8 * den := by
  have den_heavy := half_weight_le heavy denLower
  have bounded : top * den ≤ 256 * den := by
    gcongr
    exact small.trans (by norm_num)
  calc num ≤ (top * weight + 4 * singleSlack) * singleFactor ^ 3 := numUpper
    _ ≤ (top * ((den + 2 * singleSlack) * singleFactor ^ 2) +
          4 * singleSlack * singleFactor ^ 2) * singleFactor ^ 3 := by
        apply mul_le_mul_left
        exact add_le_add (mul_le_mul_right denLower top) (slack_grows 2)
    _ = (top * den + (2 * top + 4) * singleSlack) * singleFactor ^ 5 := by ring
    _ ≤ (top * den + (2 * 255 + 4) * singleSlack) * (1 + 1 / 2 ^ 19) := by
        gcongr
        exact singleFactor_pow le_rfl
    _ = (top * den + 514 * singleSlack) * (1 + 1 / 2 ^ 19) := by norm_num
    _ ≤ top * den + 1 / 8 * den := errors_absorbed bounded den_heavy

theorem quotient_above (small : bottom ≤ 255) (den_heavy : 1 / 2048 ≤ den)
    (bounded : num ≤ 256 * den)
    (numLower : bottom * weight ≤ (num + 4 * singleSlack) * singleFactor ^ 3)
    (denUpper : den ≤ (weight + 2 * singleSlack) * singleFactor ^ 2) :
    bottom * den ≤ num + 1 / 8 * den := by
  calc bottom * den ≤ bottom * ((weight + 2 * singleSlack) * singleFactor ^ 2) := by gcongr
    _ = (bottom * weight + 2 * bottom * singleSlack) * singleFactor ^ 2 := by ring
    _ ≤ ((num + 4 * singleSlack) * singleFactor ^ 3 +
          2 * bottom * singleSlack * singleFactor ^ 3) * singleFactor ^ 2 := by
        apply mul_le_mul_left
        exact add_le_add numLower (slack_grows 3)
    _ = (num + (2 * bottom + 4) * singleSlack) * singleFactor ^ 5 := by ring
    _ ≤ (num + (2 * 255 + 4) * singleSlack) * (1 + 1 / 2 ^ 19) := by
        gcongr
        exact singleFactor_pow le_rfl
    _ = (num + 514 * singleSlack) * (1 + 1 / 2 ^ 19) := by norm_num
    _ ≤ num + 1 / 8 * den := errors_absorbed bounded den_heavy

end Mean

/-! ## Rounding to a channel -/

theorem toNat_le (channel : UInt8) : channel.toNat ≤ 255 := Nat.le_of_lt_succ channel.toNat_lt

theorem toNat_toChannel (value : NNRat) : (toChannel value).toNat = min 255 (halfUp value) := by
  rw [toChannel, UInt8.toNat_ofNat_of_lt']
  exact Nat.lt_succ_of_le (min_le_left _ _)

/-- A mean that is an eighth too low at most is rounded to a channel above its bound. -/
theorem le_toChannel {mean : NNRat} {bottom : Nat} (bounded : mean ≤ 512) (small : bottom ≤ 255)
    (above : (bottom : NNRat) ≤ mean + 1 / 8) : bottom ≤ (toChannel (single mean)).toNat := by
  have near := abs_le.mp (@single_near _ 512 (by exact_mod_cast bounded))
  rw [← NNRat.coe_le_coe] at above
  push_cast at above
  rw [toNat_toChannel]
  apply le_min small
  apply Nat.le_floor
  rw [← NNRat.coe_le_coe]
  push_cast
  norm_num at near ⊢
  linarith

/-- One that is an eighth too high at most is rounded to a channel below its bound. -/
theorem toChannel_le {mean : NNRat} {top : Nat} (bounded : mean ≤ 512)
    (below : mean ≤ top + 1 / 8) : (toChannel (single mean)).toNat ≤ top := by
  have near := abs_le.mp (@single_near _ 512 (by exact_mod_cast bounded))
  rw [← NNRat.coe_le_coe] at below
  push_cast at below
  rw [toNat_toChannel]
  apply (min_le_right _ _).trans
  rw [halfUp_le_iff, ← NNRat.coe_lt_coe]
  push_cast
  norm_num at near ⊢
  linarith

end ImageResizer
