import ImageResizer.Foundation.Rounding

/-!
# Error of a rounded computation

Two magnitudes agree up to a factor and a slack: the slack is what a subnormal result may
lose, the factor is what every other does.  Sums keep the factor and add the slacks, each
rounding multiplies by one more factor, so the error of an expression is read off its tree.
-/

namespace Rounding

/-- Each of two magnitudes is below the other, up to a factor and a slack. -/
structure Agrees (factor slack value exact : NNRat) : Prop where
  upper : value ≤ (exact + slack) * factor
  lower : exact ≤ (value + slack) * factor

namespace Agrees

variable {factor factor' slack slack' value value' exact exact' : NNRat}

theorem refl (grows : 1 ≤ factor) (value : NNRat) : Agrees factor 0 value value := by
  have grown : value ≤ (value + 0) * factor := by
    rw [add_zero]
    exact le_mul_of_one_le_right zero_le grows
  exact ⟨grown, grown⟩

/-- One error after another. -/
theorem trans (agrees : Agrees factor slack value exact)
    (agrees' : Agrees factor' slack' exact exact') (grows : 1 ≤ factor) (grows' : 1 ≤ factor') :
    Agrees (factor * factor') (slack + slack') value exact' := by
  constructor
  · calc value ≤ (exact + slack) * factor := agrees.upper
      _ ≤ ((exact' + slack') * factor' + slack * factor') * factor := by
          gcongr
          · exact agrees'.upper
          · exact le_mul_of_one_le_right zero_le grows'
      _ = (exact' + (slack + slack')) * (factor * factor') := by ring
  · calc exact' ≤ (exact + slack') * factor' := agrees'.lower
      _ ≤ ((value + slack) * factor + slack' * factor) * factor' := by
          gcongr
          · exact agrees.lower
          · exact le_mul_of_one_le_right zero_le grows
      _ = (value + (slack + slack')) * (factor * factor') := by ring

theorem add (agrees : Agrees factor slack value exact)
    (agrees' : Agrees factor slack' value' exact') :
    Agrees factor (slack + slack') (value + value') (exact + exact') := by
  constructor
  · calc value + value' ≤ (exact + slack) * factor + (exact' + slack') * factor :=
          add_le_add agrees.upper agrees'.upper
      _ = (exact + exact' + (slack + slack')) * factor := by ring
  · calc exact + exact' ≤ (value + slack) * factor + (value' + slack') * factor :=
          add_le_add agrees.lower agrees'.lower
      _ = (value + value' + (slack + slack')) * factor := by ring

/-- A scale of at most one lets no error grow. -/
theorem scale (agrees : Agrees factor slack value exact) {scale : NNRat} (small : scale ≤ 1) :
    Agrees factor slack (value * scale) (exact * scale) := by
  have shrunk : slack * scale ≤ slack := mul_le_of_le_one_right zero_le small
  constructor
  · calc value * scale ≤ (exact + slack) * factor * scale := by gcongr; exact agrees.upper
      _ = (exact * scale + slack * scale) * factor := by ring
      _ ≤ (exact * scale + slack) * factor := by gcongr
  · calc exact * scale ≤ (value + slack) * factor * scale := by gcongr; exact agrees.lower
      _ = (value * scale + slack * scale) * factor := by ring
      _ ≤ (value * scale + slack) * factor := by gcongr

theorem mono (agrees : Agrees factor slack value exact) (wider : factor ≤ factor')
    (looser : slack ≤ slack') : Agrees factor' slack' value exact :=
  ⟨agrees.upper.trans (by gcongr), agrees.lower.trans (by gcongr)⟩

end Agrees

/-- What is rounded already is held. -/
theorem nearest_nearest {precision : Nat} (keeps : 0 < precision) (value : NNRat) :
    nearest precision (nearest precision value) = nearest precision value := by
  have unit := two_zpow_pos (lastPlace precision value)
  have below := @nearest_le_zpow precision value
  rw [← @two_zpow_lastPlace precision, mul_comm, nearest] at below
  have mantissa : nearestEven (value / 2 ^ lastPlace precision value) ≤ 2 ^ precision := by
    exact_mod_cast le_of_mul_le_mul_right below unit
  conv_lhs => rw [nearest.eq_1 precision value]
  rcases mantissa.lt_or_eq with held | carried
  case inl => exact nearest_mul_zpow _ _ held
  case inr =>
      -- the mantissa was rounded up to the next power of two
      have power : (1 : Nat) < 2 ^ precision := Nat.one_lt_two_pow keeps.ne'
      have single := nearest_mul_zpow 1 (precision + lastPlace precision value) power
      rw [Nat.cast_one, one_mul, zpow_add₀ (by norm_num), zpow_natCast] at single
      rw [nearest.eq_1 precision value, carried]
      push_cast
      exact single

/-- A value rounded to a precision agrees with it. -/
theorem nearest_agrees {precision : Nat} (keeps : 0 < precision) (value : NNRat) :
    Agrees (1 + 2 / 2 ^ precision) 0 (nearest precision value) value := by
  have above := @nearest_le precision value
  have below := @le_nearest precision value
  have half : (1 : Rat) / 2 ^ precision ≤ 1 / 2 := by
    apply one_div_le_one_div_of_le (by norm_num)
    exact le_self_pow₀ (by norm_num) keeps.ne'
  have error : (0 : Rat) ≤ 1 / 2 ^ precision := by positivity
  have nonnegative : (0 : Rat) ≤ (value : Rat) := value.2
  rw [← NNRat.coe_le_coe] at above below
  push_cast at above below
  rw [div_eq_mul_one_div (value : Rat)] at above below
  constructor
  · rw [← NNRat.coe_le_coe]
    push_cast
    rw [div_eq_mul_one_div (2 : Rat), add_zero]
    nlinarith
  · rw [← NNRat.coe_le_coe]
    push_cast
    rw [div_eq_mul_one_div (2 : Rat), add_zero]
    have kept : (value : Rat) * (1 - 1 / 2 ^ precision) ≤ nearest precision value := by linarith
    calc (value : Rat)
        ≤ value * ((1 - 1 / 2 ^ precision) * (1 + 2 * (1 / 2 ^ precision))) := by
          apply le_mul_of_one_le_right nonnegative
          nlinarith
      _ = value * (1 - 1 / 2 ^ precision) * (1 + 2 * (1 / 2 ^ precision)) := by ring
      _ ≤ nearest precision value * (1 + 2 * (1 / 2 ^ precision)) := by
          apply mul_le_mul_of_nonneg_right kept
          linarith

/-- So does one rounded to a multiple of a unit, up to half of the unit. -/
theorem nearestEven_agrees (unit value : NNRat) (positive : 0 < unit) :
    Agrees 1 (unit / 2) (nearestEven (value / unit) * unit) value := by
  have bounds := nearestEven_bounds (value / unit)
  have whole : value / unit * unit = value := div_mul_cancel₀ _ positive.ne'
  constructor
  · calc (nearestEven (value / unit) : NNRat) * unit ≤ (value / unit + 1 / 2) * unit := by
          gcongr
          exact bounds.1
      _ = (value + unit / 2) * 1 := by
          rw [add_mul, whole]
          ring
  · calc value = value / unit * unit := whole.symm
      _ ≤ (nearestEven (value / unit) + 1 / 2) * unit := by
          gcongr
          exact bounds.2
      _ = (nearestEven (value / unit) * unit + unit / 2) * 1 := by ring

/-- A fraction with an odd denominator is never halfway between two naturals, so a value that
is near enough to it is rounded as the fraction is. -/
theorem halfUp_of_near {value : NNRat} {num den : Nat} (odd : den % 2 = 1)
    (near : |(value : Rat) - num / den| < 1 / (2 * den)) :
    halfUp value = (2 * num + den) / (2 * den) := by
  have positive : 0 < den := by omega
  have scaled : |(2 * den * value : Rat) - 2 * num| < 1 := by
    have grown := mul_lt_mul_of_pos_right near (show (0 : Rat) < 2 * den by positivity)
    rw [← abs_of_pos (show (0 : Rat) < 2 * den by positivity), ← abs_mul,
      abs_of_pos (show (0 : Rat) < 2 * den by positivity)] at grown
    field_simp at grown ⊢
    exact grown
  obtain ⟨lower, upper⟩ := abs_lt.mp scaled
  set whole := (2 * num + den) / (2 * den) with wholeIs
  have split := Nat.div_add_mod (2 * num + den) (2 * den)
  have rest := Nat.mod_lt (2 * num + den) (show 0 < 2 * den by omega)
  rw [← wholeIs] at split
  -- the numerator of the half-up quotient is odd, so its remainder is neither end of the range
  have inside : 2 * den * whole + 1 ≤ 2 * num + den := by
    have notWhole : (2 * num + den) % (2 * den) % 2 = 1 := by
      rw [Nat.mod_mul_right_mod]
      omega
    omega
  have below : 2 * num + den + 1 ≤ 2 * den * whole + 2 * den := by omega
  have insideRat : (2 * den * whole + 1 : Rat) ≤ 2 * num + den := by exact_mod_cast inside
  have belowRat : (2 * num + den + 1 : Rat) ≤ 2 * den * whole + 2 * den := by exact_mod_cast below
  have denPositive : (0 : Rat) < 2 * den := by positivity
  apply le_antisymm
  · rw [halfUp_le_iff, ← NNRat.coe_lt_coe]
    push_cast
    apply lt_of_mul_lt_mul_left _ denPositive.le
    linarith
  · apply Nat.le_floor
    rw [← NNRat.coe_le_coe]
    push_cast
    apply le_of_mul_le_mul_left _ denPositive
    linarith

end Rounding
