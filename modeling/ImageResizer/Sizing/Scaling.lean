import ImageResizer.Sizing
import Mathlib.Data.Rat.Cast.Order
import Mathlib.Tactic.Linarith
import Mathlib.Tactic.FieldSimp

/-!
# Scaling one axis by the ratio of the other

`resize_dimensions` multiplies both axes by one ratio.  The axis whose ratio was chosen
comes out exactly as the box named it, because doubles are precise enough for every
`u32`; the other axis is derived, and nothing in the box bounds it.
-/

namespace ImageResizer

open Rounding

theorem double_mono {small large : NNRat} (ordered : small ≤ large) :
    double small ≤ double large :=
  nearest_mono ordered (by decide)

theorem double_le (value : NNRat) : (double value : Rat) ≤ value + value / 2 ^ 53 := by
  exact_mod_cast (nearest_le value : double value ≤ _)

theorem le_double (value : NNRat) : (value : Rat) ≤ double value + value / 2 ^ 53 := by
  exact_mod_cast (le_nearest value : value ≤ double value + _)

/-- The axis `other` when its sibling goes from `reference` to `named`. -/
def derived (named reference other : Nat) : Nat :=
  max 1 (halfUp (double (other * double (named / reference))))

/-- Scaling up and down again by the same ratio is off by less than a half, and so is
exact after rounding. -/
theorem halfUp_scaled (named reference : Nat) (positive : 0 < reference)
    (small : named ≤ u32Max) :
    halfUp (double (reference * double (named / reference))) = named := by
  have refPos : (0 : Rat) < reference := by exact_mod_cast positive
  have namedNonneg : (0 : Rat) ≤ named := by exact_mod_cast Nat.zero_le named
  have namedSmall : (named : Rat) ≤ 2 ^ 32 := by
    have cast : named ≤ 2 ^ 32 := small.trans (by decide)
    exact_mod_cast cast
  set ratio : NNRat := named / reference with ratioIs
  set product : NNRat := reference * double ratio with productIs
  have exact : (reference : Rat) * ratio = named := by
    rw [ratioIs]
    push_cast
    field_simp
  have productUp : (product : Rat) ≤ named + named / 2 ^ 53 := by
    have scaled := mul_le_mul_of_nonneg_left (double_le ratio) refPos.le
    rw [mul_add, mul_div_assoc', exact] at scaled
    rw [productIs]
    push_cast
    exact scaled
  have productDown : (named : Rat) ≤ product + named / 2 ^ 53 := by
    have scaled := mul_le_mul_of_nonneg_left (le_double ratio) refPos.le
    rw [mul_add, mul_div_assoc', exact] at scaled
    rw [productIs]
    push_cast
    exact scaled
  have up := double_le product
  have down := le_double product
  apply le_antisymm
  · rw [halfUp_le_iff, ← NNRat.cast_lt (K := Rat)]
    push_cast
    linarith
  · have near : (double product : Rat) ≤ halfUp (double product) + 1 / 2 := by
      exact_mod_cast le_halfUp (double product)
    have strict : (named : Rat) < (halfUp (double product) + 1 : Nat) := by
      push_cast
      linarith
    exact Nat.lt_add_one_iff.mp (by exact_mod_cast strict)

theorem derived_self (named reference : Nat) (positive : 0 < reference)
    (asked : 0 < named) (small : named ≤ u32Max) : derived named reference reference = named := by
  rw [derived, halfUp_scaled named reference positive small]
  omega

/-- A derived axis stays within a bound exactly when the scaled value rounds to it. -/
theorem derived_le_iff (named reference other bound : Nat) (positive : 0 < bound) :
    derived named reference other ≤ bound ↔
      double (other * double (named / reference)) < bound + 1 / 2 := by
  rw [derived, max_le_iff, halfUp_le_iff]
  exact ⟨fun both => both.2, fun below => ⟨positive, below⟩⟩

/-- A larger ratio derives a larger axis. -/
theorem derived_mono {first second reference base : Nat} (other : Nat)
    (ratios : double ((first : NNRat) / reference) ≤ double ((second : NNRat) / base)) :
    derived first reference other ≤ derived second base other := by
  unfold derived
  apply max_le_max le_rfl
  exact halfUp_mono (double_mono (mul_le_mul_of_nonneg_left ratios zero_le))

/-- An axis derived by a ratio that does not grow its reference does not grow. -/
theorem derived_le_self {named reference other : Nat} (shrinks : named ≤ reference)
    (positive : 0 < reference) (otherPos : 0 < other) (otherSmall : other ≤ u32Max) :
    derived named reference other ≤ other := by
  have ratios : double ((named : NNRat) / reference) ≤ double ((other : NNRat) / other) := by
    apply double_mono
    have referenceCast : (0 : NNRat) < reference := by exact_mod_cast positive
    have otherCast : (other : NNRat) ≠ 0 := by exact_mod_cast otherPos.ne'
    rw [div_self otherCast, div_le_one referenceCast]
    exact_mod_cast shrinks
  calc derived named reference other
      ≤ derived other other other := derived_mono other ratios
    _ = other := derived_self other other otherPos otherPos otherSmall

variable (source : Size) (nwidth nheight : Nat) (fill : Bool)

/-- The width's ratio is the one the mode picks. -/
def WidthDecides : Prop :=
  if fill then double (nheight / source.height) ≤ double (nwidth / source.width)
  else double (nwidth / source.width) ≤ double (nheight / source.height)

/-- The height's ratio is the one the mode picks. -/
def HeightDecides : Prop :=
  if fill then double (nwidth / source.width) ≤ double (nheight / source.height)
  else double (nheight / source.height) ≤ double (nwidth / source.width)

theorem width_or_height_decides :
    WidthDecides source nwidth nheight fill ∨ HeightDecides source nwidth nheight fill := by
  unfold WidthDecides HeightDecides
  cases fill with
  | false => exact le_total _ _
  | true => exact le_total _ _

variable {source nwidth nheight fill}

theorem resizeDimensions_of_width (decides : WidthDecides source nwidth nheight fill)
    (positive : 0 < nwidth) (small : nwidth ≤ u32Max) :
    resizeDimensions source nwidth nheight fill =
      if u32Max < derived nwidth source.width source.height then
        (min u32Max (derived u32Max source.height source.width), u32Max)
      else (nwidth, derived nwidth source.width source.height) := by
  have ratio : (if fill then
        max (double ((nwidth : NNRat) / source.width)) (double (nheight / source.height))
      else min (double ((nwidth : NNRat) / source.width)) (double (nheight / source.height))) =
      double (nwidth / source.width) := by
    unfold WidthDecides at decides
    cases fill with
    | false => exact min_eq_left decides
    | true => exact max_eq_left decides
  unfold resizeDimensions
  simp only [ratio]
  have own := derived_self nwidth source.width source.widthPos positive small
  unfold derived at own ⊢
  rw [own, if_neg (not_lt.mpr small)]

theorem resizeDimensions_of_height (decides : HeightDecides source nwidth nheight fill)
    (positive : 0 < nheight) (small : nheight ≤ u32Max) :
    resizeDimensions source nwidth nheight fill =
      if u32Max < derived nheight source.height source.width then
        (u32Max, min u32Max (derived u32Max source.width source.height))
      else (derived nheight source.height source.width, nheight) := by
  have ratio : (if fill then
        max (double ((nwidth : NNRat) / source.width)) (double (nheight / source.height))
      else min (double ((nwidth : NNRat) / source.width)) (double (nheight / source.height))) =
      double (nheight / source.height) := by
    unfold HeightDecides at decides
    cases fill with
    | false => exact min_eq_right decides
    | true => exact max_eq_right decides
  unfold resizeDimensions
  simp only [ratio]
  have own := derived_self nheight source.height source.heightPos positive small
  unfold derived at own ⊢
  rw [own, if_neg (not_lt.mpr small)]

/-- Fitting never leaves the box. -/
theorem resizeDimensions_fit_le (widthPos : 0 < nwidth) (heightPos : 0 < nheight)
    (widthSmall : nwidth ≤ u32Max) (heightSmall : nheight ≤ u32Max) :
    (resizeDimensions source nwidth nheight false).1 ≤ nwidth ∧
      (resizeDimensions source nwidth nheight false).2 ≤ nheight := by
  rcases width_or_height_decides source nwidth nheight false with width | height
  case inl =>
      have other : derived nwidth source.width source.height ≤ nheight :=
        (derived_mono _ width).trans
          (derived_self nheight source.height source.heightPos heightPos heightSmall).le
      rw [resizeDimensions_of_width width widthPos widthSmall, if_neg (by omega)]
      exact ⟨le_rfl, other⟩
  case inr =>
      have other : derived nheight source.height source.width ≤ nwidth :=
        (derived_mono _ height).trans
          (derived_self nwidth source.width source.widthPos widthPos widthSmall).le
      rw [resizeDimensions_of_height height heightPos heightSmall, if_neg (by omega)]
      exact ⟨other, le_rfl⟩

theorem resizeDimensions_pos :
    0 < (resizeDimensions source nwidth nheight fill).1 ∧
      0 < (resizeDimensions source nwidth nheight fill).2 := by
  unfold resizeDimensions
  dsimp only
  have large : 0 < u32Max := by decide
  split_ifs <;> constructor <;> simp only [] <;> omega

theorem resizeDimensions_le_u32Max :
    (resizeDimensions source nwidth nheight fill).1 ≤ u32Max ∧
      (resizeDimensions source nwidth nheight fill).2 ≤ u32Max := by
  unfold resizeDimensions
  dsimp only
  split_ifs <;> constructor <;> simp only [] <;> omega

end ImageResizer
