import ImageResizer.Sizing.NoUpscale

/-!
# Sizing a reduced source

The box of a request caps its axes at the source, and the resize derives the other axis from
it.  A box that fits into a smaller source is the box of that source, and a source that was
halved exactly is resized to what the full one is: the ratios are exact multiples of each
other, and rounding goes with powers of two.
-/

namespace ImageResizer

/-- Both axes of a size are the same power of two times those of another. -/
structure Size.TimesPower (size reduced : Size) (power : Nat) : Prop where
  width : size.width = 2 ^ power * reduced.width
  height : size.height = 2 ^ power * reduced.height

variable {size reduced : Size} {power : Nat}

theorem double_pow_mul (power : Nat) (value : NNRat) :
    double (2 ^ power * value) = 2 ^ power * double value := by
  have rounded := @Rounding.nearest_zpow_mul 53 (power : Int) value
  rw [zpow_natCast] at rounded
  exact rounded

/-- What `resize_dimensions` computes does not change when the source is halved exactly. -/
theorem resizeDimensions_timesPower (times : size.TimesPower reduced power) (nwidth nheight : Nat)
    (fill : Bool) :
    resizeDimensions reduced nwidth nheight fill = resizeDimensions size nwidth nheight fill := by
  have ratio {long short : Nat} (same : long = 2 ^ power * short) (wanted : Nat) :
      double (wanted / short) = 2 ^ power * double (wanted / long) := by
    rw [← double_pow_mul, same]
    congr 1
    push_cast
    rw [← mul_div_assoc, mul_div_mul_left _ _ (pow_ne_zero _ two_ne_zero)]
  have scaled {long short : Nat} (same : long = 2 ^ power * short) (factor : NNRat) :
      (short : NNRat) * (2 ^ power * factor) = long * factor := by
    rw [same]
    push_cast
    ring
  have widths := ratio times.width
  have heights := ratio times.height
  have chosen : (if fill = true then max (double (nwidth / reduced.width))
        (double (nheight / reduced.height))
      else min (double (nwidth / reduced.width)) (double (nheight / reduced.height))) =
      2 ^ power * if fill = true then max (double (nwidth / size.width))
        (double (nheight / size.height))
      else min (double (nwidth / size.width)) (double (nheight / size.height)) := by
    rw [widths, heights]
    split
    · exact (mul_max_of_nonneg _ _ zero_le).symm
    · exact (mul_min_of_nonneg _ _ zero_le).symm
  rw [resizeDimensions, resizeDimensions]
  dsimp only
  rw [chosen, widths, heights, scaled times.width, scaled times.height, scaled times.width,
    scaled times.height]


theorem finalAxis_of_within {enlarge : Bool} {scaled minimum : Option Nat}
    {source reduced axis : Nat} (smaller : reduced ≤ source)
    (named : finalAxis enlarge scaled minimum source = some axis) (fits : axis ≤ reduced) :
    finalAxis enlarge scaled minimum reduced = some axis := by
  cases scaled with
  | none =>
      cases minimum with
      | none => cases named
      | some least =>
          obtain rfl := Option.some.inj named
          rw [finalAxis, le_antisymm smaller ((le_max_left _ _).trans fits)]
  | some wanted =>
      obtain rfl := Option.some.inj named
      cases enlarge with
      | true => rfl
      | false =>
          have capped : min wanted source = min wanted reduced := by
            simp only [Bool.false_eq_true, if_false] at fits
            omega
          simp only [finalAxis, Bool.false_eq_true, if_false, capped]

theorem finalAxis_none {enlarge : Bool} {scaled minimum : Option Nat} {source : Nat}
    (reduced : Nat) (unnamed : finalAxis enlarge scaled minimum source = none) :
    finalAxis enlarge scaled minimum reduced = none := by
  cases scaled with
  | none =>
      cases minimum with
      | none => rfl
      | some least => cases unnamed
  | some wanted => cases unnamed

/-- An axis of the box that is within a smaller source is what that source gives. -/
theorem finalAxis_reduced {enlarge : Bool} {scaled minimum : Option Nat} {source reduced : Nat}
    (smaller : reduced ≤ source)
    (fits : ∀ axis, finalAxis enlarge scaled minimum source = some axis → axis ≤ reduced) :
    finalAxis enlarge scaled minimum reduced = finalAxis enlarge scaled minimum source := by
  cases named : finalAxis enlarge scaled minimum source with
  | none => exact finalAxis_none reduced named
  | some axis => exact finalAxis_of_within smaller named (fits axis named)

theorem throughRotation_injective (query : ResizeQuery) :
    Function.Injective (throughRotation query) := by
  intro first second same
  rw [throughRotation, throughRotation] at same
  split at same
  case isTrue =>
      obtain ⟨heights, widths⟩ := Prod.mk.inj same
      exact Prod.ext widths heights
  case isFalse => exact same

/-- A box that fits into a smaller source is the box of that source. -/
theorem resizeBox_reduced (query : ResizeQuery) (smaller : reduced.width ≤ size.width ∧
      reduced.height ≤ size.height)
    (widthFits : ∀ width, (effectiveResizeBox query size).resizeBox.1 = some width →
      width ≤ reduced.width)
    (heightFits : ∀ height, (effectiveResizeBox query size).resizeBox.2 = some height →
      height ≤ reduced.height) :
    (effectiveResizeBox query reduced).resizeBox = (effectiveResizeBox query size).resizeBox := by
  have axes := effectiveResizeBox_throughRotation query size
  apply throughRotation_injective query
  rw [effectiveResizeBox_throughRotation, axes]
  rw [throughRotation] at axes
  rw [finalSource, finalSource]
  cases swap : rotateSwapsAxes query.rotate with
  | false =>
      rw [finalSource, swap] at axes
      obtain ⟨widths, heights⟩ := Prod.mk.inj axes
      rw [widths] at widthFits
      rw [heights] at heightFits
      apply Prod.ext
      · exact finalAxis_reduced smaller.1 widthFits
      · exact finalAxis_reduced smaller.2 heightFits
  | true =>
      rw [finalSource, swap] at axes
      obtain ⟨heights, widths⟩ := Prod.mk.inj axes
      rw [widths] at widthFits
      rw [heights] at heightFits
      apply Prod.ext
      · exact finalAxis_reduced smaller.2 heightFits
      · exact finalAxis_reduced smaller.1 widthFits

theorem Size.eq_of_dimensions {first second : Size} (same : first.dimensions = second.dimensions) :
    first = second := by
  obtain ⟨width, height⟩ := Prod.mk.inj same
  exact Size.ext width height

/-- The resize to one box of a source and of one it was halved to exactly. -/
theorem resizeStep_timesPower (query : ResizeQuery) (times : size.TimesPower reduced power)
    {box : PartialBox} (asked : box ≠ (none, none)) :
    (resizeStep query box reduced reduced).raster reduced =
        (resizeStep query box size size).raster size ∧
      (resizeStep query box reduced reduced).window = (resizeStep query box size size).window := by
  have fit (width height : Nat) :
      (firResize reduced width height).raster reduced = (firResize size width height).raster size ∧
        (firResize reduced width height).window = (firResize size width height).window := by
    constructor
    · apply Size.eq_of_dimensions
      rw [firResize_dimensions, firResize_dimensions, resizeDimensions_timesPower times]
    · rw [firResize_window, firResize_window]
  have fill (width height : Nat) :
      (firResizeToFill reduced width height query.gravity).raster reduced =
          (firResizeToFill size width height query.gravity).raster size ∧
        (firResizeToFill reduced width height query.gravity).window =
          (firResizeToFill size width height query.gravity).window := by
    have rasters : (firResizeToFill reduced width height query.gravity).raster reduced =
        (firResizeToFill size width height query.gravity).raster size := by
      apply Size.eq_of_dimensions
      rw [firResizeToFill_dimensions, firResizeToFill_dimensions,
        resizeDimensions_timesPower times]
    rw [(firResizeToFill_parts reduced width height query.gravity).2,
      (firResizeToFill_parts size width height query.gravity).2, rasters]
    exact ⟨rfl, rfl⟩
  have landscape : decide (reduced.height ≤ reduced.width) = decide (size.height ≤ size.width) := by
    rw [times.width, times.height, decide_eq_decide]
    exact (Nat.mul_le_mul_left_iff (Nat.two_pow_pos power)).symm
  rcases box with ⟨_ | width, _ | height⟩
  · exact absurd rfl asked
  · exact fit _ _
  · exact fit _ _
  · rw [resizeStep, resizeStep]
    cases query.resizeType with
    | fit => exact fit _ _
    | fill => exact fill _ _
    | force =>
        rw [firResizeExact_raster, firResizeExact_raster, firResizeExact_window,
          firResizeExact_window]
        exact ⟨rfl, rfl⟩
    | auto =>
        dsimp only
        rw [landscape]
        split
        · exact fill _ _
        · exact fit _ _

end ImageResizer
