import ImageResizer.Sizing.Scaling

/-!
# The output cap

`check_output_dimensions` runs before the source is known and bounds the axes a request
names.  The resize step then allocates rasters whose other axis follows from the
source's aspect ratio: the open axis of a one-axis request, and the overflow of a cover
before its crop.  Those axes are bounded by nothing, and the cap holds exactly when they
happen to land inside it.
-/

namespace ImageResizer

open Rounding

/-- What the URL grammar promises of the multipliers. -/
structure ResizeQuery.PositiveMultipliers (query : ResizeQuery) : Prop where
  zoomX : query.zoomX.value.isPositive = true
  zoomY : query.zoomY.value.isPositive = true
  dpr : query.dpr.value.isPositive = true

section Acceptance

/-- Applying two factors in turn rounds to no more than applying the larger of each with
one at once, as long as the latter stays in the range of a `u32`. -/
theorem halfUp_factors_le (value : Nat) (zoom dpr : NNRat)
    (small : double (value * double (max zoom 1 * max dpr 1)) ≤ u32Max) :
    halfUp (double (double (value * zoom) * dpr)) ≤
      ⌈double (value * double (max zoom 1 * max dpr 1))⌉₊ := by
  set bound : NNRat := double (value * double (max zoom 1 * max dpr 1)) with boundIs
  set both : NNRat := max zoom 1 * max dpr 1 with bothIs
  have boundSmall : (bound : Rat) ≤ 2 ^ 32 := by
    have cast : (bound : Rat) ≤ (u32Max : Nat) := by exact_mod_cast small
    exact cast.trans (by norm_num [u32Max])
  have valueNonneg : (0 : Rat) ≤ value := by exact_mod_cast Nat.zero_le value
  have dprNonneg : (0 : Rat) ≤ dpr := dpr.coe_nonneg
  have product : (value : Rat) * zoom * dpr ≤ value * both := by
    rw [mul_assoc]
    apply mul_le_mul_of_nonneg_left _ valueNonneg
    rw [bothIs]
    exact_mod_cast mul_le_mul (le_max_left zoom 1) (le_max_left dpr 1) zero_le zero_le
  have outer := le_double (value * double both)
  rw [← boundIs] at outer
  have inner := mul_le_mul_of_nonneg_left (le_double both) valueNonneg
  have first := mul_le_mul_of_nonneg_right (double_le (value * zoom)) dprNonneg
  have second := double_le (double (value * zoom) * dpr)
  push_cast at outer first second
  rw [halfUp_le_iff, ← NNRat.cast_lt (K := Rat)]
  have ceiling : (bound : Rat) ≤ (⌈bound⌉₊ : Nat) := by exact_mod_cast Nat.le_ceil bound
  push_cast
  linarith

variable {value least limit : Nat} {explicit minimum : Option Nat} {zoom dpr : FloatVal}
variable {axisName : String}

theorem checkAxisBound_explicit
    (accepted : checkAxisBound (some value) minimum zoom dpr limit axisName = .ok ()) :
    (((FloatVal.ofNat value).mul ((zoom.max (.ofNat 1)).mul (dpr.max (.ofNat 1)))).ceil).toUnsigned
      u64Max ≤ limit := by
  unfold checkAxisBound at accepted
  cases minimum with
  | none =>
      simp only [Option.map_some] at accepted
      split at accepted
      case isTrue => cases accepted
      case isFalse within => exact not_lt.mp within
  | some least =>
      simp only [Option.map_some] at accepted
      split at accepted
      case isTrue => cases accepted
      case isFalse within => exact (le_max_left _ _).trans (not_lt.mp within)

theorem checkAxisBound_minimum
    (accepted : checkAxisBound explicit (some least) zoom dpr limit axisName = .ok ()) :
    least ≤ limit := by
  unfold checkAxisBound at accepted
  cases explicit with
  | none =>
      simp only [Option.map_none] at accepted
      split at accepted
      case isTrue => cases accepted
      case isFalse within => exact not_lt.mp within
  | some value =>
      simp only [Option.map_some] at accepted
      split at accepted
      case isTrue => cases accepted
      case isFalse within => exact (le_max_right _ _).trans (not_lt.mp within)

theorem isPositive_cases (positive : zoom.isPositive = true) :
    zoom = .inf false ∨ ∃ size, 0 < size ∧ zoom = .finite false size := by
  cases zoom with
  | nan => cases positive
  | inf negative =>
      cases negative with
      | false => exact .inl rfl
      | true => cases positive
  | finite negative size =>
      cases negative with
      | false => exact .inr ⟨size, by simpa [FloatVal.isPositive] using positive, rfl⟩
      | true => cases positive

/-- The axis two finite factors make of a value. -/
theorem scaleAxis_finite (value : Nat) (zoom dpr : NNRat) :
    scaleAxis value (.finite false zoom) (.finite false dpr) =
      min u32Max (max 1 (halfUp (double (double (value * zoom) * dpr)))) := by
  simp only [scaleAxis, FloatVal.ofNat, FloatVal.mul_finite, FloatVal.round,
    FloatVal.max_finite_false, FloatVal.toUnsigned]
  rw [← Nat.cast_max, Nat.floor_natCast, max_comm]

/-- A count of pixels that is at least one before its cast is one after it. -/
theorem toUnsigned_max_one_pos (value : FloatVal) :
    0 < (value.max (.ofNat 1)).toUnsigned u32Max := by
  have unit (size : NNRat) (above : 1 ≤ size) : 0 < min u32Max ⌊size⌋₊ := by
    have whole : 1 ≤ ⌊size⌋₊ := Nat.le_floor (by exact_mod_cast above)
    have large : 0 < u32Max := by decide
    omega
  cases value with
  | nan => exact unit 1 le_rfl
  | inf negative => cases negative <;> decide
  | finite negative size =>
      cases negative with
      | false =>
          simp only [FloatVal.ofNat, FloatVal.max_finite_false, FloatVal.toUnsigned]
          exact unit _ (by simp)
      | true =>
          have below : FloatVal.signed true size < FloatVal.signed false ((1 : Nat) : NNRat) := by
            have nonneg : (0 : Rat) ≤ size := size.coe_nonneg
            simp only [FloatVal.signed, if_true, Bool.false_eq_true, if_false]
            push_cast
            linarith
          simp only [FloatVal.ofNat, FloatVal.max, FloatVal.less, below, decide_true, if_true,
            FloatVal.toUnsigned]
          exact unit _ (by simp)

theorem scaleAxis_pos (value : Nat) (zoom dpr : FloatVal) : 0 < scaleAxis value zoom dpr :=
  toUnsigned_max_one_pos _

/-- A zero axis resolves to one pixel whatever multiplies it. -/
theorem scaleAxis_zero (zoomPos : zoom.isPositive = true) (dprPos : dpr.isPositive = true) :
    scaleAxis 0 zoom dpr = 1 := by
  rcases isPositive_cases zoomPos with rfl | ⟨zoomSize, -, rfl⟩
  case inl => rfl
  case inr =>
      have noPixels : double ((0 : Nat) * zoomSize) = 0 := by simp [double]
      rcases isPositive_cases dprPos with rfl | ⟨dprSize, -, rfl⟩
      case inl =>
          simp only [scaleAxis, FloatVal.ofNat, noPixels, FloatVal.mul, if_true,
             FloatVal.round, FloatVal.max, FloatVal.toUnsigned]
          simp [u32Max]
      case inr =>
          have noneLeft : double (0 * dprSize) = 0 := by simp [double]
          have whole : halfUp 0 = 0 := by exact_mod_cast halfUp_natCast 0
          rw [scaleAxis_finite, noPixels, noneLeft, whole]
          decide

/-- An infinite multiplier is accepted for a zero axis only. -/
theorem multiplier_finite (zoomPos : zoom.isPositive = true) (dprPos : dpr.isPositive = true)
    (asked : 0 < value) (limitSmall : limit ≤ u32Max)
    (accepted : checkAxisBound (some value) minimum zoom dpr limit axisName = .ok ()) :
    ∃ zoomSize dprSize, zoom = .finite false zoomSize ∧ dpr = .finite false dprSize := by
  have within := checkAxisBound_explicit accepted
  have room : ¬ u64Max ≤ limit := not_le.mpr (limitSmall.trans_lt (by decide))
  have valueCast : (value : NNRat) ≠ 0 := by exact_mod_cast asked.ne'
  have atLeastOne (size : NNRat) : max size 1 ≠ 0 :=
    (zero_lt_one.trans_le (le_max_right size 1)).ne'
  have unit : FloatVal.less (.inf false) (.finite false ((1 : Nat) : NNRat)) = false := rfl
  rcases isPositive_cases zoomPos with rfl | ⟨zoomSize, -, rfl⟩
  case inl =>
      exfalso
      rcases isPositive_cases dprPos with rfl | ⟨dprSize, -, rfl⟩
      case inl =>
          simp [FloatVal.ofNat, FloatVal.max, FloatVal.less, FloatVal.mul, FloatVal.ceil,
            FloatVal.toUnsigned, asked.ne'] at within
          exact room within
      case inr =>
          simp only [FloatVal.ofNat, FloatVal.max_finite_false] at within
          simp [FloatVal.max, FloatVal.less, FloatVal.mul, FloatVal.ceil,
            FloatVal.toUnsigned, asked.ne', atLeastOne] at within
          exact room within
  case inr =>
      rcases isPositive_cases dprPos with rfl | ⟨dprSize, -, rfl⟩
      case inl =>
          exfalso
          simp only [FloatVal.ofNat, FloatVal.max_finite_false] at within
          simp [FloatVal.max, FloatVal.less, FloatVal.mul, FloatVal.ceil,
            FloatVal.toUnsigned, asked.ne', atLeastOne] at within
          exact room within
      case inr => exact ⟨zoomSize, dprSize, rfl, rfl⟩

/-- The value two finite factors scale an accepted axis to, before the floor of one pixel. -/
theorem factors_le_limit {zoomSize dprSize : NNRat} (limitSmall : limit ≤ u32Max)
    (accepted : checkAxisBound (some value) minimum (.finite false zoomSize)
      (.finite false dprSize) limit axisName = .ok ()) :
    halfUp (double (double (value * zoomSize) * dprSize)) ≤ limit := by
  have within := checkAxisBound_explicit accepted
  simp only [FloatVal.ofNat, FloatVal.max_finite_false, FloatVal.mul_finite, FloatVal.ceil,
    FloatVal.toUnsigned, Nat.floor_natCast, Nat.cast_one] at within
  have room : limit < u64Max := limitSmall.trans_lt (by decide)
  have ceiling : ⌈double (value * double (max zoomSize 1 * max dprSize 1))⌉₊ ≤ limit := by
    omega
  have small : double (value * double (max zoomSize 1 * max dprSize 1)) ≤ u32Max :=
    (Nat.le_ceil _).trans (by exact_mod_cast ceiling.trans limitSmall)
  exact (halfUp_factors_le value zoomSize dprSize small).trans ceiling

/-- An accepted explicit axis resolves to no more than the limit, or to the single pixel
every axis is floored at. -/
theorem scaleAxis_le (zoomPos : zoom.isPositive = true) (dprPos : dpr.isPositive = true)
    (limitSmall : limit ≤ u32Max)
    (accepted : checkAxisBound (some value) minimum zoom dpr limit axisName = .ok ()) :
    scaleAxis value zoom dpr ≤ max 1 limit := by
  rcases Nat.eq_zero_or_pos value with zero | asked
  case inl =>
      rw [zero, scaleAxis_zero zoomPos dprPos]
      exact le_max_left 1 limit
  case inr =>
      obtain ⟨zoomSize, dprSize, rfl, rfl⟩ :=
        multiplier_finite zoomPos dprPos asked limitSmall accepted
      have factors := factors_le_limit limitSmall accepted
      rw [scaleAxis_finite]
      omega

/-- One axis of the box an accepted request resolves to. -/
theorem boxAxis_within {enlarge : Bool} {source axis : Nat}
    (zoomPos : zoom.isPositive = true) (dprPos : dpr.isPositive = true)
    (limitSmall : limit ≤ u32Max) (sourcePos : 0 < source) (sourceSmall : source ≤ u32Max)
    (accepted : checkAxisBound explicit minimum zoom dpr limit axisName = .ok ())
    (resolved : minimumFloor minimum
      (explicit.map fun value => enlargeGuard enlarge (scaleAxis value zoom dpr) source) source =
        some axis) :
    0 < axis ∧ axis ≤ u32Max ∧ axis ≤ max limit source := by
  have wanted (value : Nat) (named : explicit = some value) :
      0 < enlargeGuard enlarge (scaleAxis value zoom dpr) source ∧
        enlargeGuard enlarge (scaleAxis value zoom dpr) source ≤ max limit source := by
    subst named
    have bounded := scaleAxis_le zoomPos dprPos limitSmall accepted
    have positive := scaleAxis_pos value zoom dpr
    unfold enlargeGuard
    split <;> omega
  have floor (least : Nat) (named : minimum = some least) : least ≤ limit := by
    subst named
    exact checkAxisBound_minimum accepted
  cases explicit with
  | none =>
      cases minimum with
      | none => cases resolved
      | some least =>
          have least_le := floor least rfl
          simp only [minimumFloor, Option.map_none, Option.getD_none, Option.some.injEq] at resolved
          omega
  | some value =>
      have value_le := wanted value rfl
      cases minimum with
      | none =>
          simp only [minimumFloor, Option.map_some, Option.some.injEq] at resolved
          omega
      | some least =>
          have least_le := floor least rfl
          simp only [minimumFloor, Option.map_some, Option.getD_some, Option.some.injEq] at resolved
          omega

end Acceptance

section Cap

variable (query : ResizeQuery) (config : PerformanceConfig) (source : Size)

/-- Every raster the resize step fills stays, in final orientation, within the larger of
the configured maximum and the input's own size. -/
def RastersWithin : Prop :=
  ∀ raster,
    (resizeStep query (effectiveResizeBox query source).resizeBox source source).scaled =
      some raster →
    (raster.swapIf (rotateSwapsAxes query.rotate)).width ≤
      max config.maxOutputWidth.toNat (source.swapIf (rotateSwapsAxes query.rotate)).width ∧
    (raster.swapIf (rotateSwapsAxes query.rotate)).height ≤
      max config.maxOutputHeight.toNat (source.swapIf (rotateSwapsAxes query.rotate)).height

/-- The larger of the configured maximum and the source, for the axes of the raster
before rotation. -/
def capWidth : Nat :=
  max (if rotateSwapsAxes query.rotate then config.maxOutputHeight.toNat
    else config.maxOutputWidth.toNat) source.width

def capHeight : Nat :=
  max (if rotateSwapsAxes query.rotate then config.maxOutputWidth.toNat
    else config.maxOutputHeight.toNat) source.height

/-- The axis `other`, brought to the ratio `named / reference`, rounds to no more than the
cap, or the cap is no limit at all. -/
def AspectFits (named reference other cap : Nat) : Prop :=
  u32Max ≤ cap ∨ double (other * double (named / reference)) < cap + 1 / (2 : Nat)

instance (named reference other cap : Nat) : Decidable (AspectFits named reference other cap) :=
  inferInstanceAs (Decidable (_ ∨ _))

/-- The box is covered and then cropped, rather than fit or forced. -/
def Covers (width height : Nat) : Prop :=
  query.resizeType = .fill ∨
    query.resizeType = .auto ∧
      decide (source.height ≤ source.width) = decide (height ≤ width)

instance (width height : Nat) : Decidable (Covers query source width height) :=
  inferInstanceAs (Decidable (_ ∨ _))

/-- Each axis that the source's aspect ratio derives lands within its cap: the axis a
one-axis box leaves open, and both axes of a cover. -/
def DerivedAxesFit : Prop :=
  match (effectiveResizeBox query source).resizeBox with
  | (some width, none) =>
      AspectFits width source.width source.height (capHeight query config source)
  | (none, some height) =>
      AspectFits height source.height source.width (capWidth query config source)
  | (some width, some height) =>
      Covers query source width height →
        AspectFits width source.width source.height (capHeight query config source) ∧
          AspectFits height source.height source.width (capWidth query config source)
  | (none, none) => True

end Cap

section Rasters

variable {source : Size} {nwidth nheight capW capH : Nat} {fill : Bool}

/-- A resize fills no raster past the given caps. -/
def Resize.Within (resize : Resize) (capW capH : Nat) : Prop :=
  ∀ raster, resize.scaled = some raster → raster.width ≤ capW ∧ raster.height ≤ capH

theorem Size.floored_of_fits {width height : Nat} (widthPos : 0 < width)
    (heightPos : 0 < height) (widthFits : width ≤ u32Max) (heightFits : height ≤ u32Max) :
    Size.floored width height = ⟨width, height, widthPos, heightPos, widthFits, heightFits⟩ := by
  unfold floored
  ext <;> simp only [] <;> omega

theorem firResizeExact_within_iff {width height : Nat} (widthPos : 0 < width)
    (heightPos : 0 < height) (widthFits : width ≤ u32Max) (heightFits : height ≤ u32Max)
    (sourceWidth : source.width ≤ capW) (sourceHeight : source.height ≤ capH) :
    (firResizeExact source width height).Within capW capH ↔ width ≤ capW ∧ height ≤ capH := by
  unfold firResizeExact Resize.Within
  rw [Size.floored_of_fits widthPos heightPos widthFits heightFits]
  dsimp only
  split
  case isTrue same =>
      subst same
      simp only [Resize.keep, reduceCtorEq, false_implies, implies_true, true_iff]
      exact ⟨sourceWidth, sourceHeight⟩
  case isFalse different => simp

theorem firResize_within_iff (widthPos : 0 < nwidth) (heightPos : 0 < nheight)
    (widthFits : nwidth ≤ u32Max) (heightFits : nheight ≤ u32Max)
    (sourceWidth : source.width ≤ capW) (sourceHeight : source.height ≤ capH) :
    (firResize source nwidth nheight).Within capW capH ↔
      (resizeDimensions source nwidth nheight false).1 ≤ capW ∧
        (resizeDimensions source nwidth nheight false).2 ≤ capH := by
  unfold firResize
  split
  case isTrue same =>
      have fits := @resizeDimensions_fit_le source nwidth nheight widthPos heightPos widthFits
        heightFits
      simp only [Prod.mk.injEq] at same
      simp only [Resize.Within, Resize.keep, reduceCtorEq, false_implies, implies_true, true_iff]
      omega
  case isFalse different =>
      have positive := @resizeDimensions_pos source nwidth nheight false
      have fits := @resizeDimensions_le_u32Max source nwidth nheight false
      exact firResizeExact_within_iff positive.1 positive.2 fits.1 fits.2 sourceWidth sourceHeight

/-- What a cover does: the exact resize to the covering raster, and the anchored window
of that raster. -/
theorem firResizeToFill_parts (source : Size) (nwidth nheight : Nat) (gravity : Gravity) :
    (firResizeToFill source nwidth nheight gravity).scaled =
        (firResizeExact source (resizeDimensions source nwidth nheight true).1
          (resizeDimensions source nwidth nheight true).2).scaled ∧
      (firResizeToFill source nwidth nheight gravity).window =
        some (cropImm ((firResizeToFill source nwidth nheight gravity).raster source)
          (gravityAnchor gravity ((firResizeToFill source nwidth nheight gravity).raster source)
            nwidth nheight).1
          (gravityAnchor gravity ((firResizeToFill source nwidth nheight gravity).raster source)
            nwidth nheight).2 nwidth nheight) := by
  rw [firResizeToFill]
  -- Named before the record is read, so that no size is computed on the way.
  generalize resizeDimensions source nwidth nheight true = target
  obtain ⟨width, height⟩ := target
  dsimp only
  generalize firResizeExact source width height = step
  obtain ⟨scaled, window⟩ := step
  rw [Resize.raster, Resize.raster]
  dsimp only
  generalize gravityAnchor gravity (scaled.getD source) nwidth nheight = anchor
  exact ⟨rfl, rfl⟩

theorem firResizeToFill_within_iff (gravity : Gravity)
    (sourceWidth : source.width ≤ capW) (sourceHeight : source.height ≤ capH) :
    (firResizeToFill source nwidth nheight gravity).Within capW capH ↔
      (resizeDimensions source nwidth nheight true).1 ≤ capW ∧
        (resizeDimensions source nwidth nheight true).2 ≤ capH := by
  have positive := @resizeDimensions_pos source nwidth nheight true
  have fits := @resizeDimensions_le_u32Max source nwidth nheight true
  rw [Resize.Within, (firResizeToFill_parts source nwidth nheight gravity).1]
  exact firResizeExact_within_iff positive.1 positive.2 fits.1 fits.2 sourceWidth sourceHeight

theorem aspectFits_iff {named reference other cap : Nat} (positive : 0 < cap) :
    AspectFits named reference other cap ↔ min u32Max (derived named reference other) ≤ cap := by
  rw [min_le_iff, derived_le_iff named reference other cap positive, AspectFits, Nat.cast_ofNat]

theorem derived_u32Max (reference : Nat) (positive : 0 < reference) :
    derived u32Max reference reference = u32Max :=
  derived_self u32Max reference positive (by decide) le_rfl

/-- When the width decides, only the derived height can pass its cap. -/
theorem dimensions_within_of_width (decides : WidthDecides source nwidth nheight fill)
    (positive : 0 < nwidth) (small : nwidth ≤ u32Max) (named : nwidth ≤ capW) :
    (resizeDimensions source nwidth nheight fill).1 ≤ capW ∧
        (resizeDimensions source nwidth nheight fill).2 ≤ capH ↔
      min u32Max (derived nwidth source.width source.height) ≤ capH := by
  rw [resizeDimensions_of_width decides positive small]
  split
  case isTrue passes =>
      have steeper : double ((u32Max : NNRat) / source.height) ≤
          double ((nwidth : NNRat) / source.width) := by
        by_contra flatter
        have below := derived_mono source.height (not_le.mp flatter).le
        rw [derived_u32Max source.height source.heightPos] at below
        omega
      have width := derived_mono source.width steeper
      rw [derived_self nwidth source.width source.widthPos positive small] at width
      dsimp only
      omega
  case isFalse stays =>
      dsimp only
      omega

/-- When the height decides, only the derived width can pass its cap. -/
theorem dimensions_within_of_height (decides : HeightDecides source nwidth nheight fill)
    (positive : 0 < nheight) (small : nheight ≤ u32Max) (named : nheight ≤ capH) :
    (resizeDimensions source nwidth nheight fill).1 ≤ capW ∧
        (resizeDimensions source nwidth nheight fill).2 ≤ capH ↔
      min u32Max (derived nheight source.height source.width) ≤ capW := by
  rw [resizeDimensions_of_height decides positive small]
  split
  case isTrue passes =>
      have steeper : double ((u32Max : NNRat) / source.width) ≤
          double ((nheight : NNRat) / source.height) := by
        by_contra flatter
        have below := derived_mono source.width (not_le.mp flatter).le
        rw [derived_u32Max source.width source.widthPos] at below
        omega
      have height := derived_mono source.height steeper
      rw [derived_self nheight source.height source.heightPos positive small] at height
      dsimp only
      omega
  case isFalse stays =>
      dsimp only
      omega

/-- A box with an open height: the height of the result is the derived one. -/
theorem openHeight_within_iff (positive : 0 < nwidth) (small : nwidth ≤ u32Max)
    (named : nwidth ≤ capW) :
    (resizeDimensions source nwidth u32Max false).1 ≤ capW ∧
        (resizeDimensions source nwidth u32Max false).2 ≤ capH ↔
      min u32Max (derived nwidth source.width source.height) ≤ capH := by
  rcases width_or_height_decides source nwidth u32Max false with width | height
  case inl => exact dimensions_within_of_width width positive small named
  case inr =>
      have largest : (0 : Nat) < u32Max := by decide
      have flat := derived_mono source.width height
      rw [derived_self nwidth source.width source.widthPos positive small] at flat
      have steep := derived_mono source.height height
      rw [derived_u32Max source.height source.heightPos] at steep
      rw [resizeDimensions_of_height height largest le_rfl, if_neg (by omega)]
      dsimp only
      omega

/-- A box with an open width: the width of the result is the derived one. -/
theorem openWidth_within_iff (positive : 0 < nheight) (small : nheight ≤ u32Max)
    (named : nheight ≤ capH) :
    (resizeDimensions source u32Max nheight false).1 ≤ capW ∧
        (resizeDimensions source u32Max nheight false).2 ≤ capH ↔
      min u32Max (derived nheight source.height source.width) ≤ capW := by
  rcases width_or_height_decides source u32Max nheight false with width | height
  case inl =>
      have largest : (0 : Nat) < u32Max := by decide
      have flat := derived_mono source.height width
      rw [derived_self nheight source.height source.heightPos positive small] at flat
      have steep := derived_mono source.width width
      rw [derived_u32Max source.width source.widthPos] at steep
      rw [resizeDimensions_of_width width largest le_rfl, if_neg (by omega)]
      dsimp only
      omega
  case inr => exact dimensions_within_of_height height positive small named

/-- A cover stays within the caps when both of its axes, each derived from the other, do. -/
theorem cover_within_iff (widthPos : 0 < nwidth) (heightPos : 0 < nheight)
    (widthSmall : nwidth ≤ u32Max) (heightSmall : nheight ≤ u32Max)
    (widthNamed : nwidth ≤ capW) (heightNamed : nheight ≤ capH) :
    (resizeDimensions source nwidth nheight true).1 ≤ capW ∧
        (resizeDimensions source nwidth nheight true).2 ≤ capH ↔
      min u32Max (derived nwidth source.width source.height) ≤ capH ∧
        min u32Max (derived nheight source.height source.width) ≤ capW := by
  rcases width_or_height_decides source nwidth nheight true with width | height
  case inl =>
      have other := derived_mono source.width width
      rw [derived_self nwidth source.width source.widthPos widthPos widthSmall] at other
      rw [dimensions_within_of_width width widthPos widthSmall widthNamed]
      omega
  case inr =>
      have other := derived_mono source.height height
      rw [derived_self nheight source.height source.heightPos heightPos heightSmall] at other
      rw [dimensions_within_of_height height heightPos heightSmall heightNamed]
      omega

end Rasters

section Main

variable {query : ResizeQuery} {config : PerformanceConfig} {source : Size}

/-- The two checks of an accepted request. -/
theorem accepted_axes (accepted : checkOutputDimensions query config = .ok ()) :
    checkAxisBound (query.width.map UInt32.toNat) (query.minWidth.map UInt32.toNat)
        query.zoomX.value query.dpr.value config.maxOutputWidth.toNat "width" = .ok () ∧
      checkAxisBound (query.height.map UInt32.toNat) (query.minHeight.map UInt32.toNat)
        query.zoomY.value query.dpr.value config.maxOutputHeight.toNat "height" = .ok () := by
  obtain ⟨⟨⟩, width, height⟩ := Failure.bind_ok accepted
  exact ⟨width, height⟩

theorem toNat_le_u32Max (value : UInt32) : value.toNat ≤ u32Max := by
  have below := value.toNat_lt
  unfold u32Max
  omega

/-- An axis of the box, seen before rotation. -/
def BoxAxis (axis : Option Nat) (cap : Nat) : Prop :=
  ∀ named, axis = some named → 0 < named ∧ named ≤ u32Max ∧ named ≤ cap

theorem box_within (multipliers : query.PositiveMultipliers)
    (accepted : checkOutputDimensions query config = .ok ()) :
    BoxAxis (effectiveResizeBox query source).resizeBox.1 (capWidth query config source) ∧
      BoxAxis (effectiveResizeBox query source).resizeBox.2 (capHeight query config source) := by
  obtain ⟨widthAccepted, heightAccepted⟩ := accepted_axes accepted
  unfold effectiveResizeBox capWidth capHeight
  generalize rotateSwapsAxes query.rotate = swap
  split
  case isTrue inactive => exact ⟨nofun, nofun⟩
  case isFalse active =>
      let finalSource := source.swapIf swap
      have width (axis : Nat) := @boxAxis_within config.maxOutputWidth.toNat
        (query.width.map UInt32.toNat) (query.minWidth.map UInt32.toNat) query.zoomX.value
        query.dpr.value "width" query.enlarge finalSource.width axis multipliers.zoomX
        multipliers.dpr (toNat_le_u32Max _) finalSource.widthPos finalSource.widthFits widthAccepted
      have height (axis : Nat) := @boxAxis_within config.maxOutputHeight.toNat
        (query.height.map UInt32.toNat) (query.minHeight.map UInt32.toNat) query.zoomY.value
        query.dpr.value "height" query.enlarge finalSource.height axis multipliers.zoomY
        multipliers.dpr (toNat_le_u32Max _) finalSource.heightPos finalSource.heightFits
        heightAccepted
      simp only [Option.map_map] at width height ⊢
      cases swap with
      | false => exact ⟨width, height⟩
      | true => exact ⟨height, width⟩

theorem rastersWithin_iff_within :
    RastersWithin query config source ↔
      (resizeStep query (effectiveResizeBox query source).resizeBox source source).Within
        (capWidth query config source) (capHeight query config source) := by
  unfold RastersWithin Resize.Within capWidth capHeight
  cases rotateSwapsAxes query.rotate with
  | false => rfl
  | true =>
      simp only [Size.swapIf, if_true, Size.swap]
      constructor
      · intro within raster filled
        exact (within raster filled).symm
      · intro within raster filled
        exact (within raster filled).symm

theorem capWidth_source : source.width ≤ capWidth query config source := le_max_right _ _

theorem capHeight_source : source.height ≤ capHeight query config source := le_max_right _ _

/-- An accepted request keeps the resize step inside the output cap exactly when every
axis that the source's aspect ratio derives lands there. -/
theorem rasters_within_iff (multipliers : query.PositiveMultipliers)
    (accepted : checkOutputDimensions query config = .ok ()) :
    RastersWithin query config source ↔ DerivedAxesFit query config source := by
  obtain ⟨boxWidth, boxHeight⟩ := @box_within query config source multipliers accepted
  have capW := @capWidth_source query config source
  have capH := @capHeight_source query config source
  have capWPos := source.widthPos.trans_le capW
  have capHPos := source.heightPos.trans_le capH
  rw [rastersWithin_iff_within]
  unfold DerivedAxesFit resizeStep
  match box : (effectiveResizeBox query source).resizeBox with
  | (none, none) => simp [Resize.Within, Resize.keep]
  | (some width, none) =>
      rw [box] at boxWidth
      obtain ⟨positive, small, named⟩ := boxWidth width rfl
      rw [firResize_within_iff positive (by decide) small le_rfl capW capH,
        openHeight_within_iff positive small named]
      exact (aspectFits_iff capHPos).symm
  | (none, some height) =>
      rw [box] at boxHeight
      obtain ⟨positive, small, named⟩ := boxHeight height rfl
      rw [firResize_within_iff (by decide) positive le_rfl small capW capH,
        openWidth_within_iff positive small named]
      exact (aspectFits_iff capWPos).symm
  | (some width, some height) =>
      rw [box] at boxWidth boxHeight
      obtain ⟨widthPos, widthSmall, widthNamed⟩ := boxWidth width rfl
      obtain ⟨heightPos, heightSmall, heightNamed⟩ := boxHeight height rfl
      have fit : (firResize source width height).Within (capWidth query config source)
          (capHeight query config source) := by
        rw [firResize_within_iff widthPos heightPos widthSmall heightSmall capW capH]
        have fits := @resizeDimensions_fit_le source width height widthPos heightPos widthSmall
          heightSmall
        exact ⟨fits.1.trans widthNamed, fits.2.trans heightNamed⟩
      have exactly : (firResizeExact source width height).Within (capWidth query config source)
          (capHeight query config source) := by
        rw [firResizeExact_within_iff widthPos heightPos widthSmall heightSmall capW capH]
        exact ⟨widthNamed, heightNamed⟩
      have cover (gravity : Gravity) :
          (firResizeToFill source width height gravity).Within (capWidth query config source)
              (capHeight query config source) ↔
            AspectFits width source.width source.height (capHeight query config source) ∧
              AspectFits height source.height source.width (capWidth query config source) := by
        rw [firResizeToFill_within_iff gravity capW capH,
          cover_within_iff widthPos heightPos widthSmall heightSmall widthNamed heightNamed,
          aspectFits_iff capHPos, aspectFits_iff capWPos]
      dsimp only
      unfold Covers
      match kind : query.resizeType with
      | .fit => simpa [kind] using fit
      | .force => simpa [kind] using exactly
      | .fill => simpa [kind] using cover query.gravity
      | .auto =>
          dsimp only
          split
          case isTrue same =>
              rw [cover]
              simp [same]
          case isFalse differ => simpa [kind, differ] using fit

/-- Every option at its default but an enlarged width of a hundred pixels. -/
def enlargedWidth : ResizeQuery :=
  { ResizeQuery.default with width := some 100, enlarge := true }

theorem enlargedWidth_multipliers : enlargedWidth.PositiveMultipliers :=
  ⟨by decide +kernel, by decide +kernel, by decide +kernel⟩

instance : Decidable (DerivedAxesFit query config source) := by
  unfold DerivedAxesFit
  split <;> infer_instance

/-- A landscape source keeps the derived height small. -/
theorem rasters_within_iff_landscape :
    RastersWithin enlargedWidth .default (.floored 40 30) :=
  (rasters_within_iff enlargedWidth_multipliers (by decide +kernel)).mpr (by decide +kernel)

/-- A tall sliver of a thousand pixels, enlarged to a width of a hundred, is accepted and
resized to a hundred thousand rows under a maximum of 4096. -/
theorem sliver_exceeds :
    checkOutputDimensions enlargedWidth .default = .ok () ∧
      checkSourceResolution 1 1000 PerformanceConfig.default.maxSrcResolutionMp.toNat = .ok () ∧
      (resizeStep enlargedWidth (effectiveResizeBox enlargedWidth (.floored 1 1000)).resizeBox
        (.floored 1 1000) (.floored 1 1000)).scaled = some (.floored 100 100000) ∧
      ¬ RastersWithin enlargedWidth .default (.floored 1 1000) := by
  refine ⟨by decide +kernel, by decide +kernel, by decide +kernel, ?_⟩
  intro within
  have filled : (resizeStep enlargedWidth
      (effectiveResizeBox enlargedWidth (.floored 1 1000)).resizeBox
      (.floored 1 1000) (.floored 1 1000)).scaled = some (.floored 100 100000) := by decide +kernel
  have height := (within _ filled).2
  revert height
  decide +kernel

/-- Under the enlarge guard alone, no axis of the box is larger than the source's. -/
theorem box_le_source (guarded : query.enlarge = false) (noMinWidth : query.minWidth = none)
    (noMinHeight : query.minHeight = none) :
    (∀ width, (effectiveResizeBox query source).resizeBox.1 = some width →
        width ≤ source.width) ∧
      (∀ height, (effectiveResizeBox query source).resizeBox.2 = some height →
        height ≤ source.height) := by
  unfold effectiveResizeBox
  generalize rotateSwapsAxes query.rotate = swap
  split
  case isTrue inactive => exact ⟨nofun, nofun⟩
  case isFalse active =>
      simp only [noMinWidth, noMinHeight, guarded, minimumFloor, enlargeGuard, Option.map_none,
        Bool.false_eq_true, if_false]
      cases swap with
      | false =>
          simp only [Bool.false_eq_true, if_false, Size.swapIf, Option.map_map,
            Option.map_eq_some_iff]
          constructor <;> rintro axis ⟨value, -, rfl⟩ <;> exact min_le_right _ _
      | true =>
          simp only [if_true, Size.swapIf, Size.swap, Option.map_map, Option.map_eq_some_iff]
          constructor <;> rintro axis ⟨value, -, rfl⟩ <;> exact min_le_right _ _

/-- Shrinking one axis derives an axis no larger than it was. -/
theorem aspectFits_of_le {named reference other cap : Nat} (shrinks : named ≤ reference)
    (positive : 0 < reference) (otherPos : 0 < other) (otherSmall : other ≤ u32Max)
    (fits : other ≤ cap) : AspectFits named reference other cap := by
  rw [aspectFits_iff (otherPos.trans_le fits)]
  have smaller := derived_le_self shrinks positive otherPos otherSmall
  omega

/-- The enlarge guard, with no minimum to override it, is enough for the cap. -/
theorem rasters_within_of_guarded (multipliers : query.PositiveMultipliers)
    (accepted : checkOutputDimensions query config = .ok ()) (guarded : query.enlarge = false)
    (noMinWidth : query.minWidth = none) (noMinHeight : query.minHeight = none) :
    RastersWithin query config source := by
  rw [rasters_within_iff multipliers accepted]
  obtain ⟨widths, heights⟩ := @box_le_source query source guarded noMinWidth noMinHeight
  have height (width : Nat) (named : width ≤ source.width) :=
    aspectFits_of_le named source.widthPos source.heightPos source.heightFits
      (@capHeight_source query config source)
  have width (height : Nat) (named : height ≤ source.height) :=
    aspectFits_of_le named source.heightPos source.widthPos source.widthFits
      (@capWidth_source query config source)
  unfold DerivedAxesFit
  split
  case h_1 named box => exact height named (widths named (by rw [box]))
  case h_2 named box => exact width named (heights named (by rw [box]))
  case h_3 first second box =>
      intro covers
      exact ⟨height first (widths first (by rw [box])),
        width second (heights second (by rw [box]))⟩
  case h_4 => trivial

end Main

end ImageResizer
