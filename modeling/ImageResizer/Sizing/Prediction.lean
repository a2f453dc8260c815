import ImageResizer.OutputCap

/-!
# Planning a decode before it happens

A JPEG is decoded at an eighth, a quarter or half of its size when that still covers what
the resize step will need.  The need is predicted from the header by
`effective_resize_target`, a second copy of the resize dispatch, and the scale is handed to
the decoder as a requested size, from which the decoder searches for the scale again.
-/

namespace ImageResizer

open Rounding

/-- `dimensions`. -/
def Size.dimensions (size : Size) : Nat × Nat := (size.width, size.height)

theorem Size.dimensions_floored {width height : Nat} (widthPos : 0 < width)
    (heightPos : 0 < height) (widthFits : width ≤ u32Max) (heightFits : height ≤ u32Max) :
    (Size.floored width height).dimensions = (width, height) := by
  rw [Size.floored_of_fits widthPos heightPos widthFits heightFits]
  rfl

section Prediction

variable {image : Size} {nwidth nheight : Nat}

theorem toUnsigned_le (largest : Nat) (value : FloatVal) : value.toUnsigned largest ≤ largest := by
  cases value with
  | nan => exact Nat.zero_le _
  | inf negative =>
      cases negative with
      | false => exact le_rfl
      | true => exact Nat.zero_le _
  | finite negative size =>
      cases negative with
      | false => exact min_le_left _ _
      | true => exact Nat.zero_le _

/-- An axis of the box is a `u32`. -/
theorem scaleAxis_le_u32Max (value : Nat) (zoom dpr : FloatVal) :
    scaleAxis value zoom dpr ≤ u32Max :=
  toUnsigned_le u32Max _

theorem enlargeGuard_le {wanted source bound : Nat} (enlarge : Bool) (fits : wanted ≤ bound) :
    enlargeGuard enlarge wanted source ≤ bound := by
  cases enlarge with
  | false => exact (min_le_left _ _).trans fits
  | true => exact fits

theorem minimumFloor_le {minimum wanted : Option Nat} {source bound axis : Nat}
    (minimumFits : ∀ least, minimum = some least → least ≤ bound)
    (wantedFits : ∀ value, wanted = some value → value ≤ bound) (sourceFits : source ≤ bound)
    (resolved : minimumFloor minimum wanted source = some axis) : axis ≤ bound := by
  cases minimum with
  | none => exact wantedFits axis resolved
  | some least =>
      cases resolved
      apply max_le _ (minimumFits least rfl)
      cases wanted with
      | none => exact sourceFits
      | some value => exact wantedFits value rfl

theorem boxAxis_le_u32Max {explicit minimum : Option UInt32} {zoom dpr : FloatVal}
    {enlarge : Bool} {source axis : Nat} (sourceFits : source ≤ u32Max)
    (resolved : minimumFloor (minimum.map UInt32.toNat)
      ((explicit.map fun value => scaleAxis value.toNat zoom dpr).map
        fun value => enlargeGuard enlarge value source) source = some axis) :
    axis ≤ u32Max := by
  apply minimumFloor_le _ _ sourceFits resolved
  · intro least named
    obtain ⟨value, -, rfl⟩ := Option.map_eq_some_iff.mp named
    exact toNat_le_u32Max value
  · intro wanted named
    obtain ⟨scaled, explicitly, rfl⟩ := Option.map_eq_some_iff.mp named
    obtain ⟨value, -, rfl⟩ := Option.map_eq_some_iff.mp explicitly
    exact enlargeGuard_le enlarge (scaleAxis_le_u32Max value.toNat zoom dpr)

/-- Both axes of the box are `u32`s, for every request. -/
theorem effectiveResizeBox_le_u32Max (query : ResizeQuery) (source : Size) :
    (∀ width, (effectiveResizeBox query source).resizeBox.1 = some width → width ≤ u32Max) ∧
      ∀ height, (effectiveResizeBox query source).resizeBox.2 = some height →
        height ≤ u32Max := by
  unfold effectiveResizeBox
  generalize rotateSwapsAxes query.rotate = swap
  split
  case isTrue open_ => exact ⟨nofun, nofun⟩
  case isFalse asked =>
      have width (axis : Nat) := @boxAxis_le_u32Max query.width query.minWidth query.zoomX.value
        query.dpr.value query.enlarge _ axis (source.swapIf swap).widthFits
      have height (axis : Nat) := @boxAxis_le_u32Max query.height query.minHeight
        query.zoomY.value query.dpr.value query.enlarge _ axis (source.swapIf swap).heightFits
      cases swap with
      | false => exact ⟨width, height⟩
      | true => exact ⟨height, width⟩

/-- A box that is the image's own size resolves to it, in either mode. -/
theorem resizeDimensions_self (image : Size) (fill : Bool) :
    resizeDimensions image image.width image.height fill = image.dimensions := by
  have unit {axis : Nat} (positive : 0 < axis) : ((axis : NNRat) / axis) = 1 :=
    div_self (by exact_mod_cast positive.ne')
  have decides : WidthDecides image image.width image.height fill := by
    unfold WidthDecides
    rw [unit image.widthPos, unit image.heightPos]
    split <;> exact le_rfl
  have height : derived image.width image.width image.height = image.height := by
    have own := derived_self image.height image.height image.heightPos image.heightPos
      image.heightFits
    rw [derived, unit image.heightPos] at own
    rw [derived, unit image.widthPos, own]
  rw [resizeDimensions_of_width decides image.widthPos image.widthFits, height,
    if_neg (not_lt.mpr image.heightFits)]
  rfl

theorem firResizeExact_raster :
    (firResizeExact image nwidth nheight).raster image = Size.floored nwidth nheight := by
  unfold firResizeExact
  dsimp only
  split
  case isTrue same => exact same.symm
  case isFalse differs => rfl

/-- The exact resize to what `resize_dimensions` computed is not floored again. -/
theorem firResizeExact_dimensions (fill : Bool) :
    ((firResizeExact image (resizeDimensions image nwidth nheight fill).1
        (resizeDimensions image nwidth nheight fill).2).raster image).dimensions =
      resizeDimensions image nwidth nheight fill := by
  have positive := @resizeDimensions_pos image nwidth nheight fill
  have fits := @resizeDimensions_le_u32Max image nwidth nheight fill
  rw [firResizeExact_raster, Size.dimensions_floored positive.1 positive.2 fits.1 fits.2]

theorem firResize_dimensions :
    ((firResize image nwidth nheight).raster image).dimensions =
      resizeDimensions image nwidth nheight false := by
  unfold firResize
  split
  case isTrue same =>
      obtain ⟨rfl, rfl⟩ := Prod.mk.inj same
      exact (resizeDimensions_self image false).symm
  case isFalse differs => exact firResizeExact_dimensions false

theorem firResizeToFill_dimensions (gravity : Gravity) :
    ((firResizeToFill image nwidth nheight gravity).raster image).dimensions =
      resizeDimensions image nwidth nheight true := by
  rw [Resize.raster, (firResizeToFill_parts image nwidth nheight gravity).1]
  exact firResizeExact_dimensions true

/-- The size predicted for a header is the size of the raster the resize step makes of an
image of that size, before any crop of a cover. -/
theorem effectiveResizeTarget_exact (query : ResizeQuery) (image : Size) :
    effectiveResizeTarget image query =
      ((resizeStep query (effectiveResizeBox query image).resizeBox image image).raster
        image).dimensions := by
  obtain ⟨widths, heights⟩ := effectiveResizeBox_le_u32Max query image
  unfold effectiveResizeTarget resizeStep
  match box : (effectiveResizeBox query image).resizeBox with
  | (none, none) => rfl
  | (some width, none) => exact firResize_dimensions.symm
  | (none, some height) => exact firResize_dimensions.symm
  | (some width, some height) =>
      match query.resizeType with
      | .fit => exact firResize_dimensions.symm
      | .fill => exact (firResizeToFill_dimensions query.gravity).symm
      | .force =>
          rw [box] at widths heights
          have widthFits := widths width rfl
          have heightFits := heights height rfl
          rw [firResizeExact_raster]
          simp only [Size.dimensions, Size.floored, min_eq_right widthFits,
            min_eq_right heightFits, max_comm]
      | .auto =>
          dsimp only
          split
          case isTrue same =>
              rw [firResizeToFill_dimensions, same]
              simp
          case isFalse differ =>
              rw [firResize_dimensions]
              simp [differ]

end Prediction

section Scale

/-- The scaled size of a header. -/
def jpegScaledSize (header : Size) (scaleNum : Nat) : Nat × Nat :=
  (jpegScaledDimension header.width scaleNum, jpegScaledDimension header.height scaleNum)

/-- Both axes of the first are at least the second's. -/
def CoversBoth (size target : Nat × Nat) : Prop := target.1 ≤ size.1 ∧ target.2 ≤ size.2

instance (size target : Nat × Nat) : Decidable (CoversBoth size target) :=
  inferInstanceAs (Decidable (_ ∧ _))

/-- The requested size of `jpeg_scaled_decode_inner`, one axis: a `u16` of at least one. -/
def jpegRequestedDimension (dim scaleNum : Nat) : Nat :=
  max 1 (min 65535 (jpegScaledDimension dim scaleNum))

/-- The scale `jpeg_decoder` picks for a requested size: the first of its scales that is
large enough on one axis. -/
def chooseIdctScale (header : Size) (requestedWidth requestedHeight : Nat) : Nat :=
  let meets (scaleNum : Nat) : Bool :=
    requestedWidth ≤ jpegScaledDimension header.width scaleNum ||
      requestedHeight ≤ jpegScaledDimension header.height scaleNum
  if meets 1 then 1 else if meets 2 then 2 else if meets 4 then 4 else 8

/-- The size `jpeg_scaled_decode` decodes a header to at a planned scale. -/
def jpegDecodedSize (header : Size) (scaleNum : Nat) : Nat × Nat :=
  jpegScaledSize header (chooseIdctScale header
    (jpegRequestedDimension header.width scaleNum)
    (jpegRequestedDimension header.height scaleNum))

/-- The scale is the first of an eighth, a quarter and a half that covers the target, or
the full size when none does. -/
def FirstCovering (header : Size) (target : Nat × Nat) (scaleNum : Nat) : Prop :=
  if scaleNum = 8 then ∀ tried ∈ [1, 2, 4], ¬ CoversBoth (jpegScaledSize header tried) target
  else scaleNum ∈ [1, 2, 4] ∧ CoversBoth (jpegScaledSize header scaleNum) target ∧
    ∀ tried ∈ [1, 2, 4], tried < scaleNum → ¬ CoversBoth (jpegScaledSize header tried) target

/-- The planned scale is the first that covers the target, and it is the one decoded. -/
def PlanDecoded (header : Size) (target : Nat × Nat) : Prop :=
  let scaleNum := selectJpegDctScale header target.1 target.2
  FirstCovering header target scaleNum ∧
    (scaleNum ∈ [1, 2, 4] → jpegDecodedSize header scaleNum = jpegScaledSize header scaleNum ∧
      CoversBoth (jpegDecodedSize header scaleNum) target)

/-- No axis is so thin that a quarter, or a half, of it rounds up to what an eighth does,
where that scale is the one to plan. -/
def ScalesDiffer (header : Size) (target : Nat × Nat) : Prop :=
  CoversBoth (jpegScaledSize header 1) target ∨
    ¬ CoversBoth (jpegScaledSize header 4) target ∨
    4 < header.width ∧ 4 < header.height ∨
    ¬ CoversBoth (jpegScaledSize header 2) target ∧ 2 < header.width ∧ 2 < header.height

instance (header : Size) (target : Nat × Nat) : Decidable (ScalesDiffer header target) :=
  inferInstanceAs (Decidable (_ ∨ _ ∨ _ ∨ _))

variable {header : Size} {target : Nat × Nat}

theorem jpegRequestedDimension_eq {dim scaleNum : Nat} (positive : 0 < dim) (small : dim ≤ 65535)
    (scaled : 0 < scaleNum) (shrinks : scaleNum ≤ 8) :
    jpegRequestedDimension dim scaleNum = jpegScaledDimension dim scaleNum := by
  have least : 1 ≤ dim * scaleNum := Nat.mul_pos positive scaled
  have most : dim * scaleNum ≤ 65535 * 8 := Nat.mul_le_mul small shrinks
  unfold jpegRequestedDimension jpegScaledDimension
  omega

theorem jpegDecodedSize_eq {scaleNum : Nat} (widthSmall : header.width ≤ 65535)
    (heightSmall : header.height ≤ 65535) (scaled : 0 < scaleNum) (shrinks : scaleNum ≤ 8) :
    jpegDecodedSize header scaleNum = jpegScaledSize header (chooseIdctScale header
      (jpegScaledDimension header.width scaleNum)
      (jpegScaledDimension header.height scaleNum)) := by
  rw [jpegDecodedSize, jpegRequestedDimension_eq header.widthPos widthSmall scaled shrinks,
    jpegRequestedDimension_eq header.heightPos heightSmall scaled shrinks]

theorem jpegDecodedSize_eighth (widthSmall : header.width ≤ 65535)
    (heightSmall : header.height ≤ 65535) : jpegDecodedSize header 1 = jpegScaledSize header 1 := by
  rw [jpegDecodedSize_eq widthSmall heightSmall (by decide) (by decide)]
  simp [chooseIdctScale]

/-- A quarter is decoded as an eighth when an axis has four pixels or fewer. -/
theorem jpegDecodedSize_quarter (widthSmall : header.width ≤ 65535)
    (heightSmall : header.height ≤ 65535) : jpegDecodedSize header 2 = jpegScaledSize header
      (if header.width ≤ 4 ∨ header.height ≤ 4 then 1 else 2) := by
  have width := header.widthPos
  have height := header.heightPos
  have thin : (jpegScaledDimension header.width 2 ≤ jpegScaledDimension header.width 1 ∨
      jpegScaledDimension header.height 2 ≤ jpegScaledDimension header.height 1) ↔
      header.width ≤ 4 ∨ header.height ≤ 4 := by
    unfold jpegScaledDimension
    omega
  rw [jpegDecodedSize_eq widthSmall heightSmall (by decide) (by decide)]
  simp [chooseIdctScale, thin]

/-- A half is decoded as an eighth when an axis has one or two pixels. -/
theorem jpegDecodedSize_half (widthSmall : header.width ≤ 65535)
    (heightSmall : header.height ≤ 65535) : jpegDecodedSize header 4 = jpegScaledSize header
      (if header.width ≤ 2 ∨ header.height ≤ 2 then 1 else 4) := by
  have width := header.widthPos
  have height := header.heightPos
  have eighth : (jpegScaledDimension header.width 4 ≤ jpegScaledDimension header.width 1 ∨
      jpegScaledDimension header.height 4 ≤ jpegScaledDimension header.height 1) ↔
      header.width ≤ 2 ∨ header.height ≤ 2 := by
    unfold jpegScaledDimension
    omega
  have quarter : (jpegScaledDimension header.width 4 ≤ jpegScaledDimension header.width 2 ∨
      jpegScaledDimension header.height 4 ≤ jpegScaledDimension header.height 2) ↔
      header.width ≤ 2 ∨ header.height ≤ 2 := by
    unfold jpegScaledDimension
    omega
  rw [jpegDecodedSize_eq widthSmall heightSmall (by decide) (by decide)]
  by_cases thin : header.width ≤ 2 ∨ header.height ≤ 2
  case pos => simp [chooseIdctScale, eighth, thin]
  case neg => simp [chooseIdctScale, eighth, quarter, thin]

/-- A larger scale covers what a smaller one does. -/
theorem CoversBoth.of_le {small large : Nat}
    (covers : CoversBoth (jpegScaledSize header small) target) (ordered : small ≤ large) :
    CoversBoth (jpegScaledSize header large) target := by
  have grows (dim : Nat) : jpegScaledDimension dim small ≤ jpegScaledDimension dim large :=
    Nat.div_le_div_right (Nat.add_le_add_right (Nat.mul_le_mul_left dim ordered) 7)
  exact ⟨covers.1.trans (grows header.width), covers.2.trans (grows header.height)⟩

/-- The search of `select_jpeg_dct_scale`. -/
theorem selectJpegDctScale_eq : selectJpegDctScale header target.1 target.2 =
    if CoversBoth (jpegScaledSize header 1) target then 1
    else if CoversBoth (jpegScaledSize header 2) target then 2
    else if CoversBoth (jpegScaledSize header 4) target then 4 else 8 := by
  unfold selectJpegDctScale
  simp only [Bool.and_eq_true, decide_eq_true_eq]
  rfl

/-- The planned scale always is the first that covers the target. -/
theorem firstCovering_select :
    FirstCovering header target (selectJpegDctScale header target.1 target.2) := by
  rw [selectJpegDctScale_eq]
  by_cases eighth : CoversBoth (jpegScaledSize header 1) target
  case pos => simp [FirstCovering, eighth]
  case neg =>
    by_cases quarter : CoversBoth (jpegScaledSize header 2) target
    case pos => simp [FirstCovering, eighth, quarter]
    case neg =>
      by_cases half : CoversBoth (jpegScaledSize header 4) target
      case pos => simp [FirstCovering, eighth, quarter, half]
      case neg => simp [FirstCovering, eighth, quarter, half]

/-- For a header a JPEG can have, the planned scale is the decoded one exactly when the
scales it was chosen from are different sizes. -/
theorem planDecoded_iff (widthSmall : header.width ≤ 65535)
    (heightSmall : header.height ≤ 65535) :
    PlanDecoded header target ↔ ScalesDiffer header target := by
  unfold PlanDecoded ScalesDiffer
  rw [and_iff_right firstCovering_select, selectJpegDctScale_eq]
  by_cases eighth : CoversBoth (jpegScaledSize header 1) target
  case pos => simp [eighth, jpegDecodedSize_eighth widthSmall heightSmall]
  case neg =>
    by_cases quarter : CoversBoth (jpegScaledSize header 2) target
    case pos =>
      have half : CoversBoth (jpegScaledSize header 4) target := quarter.of_le (by decide)
      simp only [eighth, quarter, half, if_false, if_true,
        jpegDecodedSize_quarter widthSmall heightSmall]
      by_cases thin : header.width ≤ 4 ∨ header.height ≤ 4
      case pos => simp [thin, eighth]; omega
      case neg => simp [thin, quarter]; omega
    case neg =>
      by_cases half : CoversBoth (jpegScaledSize header 4) target
      case pos =>
        simp only [eighth, quarter, half, if_false, if_true,
          jpegDecodedSize_half widthSmall heightSmall]
        by_cases thin : header.width ≤ 2 ∨ header.height ≤ 2
        case pos => simp [thin, eighth]; omega
        case neg => simp [thin, half]; omega
      case neg => simp [eighth, quarter, half]

/-- A photograph at a quarter. -/
theorem planDecoded_iff_photograph : PlanDecoded (.floored 1600 1200) (300, 225) :=
  (planDecoded_iff (by decide) (by decide)).mpr (by decide)

/-- A height of twenty pixels. -/
def twentyRows : ResizeQuery := { ResizeQuery.default with height := some 20 }

/-- A column of a hundred pixels resized to twenty is planned at a quarter and decoded at
an eighth, which is thirteen. -/
theorem column_decoded_below_target :
    effectiveResizeTarget (.floored 1 100) twentyRows = (1, 20) ∧
      selectJpegDctScale (.floored 1 100) 1 20 = 2 ∧
      jpegDecodedSize (.floored 1 100) 2 = (1, 13) ∧
      ¬ PlanDecoded (.floored 1 100) (1, 20) := by
  refine ⟨by decide +kernel, by decide, by decide, ?_⟩
  intro plan
  have covers := (plan.2 (by decide)).2
  revert covers
  decide

end Scale

end ImageResizer
