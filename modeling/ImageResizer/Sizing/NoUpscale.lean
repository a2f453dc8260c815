import ImageResizer.Sizing.FinalOrientation

/-!
# No upscaling without permission

With `enlarge` off and no minimum, each axis of the box is capped at the source's, and a
ratio that shrinks the axis it was taken from shrinks the other as well.  Every raster of
the resize step, the overflow of a cover before its crop included, is then no larger than
the source, and a cover always has the box to crop from.
-/

namespace ImageResizer

open Outcome (After)

/-- No axis is longer than the other raster's. -/
def Size.NoLarger (inner outer : Size) : Prop :=
  inner.width ≤ outer.width ∧ inner.height ≤ outer.height

/-- Inside the axes a box names. -/
def Size.Inside (size : Size) (box : PartialBox) : Prop :=
  (∀ width, box.1 = some width → size.width ≤ width) ∧
    ∀ height, box.2 = some height → size.height ≤ height

theorem Size.noLarger_refl (size : Size) : size.NoLarger size := ⟨le_rfl, le_rfl⟩

section Guarded

variable {query : ResizeQuery} {source : Size}

/-- The enlarge guard applies, and no minimum overrides it. -/
structure ResizeQuery.Guarded (query : ResizeQuery) : Prop where
  enlarge : query.enlarge = false
  minWidth : query.minWidth = none
  minHeight : query.minHeight = none

/-- The axes a request names, each capped at the source's, in final orientation. -/
def cappedAxes (query : ResizeQuery) (source : Size) : PartialBox :=
  ((scaledAxes query).1.map fun width => min width (finalSource query source).width,
    (scaledAxes query).2.map fun height => min height (finalSource query source).height)

theorem finalAxis_guarded (scaled : Option Nat) (source : Nat) :
    finalAxis false scaled none source = scaled.map fun value => min value source := by
  cases scaled with
  | none => rfl
  | some value => simp [finalAxis]

theorem resizeBox_guarded (guarded : query.Guarded) :
    throughRotation query (effectiveResizeBox query source).resizeBox =
      cappedAxes query source := by
  rw [effectiveResizeBox_throughRotation, guarded.enlarge, guarded.minWidth, guarded.minHeight]
  simp only [Option.map_none, finalAxis_guarded]
  rfl

theorem throughRotation_throughRotation (box : PartialBox) :
    throughRotation query (throughRotation query box) = box := by
  unfold throughRotation
  cases rotateSwapsAxes query.rotate <;> rfl

/-- A box inside the source on both axes, with a pixel at least on each. -/
structure CappedBox (source : Size) (box : PartialBox) : Prop where
  width : ∀ width, box.1 = some width → 0 < width ∧ width ≤ source.width
  height : ∀ height, box.2 = some height → 0 < height ∧ height ≤ source.height

theorem cappedAxis {explicit : Option UInt32} {zoom dpr : FloatVal} {source axis : Nat}
    (sourcePos : 0 < source)
    (named : ((explicit.map fun value => scaleAxis value.toNat zoom dpr).map
      fun scaled => min scaled source) = some axis) : 0 < axis ∧ axis ≤ source := by
  obtain ⟨scaled, explicitly, rfl⟩ := Option.map_eq_some_iff.mp named
  obtain ⟨value, -, rfl⟩ := Option.map_eq_some_iff.mp explicitly
  exact ⟨lt_min (scaleAxis_pos value.toNat zoom dpr) sourcePos, min_le_right _ _⟩

theorem effectiveResizeBox_capped (guarded : query.Guarded) :
    CappedBox source (effectiveResizeBox query source).resizeBox := by
  rw [← @throughRotation_throughRotation query (effectiveResizeBox query source).resizeBox,
    resizeBox_guarded guarded]
  have width (axis : Nat) := @cappedAxis query.width query.zoomX.value query.dpr.value
    (finalSource query source).width axis (finalSource query source).widthPos
  have height (axis : Nat) := @cappedAxis query.height query.zoomY.value query.dpr.value
    (finalSource query source).height axis (finalSource query source).heightPos
  unfold throughRotation cappedAxes
  unfold finalSource at width height ⊢
  generalize rotateSwapsAxes query.rotate = swap at width height ⊢
  cases swap with
  | false => exact ⟨width, height⟩
  | true => exact ⟨height, width⟩

end Guarded

section Modes

variable {source : Size} {width height : Nat}

/-- A box inside the source can always be covered. -/
theorem coverFits_of_capped (widthLe : width ≤ source.width) (heightLe : height ≤ source.height) :
    CoverFits source width height := by
  constructor
  · exact (derived_le_self widthLe source.widthPos source.heightPos source.heightFits).trans
      source.heightFits
  · exact (derived_le_self heightLe source.heightPos source.widthPos source.widthFits).trans
      source.widthFits

/-- What the guard promises of a resize step: no raster larger than the source, and a result
inside the box. -/
structure Resize.Shrinks (resize : Resize) (source : Size) (box : PartialBox) : Prop where
  raster : (resize.raster source).NoLarger source
  result : (resize.result source).NoLarger source
  inside : (resize.result source).Inside box

/-- Without a window the result is the raster. -/
theorem Resize.result_of_whole {resize : Resize} (whole : resize.window = none) :
    resize.result source = resize.raster source := by
  unfold result
  rw [whole]

theorem Resize.shrinks_of_whole {resize : Resize} {box : PartialBox}
    (whole : resize.window = none) (raster : (resize.raster source).NoLarger source)
    (inside : (resize.raster source).Inside box) : resize.Shrinks source box := by
  have same := @Resize.result_of_whole source resize whole
  constructor
  · exact raster
  · rw [same]
    exact raster
  · rw [same]
    exact inside

theorem firResizeExact_window : (firResizeExact source width height).window = none := by
  unfold firResizeExact
  dsimp only
  split <;> rfl

theorem firResize_window : (firResize source width height).window = none := by
  unfold firResize
  split
  case isTrue same => rfl
  case isFalse differs => exact firResizeExact_window

theorem keep_shrinks : Resize.keep.Shrinks source (none, none) :=
  Resize.shrinks_of_whole rfl source.noLarger_refl ⟨nofun, nofun⟩

theorem firResizeExact_shrinks (widthPos : 0 < width) (heightPos : 0 < height)
    (widthLe : width ≤ source.width) (heightLe : height ≤ source.height) :
    (firResizeExact source width height).Shrinks source (some width, some height) := by
  have dimensions := @firResizeExact_result source width height widthPos heightPos
    (widthLe.trans source.widthFits) (heightLe.trans source.heightFits)
  rw [Resize.result_of_whole firResizeExact_window] at dimensions
  obtain ⟨widthIs, heightIs⟩ := Prod.mk.inj dimensions
  apply Resize.shrinks_of_whole firResizeExact_window
  · exact ⟨widthIs.trans_le widthLe, heightIs.trans_le heightLe⟩
  · constructor
    · rintro _ ⟨⟩
      exact widthIs.le
    · rintro _ ⟨⟩
      exact heightIs.le

theorem firResize_shrinks {box : PartialBox}
    (noLarger : (resizeDimensions source width height false).1 ≤ source.width ∧
      (resizeDimensions source width height false).2 ≤ source.height)
    (insideWidth : ∀ axis, box.1 = some axis →
      (resizeDimensions source width height false).1 ≤ axis)
    (insideHeight : ∀ axis, box.2 = some axis →
      (resizeDimensions source width height false).2 ≤ axis) :
    (firResize source width height).Shrinks source box := by
  obtain ⟨widthIs, heightIs⟩ := Prod.mk.inj (@firResize_dimensions source width height)
  apply Resize.shrinks_of_whole firResize_window
  · exact ⟨widthIs.trans_le noLarger.1, heightIs.trans_le noLarger.2⟩
  · constructor
    · intro axis named
      exact widthIs.trans_le (insideWidth axis named)
    · intro axis named
      exact heightIs.trans_le (insideHeight axis named)

theorem fit_shrinks (widthPos : 0 < width) (heightPos : 0 < height)
    (widthLe : width ≤ source.width) (heightLe : height ≤ source.height) :
    (firResize source width height).Shrinks source (some width, some height) := by
  have fits := @resizeDimensions_fit_le source width height widthPos heightPos
    (widthLe.trans source.widthFits) (heightLe.trans source.heightFits)
  apply firResize_shrinks
  · exact ⟨fits.1.trans widthLe, fits.2.trans heightLe⟩
  · rintro _ ⟨⟩
    exact fits.1
  · rintro _ ⟨⟩
    exact fits.2

/-- The open height of a one-axis box is encoded as `u32::MAX`. -/
theorem openHeight_shrinks (positive : 0 < width) (widthLe : width ≤ source.width) :
    (firResize source width u32Max).Shrinks source (some width, none) := by
  have small := widthLe.trans source.widthFits
  have fits := @resizeDimensions_fit_le source width u32Max positive (by decide) small le_rfl
  have derivedLe := derived_le_self widthLe source.widthPos source.heightPos source.heightFits
  apply firResize_shrinks
  · rw [openHeight_within_iff positive small widthLe]
    exact (min_le_right _ _).trans derivedLe
  · rintro _ ⟨⟩
    exact fits.1
  · rintro _ ⟨⟩

/-- And so is the open width. -/
theorem openWidth_shrinks (positive : 0 < height) (heightLe : height ≤ source.height) :
    (firResize source u32Max height).Shrinks source (none, some height) := by
  have small := heightLe.trans source.heightFits
  have fits := @resizeDimensions_fit_le source u32Max height (by decide) positive le_rfl small
  have derivedLe := derived_le_self heightLe source.heightPos source.widthPos source.widthFits
  apply firResize_shrinks
  · rw [openWidth_within_iff positive small heightLe]
    exact (min_le_right _ _).trans derivedLe
  · rintro _ ⟨⟩
  · rintro _ ⟨⟩
    exact fits.2

theorem firResizeToFill_shrinks (gravity : Gravity) (widthPos : 0 < width)
    (heightPos : 0 < height) (widthLe : width ≤ source.width) (heightLe : height ≤ source.height) :
    (firResizeToFill source width height gravity).Shrinks source (some width, some height) := by
  have widthSmall := widthLe.trans source.widthFits
  have heightSmall := heightLe.trans source.heightFits
  have covers : (resizeDimensions source width height true).1 ≤ source.width ∧
      (resizeDimensions source width height true).2 ≤ source.height := by
    rw [cover_within_iff widthPos heightPos widthSmall heightSmall widthLe heightLe]
    constructor
    · exact (min_le_right _ _).trans
        (derived_le_self widthLe source.widthPos source.heightPos source.heightFits)
    · exact (min_le_right _ _).trans
        (derived_le_self heightLe source.heightPos source.widthPos source.widthFits)
  obtain ⟨rasterWidth, rasterHeight⟩ :=
    Prod.mk.inj (@firResizeToFill_dimensions source width height gravity)
  obtain ⟨resultWidth, resultHeight⟩ := Prod.mk.inj (firResizeToFill_result gravity widthPos
    heightPos widthSmall heightSmall (coverFits_of_capped widthLe heightLe))
  constructor
  · exact ⟨rasterWidth.trans_le covers.1, rasterHeight.trans_le covers.2⟩
  · exact ⟨resultWidth.trans_le widthLe, resultHeight.trans_le heightLe⟩
  · constructor
    · rintro _ ⟨⟩
      exact resultWidth.le
    · rintro _ ⟨⟩
      exact resultHeight.le

/-- The step every mode takes on a capped box. -/
theorem resizeStep_shrinks (query : ResizeQuery) {box : PartialBox}
    (capped : CappedBox source box) : (resizeStep query box source source).Shrinks source box := by
  unfold resizeStep
  match box, capped with
  | (none, none), capped => exact keep_shrinks
  | (some width, none), capped =>
      obtain ⟨positive, widthLe⟩ := capped.width width rfl
      exact openHeight_shrinks positive widthLe
  | (none, some height), capped =>
      obtain ⟨positive, heightLe⟩ := capped.height height rfl
      exact openWidth_shrinks positive heightLe
  | (some width, some height), capped =>
      obtain ⟨widthPos, widthLe⟩ := capped.width width rfl
      obtain ⟨heightPos, heightLe⟩ := capped.height height rfl
      have fit := fit_shrinks widthPos heightPos widthLe heightLe
      have fill := firResizeToFill_shrinks query.gravity widthPos heightPos widthLe heightLe
      cases query.resizeType with
      | fit => exact fit
      | fill => exact fill
      | force => exact firResizeExact_shrinks widthPos heightPos widthLe heightLe
      | auto =>
          dsimp only
          split
          case isTrue same => exact fill
          case isFalse differ => exact fit

/-- Forced and covered, a capped box is the size of the result. -/
theorem resizeStep_exact {query : ResizeQuery}
    (capped : CappedBox source (some width, some height))
    (exactly : query.resizeType = .force ∨ Covers query source width height) :
    ((resizeStep query (some width, some height) source source).result source).dimensions =
      (width, height) := by
  obtain ⟨widthPos, widthLe⟩ := capped.width width rfl
  obtain ⟨heightPos, heightLe⟩ := capped.height height rfl
  have widthSmall := widthLe.trans source.widthFits
  have heightSmall := heightLe.trans source.heightFits
  have fill := firResizeToFill_result query.gravity widthPos heightPos widthSmall heightSmall
    (coverFits_of_capped widthLe heightLe)
  unfold resizeStep
  rcases exactly with force | filled | ⟨auto, same⟩
  · rw [force]
    exact firResizeExact_result widthPos heightPos widthSmall heightSmall
  · rw [filled]
    exact fill
  · rw [auto]
    dsimp only
    rw [if_pos same]
    exact fill

end Modes

section Request

variable {query : ResizeQuery}

theorem Size.inside_swapIf (size : Size) (box : PartialBox) (turned : Bool) :
    (size.swapIf turned).Inside (if turned then (box.2, box.1) else box) ↔ size.Inside box := by
  cases turned with
  | false => exact Iff.rfl
  | true => exact and_comm

theorem cappedAxes_inside {size source : Size} (inside : size.Inside (cappedAxes query source)) :
    size.Inside (scaledAxes query) := by
  constructor
  · intro width named
    apply (inside.1 (min width (finalSource query source).width) _).trans (min_le_left _ _)
    simp [cappedAxes, named]
  · intro height named
    apply (inside.2 (min height (finalSource query source).height) _).trans (min_le_left _ _)
    simp [cappedAxes, named]

/-- The box of a guarded request is what it asks for, capped at the source in final
orientation; no raster of the resize step is larger than the source on either physical axis;
the image that comes out is inside the requested box; and forced or covered it is the capped
box exactly. -/
theorem resizeStep_noUpscale (source : Size) (guarded : query.Guarded)
    (quarters : query.rotate.toInt % 90 = 0) :
    throughRotation query (effectiveResizeBox query source).resizeBox =
        cappedAxes query source ∧
      ((resizeStep query (effectiveResizeBox query source).resizeBox source source).raster
        source).NoLarger source ∧
      ((resizeStep query (effectiveResizeBox query source).resizeBox source source).result
        source).NoLarger source ∧
      (orientedSize query source).Inside (scaledAxes query) ∧
      (∀ width height, (effectiveResizeBox query source).resizeBox = (some width, some height) →
        query.resizeType = .force ∨ Covers query source width height →
        ((resizeStep query (effectiveResizeBox query source).resizeBox source source).result
          source).dimensions = (width, height)) ∧
      ∀ (Content : Type) (lib : Imaging Content) (filter : FilterType) (image : Raster Content),
        image.size = source →
        After (resizeAndFilter lib query (effectiveResizeBox query source).resizeBox filter source
          image) fun result => result.size = orientedSize query source := by
  have capped := @effectiveResizeBox_capped query source guarded
  have shrinks := resizeStep_shrinks query capped
  refine ⟨resizeBox_guarded guarded, shrinks.raster, shrinks.result, ?_, ?_, ?_⟩
  · apply @cappedAxes_inside query _ source
    rw [← resizeBox_guarded guarded]
    unfold orientedSize throughRotation
    rw [← rotateSwapsAxes_eq_swapsAxes quarters, Size.inside_swapIf]
    exact shrinks.inside
  · intro width height box exactly
    rw [box] at capped ⊢
    exact resizeStep_exact capped exactly
  · rintro Content lib filter image rfl
    exact resizeAndFilter_size lib query filter image

/-- A cover of a quarter-turned source, asked for more than the source has. -/
def turnedLargeCover : ResizeQuery :=
  { ResizeQuery.default with
    width := some 150, height := some 90, resizeType := .fill, rotate := 90 }

theorem resizeStep_noUpscale_turned :
    (orientedSize turnedLargeCover (.floored 200 100)).Inside (some 150, some 90) := by
  have asked : scaledAxes turnedLargeCover = (some 150, some 90) := by decide +kernel
  obtain ⟨-, -, -, inside, -⟩ :=
    @resizeStep_noUpscale turnedLargeCover (.floored 200 100) ⟨rfl, rfl, rfl⟩ (by decide)
  rwa [asked] at inside

end Request

end ImageResizer
