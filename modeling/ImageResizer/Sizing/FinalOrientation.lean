import ImageResizer.Sizing.Prediction
import ImageResizer.Transform

/-!
# Sizing in final orientation

A request names the axes of the image it gets back, after rotation, while the resize step
works before rotation.  The source is brought into final orientation first and the box back
out of it last, so what a request says of an axis is about that axis of the result.
-/

namespace ImageResizer

open Rounding

section Scaled

variable {value limit : Nat} {minimum : Option Nat} {zoom dpr : FloatVal} {axisName : String}

/-- `max(1, round(value * zoom * dpr))` in doubles is this number of pixels. -/
def ScalesTo (value : Nat) (zoom dpr : FloatVal) (scaled : Nat) : Prop :=
  ((((FloatVal.ofNat value).mul zoom).mul dpr).round).max (.ofNat 1) = .ofNat scaled

theorem scalesTo_finite (value : Nat) (zoom dpr : NNRat) :
    ScalesTo value (.finite false zoom) (.finite false dpr)
      (max 1 (halfUp (double (double (value * zoom) * dpr)))) := by
  simp only [ScalesTo, FloatVal.ofNat, FloatVal.mul_finite, FloatVal.round,
    FloatVal.max_finite_false]
  rw [← Nat.cast_max, max_comm]

theorem scalesTo_zero (zoomPos : zoom.isPositive = true) (dprPos : dpr.isPositive = true) :
    ScalesTo 0 zoom dpr 1 := by
  have noPixels (factor : NNRat) : double ((0 : Nat) * factor) = 0 := by simp [double]
  rcases isPositive_cases zoomPos with rfl | ⟨zoomSize, -, rfl⟩
  case inl => rfl
  case inr =>
      rcases isPositive_cases dprPos with rfl | ⟨dprSize, -, rfl⟩
      case inl =>
          simp only [ScalesTo, FloatVal.ofNat, noPixels, FloatVal.mul, if_true, FloatVal.round,
            FloatVal.max]
      case inr =>
          have scaled := scalesTo_finite 0 zoomSize dprSize
          have noneLeft := noPixels dprSize
          rw [Nat.cast_zero] at noneLeft
          have whole : halfUp 0 = 0 := by exact_mod_cast halfUp_natCast 0
          rwa [noPixels, noneLeft, whole] at scaled

/-- No cast saturates on an accepted axis. -/
theorem scalesTo_scaleAxis (zoomPos : zoom.isPositive = true) (dprPos : dpr.isPositive = true)
    (limitSmall : limit ≤ u32Max)
    (accepted : checkAxisBound (some value) minimum zoom dpr limit axisName = .ok ()) :
    ScalesTo value zoom dpr (scaleAxis value zoom dpr) := by
  rcases Nat.eq_zero_or_pos value with rfl | asked
  case inl =>
      rw [scaleAxis_zero zoomPos dprPos]
      exact scalesTo_zero zoomPos dprPos
  case inr =>
      obtain ⟨zoomSize, dprSize, rfl, rfl⟩ :=
        multiplier_finite zoomPos dprPos asked limitSmall accepted
      have factors := factors_le_limit limitSmall accepted
      have large : 1 ≤ u32Max := by decide
      rw [scaleAxis_finite, min_eq_right (max_le large (factors.trans limitSmall))]
      exact scalesTo_finite value zoomSize dprSize

end Scaled

section FinalAxis

/-- An axis of the result: the explicit size under the enlarge guard, above the minimum; or
the source's under a minimum alone; or unconstrained. -/
def finalAxis (enlarge : Bool) (scaled minimum : Option Nat) (source : Nat) : Option Nat :=
  match scaled, minimum with
  | some scaled, minimum =>
      some (max (minimum.getD 0) (if enlarge then scaled else min scaled source))
  | none, some least => some (max source least)
  | none, none => none

theorem minimumFloor_eq_finalAxis (enlarge : Bool) (scaled minimum : Option Nat) (source : Nat) :
    minimumFloor minimum (scaled.map fun value => enlargeGuard enlarge value source) source =
      finalAxis enlarge scaled minimum source := by
  cases scaled with
  | none => cases minimum <;> rfl
  | some value =>
      cases minimum with
      | none => simp [minimumFloor, finalAxis, enlargeGuard]
      | some least => simp [minimumFloor, finalAxis, enlargeGuard, max_comm]

variable (query : ResizeQuery) (source : Size)

/-- The explicit axes as the resize box has them. -/
def scaledAxes : Option Nat × Option Nat :=
  (query.width.map fun value => scaleAxis value.toNat query.zoomX.value query.dpr.value,
    query.height.map fun value => scaleAxis value.toNat query.zoomY.value query.dpr.value)

/-- A box carried through the rotation that follows the resize. -/
def throughRotation (box : PartialBox) : PartialBox :=
  if rotateSwapsAxes query.rotate then (box.2, box.1) else box

/-- The source as it is seen after that rotation. -/
def finalSource : Size := source.swapIf (rotateSwapsAxes query.rotate)

theorem effectiveResizeBox_throughRotation :
    throughRotation query (effectiveResizeBox query source).resizeBox =
      (finalAxis query.enlarge (scaledAxes query).1 (query.minWidth.map UInt32.toNat)
          (finalSource query source).width,
        finalAxis query.enlarge (scaledAxes query).2 (query.minHeight.map UInt32.toNat)
          (finalSource query source).height) := by
  unfold throughRotation effectiveResizeBox scaledAxes finalSource
  generalize rotateSwapsAxes query.rotate = swap
  by_cases inactive : (query.width.isNone && query.height.isNone &&
      query.minWidth.isNone && query.minHeight.isNone) = true
  case pos =>
      have absent := inactive
      simp only [Bool.and_eq_true, Option.isNone_iff_eq_none] at absent
      obtain ⟨⟨⟨noWidth, noHeight⟩, noMinWidth⟩, noMinHeight⟩ := absent
      rw [if_pos inactive, noWidth, noHeight, noMinWidth, noMinHeight]
      cases swap <;> rfl
  case neg =>
      rw [if_neg inactive]
      simp only [minimumFloor_eq_finalAxis]
      cases swap with
      | false => rfl
      | true => rfl

/-- The canvas of `extend` is both explicit axes, before any guard. -/
theorem effectiveResizeBox_extendBox {width height : Nat}
    (named : scaledAxes query = (some width, some height)) :
    (effectiveResizeBox query source).extendBox = some (width, height) := by
  obtain ⟨widthNamed, heightNamed⟩ := Prod.mk.inj named
  have active : ¬ (query.width.isNone && query.height.isNone &&
      query.minWidth.isNone && query.minHeight.isNone) = true := by
    obtain ⟨value, present, -⟩ := Option.map_eq_some_iff.mp widthNamed
    simp [present]
  unfold effectiveResizeBox
  rw [if_neg active]
  simp only [widthNamed, heightNamed]

end FinalAxis

section Turn

/-- For the angles a request can ask for, the box swaps its axes when the image does. -/
theorem rotateSwapsAxes_eq_swapsAxes {degrees : Int32} (quarters : degrees.toInt % 90 = 0) :
    rotateSwapsAxes degrees = (rotateTurn degrees).swapsAxes := by
  have angles : degrees.toInt % 360 = 0 ∨ degrees.toInt % 360 = 90 ∨
      degrees.toInt % 360 = 180 ∨ degrees.toInt % 360 = 270 := by omega
  unfold rotateSwapsAxes rotateTurn
  rcases angles with angle | angle | angle | angle
  all_goals rw [angle]; rfl

theorem swapIf_dimensions (size : Size) (swap : Bool) :
    (size.swapIf swap).dimensions =
      if swap then (size.height, size.width) else (size.width, size.height) := by
  cases swap <;> rfl

end Turn

section Cover

variable {source container : Size} {width height : Nat}

theorem focusOffset_le (container box : Nat) (point : FloatVal) :
    focusOffset container box point ≤ container - box := by
  unfold focusOffset
  cases point.unitClamp with
  | none => exact Nat.zero_le _
  | some fraction =>
      apply Nat.floor_le_of_le
      exact min_le_left _ _

/-- A box that is no larger than its container is placed inside it. -/
theorem gravityAnchor_inside (gravity : Gravity) (widthFits : width ≤ container.width)
    (heightFits : height ≤ container.height) :
    (gravityAnchor gravity container width height).1 + width ≤ container.width ∧
      (gravityAnchor gravity container width height).2 + height ≤ container.height := by
  unfold gravityAnchor
  rw [min_eq_left widthFits, min_eq_left heightFits]
  cases gravity with
  | focusPoint x y =>
      have left := focusOffset_le container.width width x.value
      have top := focusOffset_le container.height height y.value
      constructor <;> dsimp only <;> omega
  | _ => constructor <;> dsimp only <;> omega

theorem cropImm_inside {x y : Nat} (widthPos : 0 < width) (heightPos : 0 < height)
    (widthFits : x + width ≤ container.width) (heightFits : y + height ≤ container.height) :
    (cropImm container x y width height).size.dimensions = (width, height) := by
  have widthSmall := container.widthFits
  have heightSmall := container.heightFits
  unfold cropImm
  dsimp only
  have left : min x container.width = x := by omega
  have top : min y container.height = y := by omega
  rw [left, top, min_eq_left (by omega : width ≤ container.width - x),
    min_eq_left (by omega : height ≤ container.height - y),
    Size.dimensions_floored widthPos heightPos (by omega) (by omega)]

/-- Covering a box keeps both axes of the raster within a `u32`, where it would be clamped. -/
def CoverFits (source : Size) (width height : Nat) : Prop :=
  derived width source.width source.height ≤ u32Max ∧
    derived height source.height source.width ≤ u32Max

instance (source : Size) (width height : Nat) : Decidable (CoverFits source width height) :=
  inferInstanceAs (Decidable (_ ∧ _))

theorem resizeDimensions_covers (widthPos : 0 < width) (heightPos : 0 < height)
    (widthSmall : width ≤ u32Max) (heightSmall : height ≤ u32Max)
    (fits : CoverFits source width height) :
    width ≤ (resizeDimensions source width height true).1 ∧
      height ≤ (resizeDimensions source width height true).2 := by
  rcases width_or_height_decides source width height true with decides | decides
  case inl =>
      have other := derived_mono source.height decides
      rw [derived_self height source.height source.heightPos heightPos heightSmall] at other
      rw [resizeDimensions_of_width decides widthPos widthSmall, if_neg (not_lt.mpr fits.1)]
      exact ⟨le_rfl, other⟩
  case inr =>
      have other := derived_mono source.width decides
      rw [derived_self width source.width source.widthPos widthPos widthSmall] at other
      rw [resizeDimensions_of_height decides heightPos heightSmall, if_neg (not_lt.mpr fits.2)]
      exact ⟨other, le_rfl⟩

theorem firResizeToFill_result (gravity : Gravity) (widthPos : 0 < width) (heightPos : 0 < height)
    (widthSmall : width ≤ u32Max) (heightSmall : height ≤ u32Max)
    (fits : CoverFits source width height) :
    ((firResizeToFill source width height gravity).result source).dimensions =
      (width, height) := by
  have covers := resizeDimensions_covers widthPos heightPos widthSmall heightSmall fits
  rw [← firResizeToFill_dimensions gravity] at covers
  have inside := gravityAnchor_inside gravity covers.1 covers.2
  rw [Resize.result, (firResizeToFill_parts source width height gravity).2]
  exact cropImm_inside widthPos heightPos inside.1 inside.2

theorem firResizeExact_result (widthPos : 0 < width) (heightPos : 0 < height)
    (widthSmall : width ≤ u32Max) (heightSmall : height ≤ u32Max) :
    ((firResizeExact source width height).result source).dimensions = (width, height) := by
  have whole : (firResizeExact source width height).result source =
      (firResizeExact source width height).raster source := by
    unfold firResizeExact
    dsimp only
    split <;> rfl
  rw [whole, firResizeExact_raster,
    Size.dimensions_floored widthPos heightPos widthSmall heightSmall]

/-- Whether a cover fits does not depend on which axis is called the width. -/
theorem coverFits_swap_iff : CoverFits source.swap height width ↔ CoverFits source width height :=
  and_comm

end Cover

section Result

open Outcome (After)

variable {Content : Type} (lib : Imaging Content) (query : ResizeQuery)

theorem resize_size (image : Raster Content) (step : Resize) (filter : FilterType) :
    After (image.resize lib step filter) fun resized => resized.size = step.result image.size := by
  intro resized ended
  unfold Raster.resize at ended
  obtain ⟨scaled, resampled, windowed⟩ := (Outcome.bind_ok_iff _ _ _).mp ended
  have scaledSize : scaled.size = step.raster image.size := by
    cases target : step.scaled with
    | none =>
        rw [target] at resampled
        obtain rfl := Except.ok.inj resampled
        simp [Resize.raster, target]
    | some size =>
        rw [target, Option.elim_some] at resampled
        unfold Raster.resample at resampled
        obtain ⟨⟨⟩, -, filled⟩ := (Outcome.bind_ok_iff _ _ _).mp resampled
        split at filled
        case h_1 content _ =>
            obtain rfl := Except.ok.inj filled
            simp [Resize.raster, target]
        case h_2 cause _ => cases filled
  obtain rfl := Except.ok.inj windowed
  cases window : step.window with
  | none => simpa [Resize.result, window] using scaledSize
  | some kept => simp [Resize.result, window, Raster.crop]

theorem turn_size (image : Raster Content) (orientation : Orientation) :
    (image.turn lib orientation).size = image.size.swapIf orientation.swapsAxes := by
  unfold Raster.turn
  split
  case isTrue none_ =>
      rw [none_]
      rfl
  case isFalse turned => rfl

theorem applyFlip_size (image : Raster Content) : (applyFlip lib query image).size = image.size := by
  unfold applyFlip
  dsimp only
  split <;> split <;> simp [turn_size, Orientation.swapsAxes, Size.swapIf]

theorem applyFilters_size (image : Raster Content) :
    (applyFilters lib query image).size = image.size := by
  have gray (image : Raster Content) : (image.grayscale lib).size = image.size := rfl
  have blurred (image : Raster Content) (sigma : F32) : (image.blur lib sigma).size = image.size :=
    rfl
  unfold applyFilters
  dsimp only
  split <;> split <;> (try split) <;> simp [gray, blurred]

/-- What a request makes of a source of a given size, up to the rotation. -/
def orientedSize (source : Size) : Size :=
  ((resizeStep query (effectiveResizeBox query source).resizeBox source source).result source).swapIf
    (rotateTurn query.rotate).swapsAxes

/-- The size of the image that `resize_and_filter` returns. -/
theorem resizeAndFilter_size (filter : FilterType) (image : Raster Content) :
    After (resizeAndFilter lib query (effectiveResizeBox query image.size).resizeBox filter
      image.size image) fun result => result.size = orientedSize query image.size := by
  intro result ended
  obtain ⟨resized, resizes, turned⟩ := (Outcome.bind_ok_iff _ _ _).mp ended
  obtain rfl := Except.ok.inj turned
  rw [applyFilters_size, applyFlip_size, applyRotate, turn_size,
    resize_size lib image _ filter resized resizes]
  rfl

variable {query} {config : PerformanceConfig} {source : Size} {width height : Nat}

/-- A box with both axes, forced or covered, is the size of the result of the resize. -/
theorem resizeStep_result (box : (effectiveResizeBox query source).resizeBox =
      (some width, some height)) (widthPos : 0 < width) (heightPos : 0 < height)
    (exactly : query.resizeType = .force ∨
      query.resizeType = .fill ∧ CoverFits source width height) :
    ((resizeStep query (effectiveResizeBox query source).resizeBox source source).result
      source).dimensions = (width, height) := by
  have fits := effectiveResizeBox_le_u32Max query source
  rw [box] at fits ⊢
  have widthFits := fits.1 width rfl
  have heightFits := fits.2 height rfl
  unfold resizeStep
  rcases exactly with force | ⟨fill, covers⟩
  case inl =>
      rw [force]
      exact firResizeExact_result widthPos heightPos widthFits heightFits
  case inr =>
      rw [fill]
      exact firResizeToFill_result query.gravity widthPos heightPos widthFits heightFits covers

theorem orientedSize_eq (multipliers : query.PositiveMultipliers)
    (accepted : checkOutputDimensions query config = .ok ())
    (quarters : query.rotate.toInt % 90 = 0)
    (box : throughRotation query (effectiveResizeBox query source).resizeBox =
      (some width, some height))
    (exactly : query.resizeType = .force ∨
      query.resizeType = .fill ∧ CoverFits (finalSource query source) width height) :
    (orientedSize query source).dimensions = (width, height) := by
  obtain ⟨boxWidth, boxHeight⟩ := @box_within query config source multipliers accepted
  unfold orientedSize
  rw [← rotateSwapsAxes_eq_swapsAxes quarters, swapIf_dimensions]
  unfold throughRotation at box
  unfold finalSource at exactly
  cases swap : rotateSwapsAxes query.rotate with
  | false =>
      rw [swap] at box exactly
      simp only [Bool.false_eq_true, if_false] at box
      rw [box] at boxWidth boxHeight
      exact resizeStep_result box (boxWidth width rfl).1 (boxHeight height rfl).1 exactly
  | true =>
      rw [swap] at box exactly
      simp only [if_true] at box
      obtain ⟨first, second⟩ := Prod.mk.inj box
      have physical : (effectiveResizeBox query source).resizeBox = (some height, some width) :=
        Prod.ext second first
      rw [physical] at boxWidth boxHeight
      have turned := resizeStep_result physical (boxWidth height rfl).1 (boxHeight width rfl).1
        (exactly.imp_right fun fill => ⟨fill.1, coverFits_swap_iff.mp fill.2⟩)
      obtain ⟨widthIs, heightIs⟩ := Prod.mk.inj turned
      simp only [if_true, widthIs, heightIs]

/-- Every axis of the result of an accepted request is the one it asked for in final
orientation, and a forced or covered box is the size of the result. -/
theorem effectiveResizeBox_final (source : Size) (multipliers : query.PositiveMultipliers)
    (accepted : checkOutputDimensions query config = .ok ())
    (quarters : query.rotate.toInt % 90 = 0) :
    ∃ scaled : Option Nat × Option Nat,
      Option.Rel (fun value => ScalesTo value.toNat query.zoomX.value query.dpr.value)
        query.width scaled.1 ∧
      Option.Rel (fun value => ScalesTo value.toNat query.zoomY.value query.dpr.value)
        query.height scaled.2 ∧
      throughRotation query (effectiveResizeBox query source).resizeBox =
        (finalAxis query.enlarge scaled.1 (query.minWidth.map UInt32.toNat)
            (finalSource query source).width,
          finalAxis query.enlarge scaled.2 (query.minHeight.map UInt32.toNat)
            (finalSource query source).height) ∧
      (∀ width height, scaled = (some width, some height) →
        (effectiveResizeBox query source).extendBox = some (width, height)) ∧
      (∀ width height,
        throughRotation query (effectiveResizeBox query source).resizeBox =
          (some width, some height) →
        query.resizeType = .force ∨
          query.resizeType = .fill ∧ CoverFits (finalSource query source) width height →
        (orientedSize query source).dimensions = (width, height)) ∧
      ∀ (Content : Type) (lib : Imaging Content) (filter : FilterType) (image : Raster Content),
        image.size = source →
        After (resizeAndFilter lib query (effectiveResizeBox query source).resizeBox filter source
          image) fun result => result.size = orientedSize query source := by
  obtain ⟨widthAccepted, heightAccepted⟩ := accepted_axes accepted
  refine ⟨scaledAxes query, ?_, ?_, effectiveResizeBox_throughRotation query source,
    fun width height => effectiveResizeBox_extendBox query source,
    fun width height => orientedSize_eq multipliers accepted quarters, ?_⟩
  · unfold scaledAxes
    cases named : query.width with
    | none => exact .none
    | some value =>
        rw [named] at widthAccepted
        exact .some (scalesTo_scaleAxis multipliers.zoomX multipliers.dpr (toNat_le_u32Max _)
          widthAccepted)
  · unfold scaledAxes
    cases named : query.height with
    | none => exact .none
    | some value =>
        rw [named] at heightAccepted
        exact .some (scalesTo_scaleAxis multipliers.zoomY multipliers.dpr (toNat_le_u32Max _)
          heightAccepted)
  · rintro Content lib filter image rfl
    exact resizeAndFilter_size lib query filter image

/-- An enlarged cover four thousand pixels wide and one high. -/
def wideCover : ResizeQuery :=
  { ResizeQuery.default with
    width := some 4096, height := some 1, resizeType := .fill, enlarge := true }

/-- A quarter turn of a landscape source covered by a portrait box. -/
def turnedCover : ResizeQuery :=
  { ResizeQuery.default with
    width := some 30, height := some 40, resizeType := .fill, rotate := 90 }

theorem effectiveResizeBox_final_turned :
    (orientedSize turnedCover (.floored 200 100)).dimensions = (30, 40) := by
  obtain ⟨-, -, -, -, -, exactly, -⟩ := @effectiveResizeBox_final turnedCover .default
    (.floored 200 100) ⟨by decide +kernel, by decide +kernel, by decide +kernel⟩
    (by decide +kernel) (by decide)
  exact exactly 30 40 (by decide +kernel) (.inr ⟨rfl, by decide +kernel⟩)

/-- The covering raster of a column of two million pixels would be past `u32::MAX` rows, and
is clamped to half the width that was asked for. -/
theorem wideCover_narrower :
    checkOutputDimensions wideCover .default = .ok () ∧
      wideCover.rotate = 0 ∧ wideCover.resizeType = .fill ∧
      throughRotation wideCover (effectiveResizeBox wideCover (.floored 1 2097152)).resizeBox =
        (some 4096, some 1) ∧
      (orientedSize wideCover (.floored 1 2097152)).dimensions = (2048, 1) := by
  decide +kernel

end Result

end ImageResizer
