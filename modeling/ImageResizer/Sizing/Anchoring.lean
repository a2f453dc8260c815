import ImageResizer.Sizing.FinalOrientation

/-!
# Anchoring a box inside its container

Each gravity pulls a box one way on each axis: to the start, to the end, to the middle, or
towards a point.  The box, clamped to its container, then lies inside it, so that neither
an explicit crop nor the crop of a cover is ever clipped.
-/

namespace ImageResizer

open Rounding

section Pull

/-- Where a gravity pulls a box on one axis. -/
inductive Pull where
  | start
  | middle
  | finish
  | towards (point : F64)
  deriving DecidableEq

def Gravity.horizontal : Gravity → Pull
  | .west | .northWest | .southWest => .start
  | .east | .northEast | .southEast => .finish
  | .center | .north | .south => .middle
  | .focusPoint x _ => .towards x

def Gravity.vertical : Gravity → Pull
  | .north | .northWest | .northEast => .start
  | .south | .southWest | .southEast => .finish
  | .center | .west | .east => .middle
  | .focusPoint _ y => .towards y

/-- The offset is where the pull wants a box of that length: at the edge it names, with
leftovers on both sides that differ by one at most, or with its centre within one pixel of
the point when the box centred there fits. -/
def Pull.Places (container box offset : Nat) : Pull → Prop
  | .start => offset = 0
  | .finish => offset + box = container
  | .middle => offset ≤ container - (offset + box) ∧ container - (offset + box) ≤ offset + 1
  | .towards point =>
      ∀ fraction, point.value.unitClamp = some fraction →
        (box : Rat) / 2 ≤ container * fraction → container * fraction + (box : Rat) / 2 ≤ container →
        |(offset + (box : Rat) / 2) - container * fraction| ≤ 1

/-- The offset `gravity_anchor` computes on one axis. -/
def Pull.offset (container box : Nat) : Pull → Nat
  | .start => 0
  | .finish => container - box
  | .middle => (container - box) / 2
  | .towards point => focusOffset container box point.value

variable {container box : Nat}

theorem Pull.offset_le (pull : Pull) : pull.offset container box ≤ container - box := by
  cases pull with
  | start => exact Nat.zero_le _
  | finish => exact le_rfl
  | middle => exact Nat.div_le_self _ _
  | towards point => exact focusOffset_le container box point.value

/-- Half of a count of pixels is a double. -/
theorem double_half (n : Nat) (held : n < 2 ^ 53) : double ((n : NNRat) / 2) = n / 2 :=
  nearest_half n held

/-- Rounding a position does not carry it past a pixel boundary of the centred box. -/
theorem double_sub_half_between {position : NNRat} {pixel : Nat}
    (above : (pixel : NNRat) + box / 2 ≤ position)
    (below : position ≤ ((pixel + 1 : Nat) : NNRat) + box / 2)
    (held : 2 * (pixel + 1) + box < 2 ^ 53) :
    (pixel : NNRat) ≤ double (double position - box / 2) ∧
      double (double position - box / 2) ≤ ((pixel + 1 : Nat) : NNRat) := by
  have boundary (n : Nat) (small : 2 * n + box < 2 ^ 53) :
      double ((n : NNRat) + box / 2) = n + box / 2 := by
    have half : (n : NNRat) + box / 2 = ((2 * n + box : Nat) : NNRat) / 2 := by
      push_cast
      ring
    rw [half, double_half _ small]
  constructor
  · have rounded := double_mono above
    rw [boundary pixel (by omega)] at rounded
    have remains : (pixel : NNRat) ≤ double position - box / 2 := le_tsub_of_add_le_right rounded
    calc (pixel : NNRat) = double pixel := (nearest_natCast pixel (by omega)).symm
      _ ≤ double (double position - box / 2) := double_mono remains
  · have rounded := double_mono below
    rw [boundary (pixel + 1) (by omega)] at rounded
    have remains : double position - box / 2 ≤ ((pixel + 1 : Nat) : NNRat) :=
      tsub_le_iff_right.mpr rounded
    calc double (double position - box / 2) ≤ double ((pixel + 1 : Nat) : NNRat) :=
          double_mono remains
      _ = ((pixel + 1 : Nat) : NNRat) := nearest_natCast (pixel + 1) (by omega)

theorem focusOffset_near {fraction : NNRat} {point : FloatVal}
    (containerSmall : container ≤ u32Max) (clamped : point.unitClamp = some fraction)
    (startFits : (box : Rat) / 2 ≤ container * fraction)
    (endFits : container * fraction + (box : Rat) / 2 ≤ container) :
    |(focusOffset container box point + (box : Rat) / 2) - container * fraction| ≤ 1 := by
  set position : NNRat := container * fraction with positionIs
  have positionCast : (position : Rat) = container * fraction := by
    rw [positionIs]
    push_cast
    rfl
  rw [← positionCast] at startFits endFits ⊢
  -- the pixel the exact position of the box falls in
  set pixel : Nat := ⌊(position : Rat) - (box : Rat) / 2⌋₊ with pixelIs
  have exactNonneg : 0 ≤ (position : Rat) - (box : Rat) / 2 := sub_nonneg.mpr startFits
  have low : (pixel : Rat) ≤ position - (box : Rat) / 2 := Nat.floor_le exactNonneg
  have high : (position : Rat) - (box : Rat) / 2 < pixel + 1 := Nat.lt_floor_add_one _
  have pixelFits : pixel + box ≤ container := by
    have cast : ((pixel + box : Nat) : Rat) ≤ container := by
      push_cast
      linarith
    exact_mod_cast cast
  have containerHeld : container < 2 ^ 32 := containerSmall.trans_lt (by decide)
  obtain ⟨roundedLow, roundedHigh⟩ := @double_sub_half_between box position pixel
    (by
      rw [← NNRat.cast_le (K := Rat)]
      push_cast
      linarith)
    (by
      rw [← NNRat.cast_le (K := Rat)]
      push_cast
      linarith)
    (by omega)
  have offsetLow : pixel ≤ focusOffset container box point := by
    unfold focusOffset
    rw [clamped]
    apply Nat.le_floor
    apply le_min
    · exact_mod_cast Nat.le_sub_of_add_le pixelFits
    · exact roundedLow
  have offsetHigh : focusOffset container box point ≤ pixel + 1 := by
    unfold focusOffset
    rw [clamped]
    apply Nat.floor_le_of_le
    exact (min_le_right _ _).trans roundedHigh
  have lowCast : (pixel : Rat) ≤ focusOffset container box point := by exact_mod_cast offsetLow
  have highCast : (focusOffset container box point : Rat) ≤ pixel + 1 := by
    exact_mod_cast offsetHigh
  rw [abs_le]
  constructor <;> linarith

theorem Pull.places_offset (pull : Pull) (containerSmall : container ≤ u32Max)
    (boxFits : box ≤ container) : pull.Places container box (pull.offset container box) := by
  cases pull with
  | start => rfl
  | finish => exact Nat.sub_add_cancel boxFits
  | middle =>
      simp only [Places, offset]
      omega
  | towards point =>
      intro fraction clamped startFits endFits
      exact focusOffset_near containerSmall clamped startFits endFits

end Pull

section Anchor

/-- A box lies inside its container, where its gravity pulls it on each axis. -/
structure Anchored (gravity : Gravity) (container : Size) (boxW boxH : Nat)
    (corner : Nat × Nat) : Prop where
  insideWidth : corner.1 + boxW ≤ container.width
  insideHeight : corner.2 + boxH ≤ container.height
  horizontal : gravity.horizontal.Places container.width boxW corner.1
  vertical : gravity.vertical.Places container.height boxH corner.2

variable {container : Size} {boxW boxH : Nat}

/-- A gravity is one pull for each axis. -/
theorem gravityAnchor_eq (gravity : Gravity) :
    gravityAnchor gravity container boxW boxH =
      (gravity.horizontal.offset container.width (min boxW container.width),
        gravity.vertical.offset container.height (min boxH container.height)) := by
  cases gravity <;> rfl

theorem gravityAnchor_anchored (gravity : Gravity) :
    Anchored gravity container (min boxW container.width) (min boxH container.height)
      (gravityAnchor gravity container boxW boxH) := by
  have widthFits : min boxW container.width ≤ container.width := min_le_right _ _
  have heightFits : min boxH container.height ≤ container.height := min_le_right _ _
  have left := @Pull.offset_le container.width (min boxW container.width) gravity.horizontal
  have top := @Pull.offset_le container.height (min boxH container.height) gravity.vertical
  rw [gravityAnchor_eq]
  constructor
  · dsimp only
    omega
  · dsimp only
    omega
  · exact gravity.horizontal.places_offset container.widthFits widthFits
  · exact gravity.vertical.places_offset container.heightFits heightFits

/-- The window `crop_imm` keeps of a box at its anchor is the clamped box. -/
theorem cropImm_anchored (gravity : Gravity) (widthPos : 0 < boxW) (heightPos : 0 < boxH) :
    ((cropImm container (gravityAnchor gravity container boxW boxH).1
        (gravityAnchor gravity container boxW boxH).2 boxW boxH).x,
      (cropImm container (gravityAnchor gravity container boxW boxH).1
        (gravityAnchor gravity container boxW boxH).2 boxW boxH).y) =
        gravityAnchor gravity container boxW boxH ∧
      (cropImm container (gravityAnchor gravity container boxW boxH).1
        (gravityAnchor gravity container boxW boxH).2 boxW boxH).size.dimensions =
        (min boxW container.width, min boxH container.height) := by
  have anchored := @gravityAnchor_anchored container boxW boxH gravity
  have left := anchored.insideWidth
  have top := anchored.insideHeight
  have containerWidth := container.widthPos
  have containerHeight := container.heightPos
  have widthSmall := container.widthFits
  have heightSmall := container.heightFits
  unfold cropImm
  dsimp only
  constructor
  · rw [min_eq_left (by omega), min_eq_left (by omega)]
  · have widthKept : min boxW (container.width -
        min (gravityAnchor gravity container boxW boxH).1 container.width) =
          min boxW container.width := by omega
    have heightKept : min boxH (container.height -
        min (gravityAnchor gravity container boxW boxH).2 container.height) =
          min boxH container.height := by omega
    rw [widthKept, heightKept, Size.dimensions_floored] <;> omega

theorem CropDimension.resolve_bounds (dimension : CropDimension) {source : Nat}
    (positive : 0 < source) : 0 < dimension.resolve source ∧ dimension.resolve source ≤ source := by
  constructor
  · exact zero_lt_one.trans_le (le_max_left _ _)
  · exact max_le positive ((min_le_right _ _).trans (max_le le_rfl positive))

theorem applyCrop_exact (source : Size) (crop : Crop) :
    (applyCrop source crop).size.dimensions =
        (crop.width.resolve source.width, crop.height.resolve source.height) ∧
      Anchored crop.gravity source (crop.width.resolve source.width)
        (crop.height.resolve source.height)
        ((applyCrop source crop).x, (applyCrop source crop).y) := by
  obtain ⟨widthPos, widthFits⟩ := crop.width.resolve_bounds source.widthPos
  obtain ⟨heightPos, heightFits⟩ := crop.height.resolve_bounds source.heightPos
  have anchored := @gravityAnchor_anchored source (crop.width.resolve source.width)
    (crop.height.resolve source.height) crop.gravity
  obtain ⟨corner, size⟩ := @cropImm_anchored source _ _ crop.gravity widthPos heightPos
  rw [min_eq_left widthFits, min_eq_left heightFits] at anchored size
  unfold applyCrop
  dsimp only
  rw [corner]
  exact ⟨size, anchored⟩

/-- A cover keeps the box it was asked for, once its raster covers it. -/
theorem firResizeToFill_exact (image : Size) (gravity : Gravity) (widthPos : 0 < boxW)
    (heightPos : 0 < boxH)
    (coversWidth : boxW ≤ ((firResizeToFill image boxW boxH gravity).raster image).width)
    (coversHeight : boxH ≤ ((firResizeToFill image boxW boxH gravity).raster image).height) :
    ∃ window, (firResizeToFill image boxW boxH gravity).window = some window ∧
      window.size.dimensions = (boxW, boxH) ∧
      Anchored gravity ((firResizeToFill image boxW boxH gravity).raster image) boxW boxH
        (window.x, window.y) := by
  set raster := (firResizeToFill image boxW boxH gravity).raster image with rasterIs
  have anchored := @gravityAnchor_anchored raster boxW boxH gravity
  obtain ⟨corner, size⟩ := @cropImm_anchored raster _ _ gravity widthPos heightPos
  rw [min_eq_left coversWidth, min_eq_left coversHeight] at anchored size
  refine ⟨cropImm raster (gravityAnchor gravity raster boxW boxH).1
    (gravityAnchor gravity raster boxW boxH).2 boxW boxH,
    (firResizeToFill_parts image boxW boxH gravity).2, size, ?_⟩
  rw [corner]
  exact anchored

/-- Both axes of a resize box have a pixel at least, whatever the request. -/
theorem effectiveResizeBox_pos (query : ResizeQuery) (source : Size) :
    (∀ width, (effectiveResizeBox query source).resizeBox.1 = some width → 0 < width) ∧
      ∀ height, (effectiveResizeBox query source).resizeBox.2 = some height → 0 < height := by
  have axis {explicit : Option UInt32} {minimum : Option Nat} {zoom dpr : FloatVal}
      {length named : Nat} (positive : 0 < length)
      (resolved : minimumFloor minimum
        ((explicit.map fun value => scaleAxis value.toNat zoom dpr).map
          fun value => enlargeGuard query.enlarge value length) length = some named) :
      0 < named := by
    rw [minimumFloor_eq_finalAxis] at resolved
    cases explicit with
    | none =>
        cases minimum with
        | none => cases resolved
        | some least =>
            cases resolved
            exact positive.trans_le (le_max_left _ _)
    | some value =>
        have scaledPos := scaleAxis_pos value.toNat zoom dpr
        cases resolved
        apply lt_max_of_lt_right
        split
        case isTrue enlarged => exact scaledPos
        case isFalse capped => exact lt_min scaledPos positive
  unfold effectiveResizeBox
  generalize rotateSwapsAxes query.rotate = swap
  split
  case isTrue inactive => exact ⟨nofun, nofun⟩
  case isFalse active =>
      cases swap with
      | false => exact ⟨fun _ => axis source.widthPos, fun _ => axis source.heightPos⟩
      | true => exact ⟨fun _ => axis source.widthPos, fun _ => axis source.heightPos⟩

/-- Wherever a box is anchored it lies inside its container; an explicit crop keeps the
clamped box, and a cover the box the request resolves to as soon as its raster has it. -/
theorem anchoring_exact (container : Size) (gravity : Gravity) (boxW boxH : Nat) (crop : Crop) :
    Anchored gravity container (min boxW container.width) (min boxH container.height)
        (gravityAnchor gravity container boxW boxH) ∧
      ((applyCrop container crop).size.dimensions =
          (crop.width.resolve container.width, crop.height.resolve container.height) ∧
        Anchored crop.gravity container (crop.width.resolve container.width)
          (crop.height.resolve container.height)
          ((applyCrop container crop).x, (applyCrop container crop).y)) ∧
      (∀ (query : ResizeQuery) (width height : Nat),
        (effectiveResizeBox query container).resizeBox = (some width, some height) →
          0 < width ∧ 0 < height) ∧
      (0 < boxW → 0 < boxH →
        boxW ≤ ((firResizeToFill container boxW boxH gravity).raster container).width →
        boxH ≤ ((firResizeToFill container boxW boxH gravity).raster container).height →
        ∃ window, (firResizeToFill container boxW boxH gravity).window = some window ∧
          window.size.dimensions = (boxW, boxH) ∧
          Anchored gravity ((firResizeToFill container boxW boxH gravity).raster container)
            boxW boxH (window.x, window.y)) := by
  refine ⟨gravityAnchor_anchored gravity, applyCrop_exact container crop, ?_,
    firResizeToFill_exact container gravity⟩
  intro query width height box
  obtain ⟨widths, heights⟩ := effectiveResizeBox_pos query container
  exact ⟨widths width (by rw [box]), heights height (by rw [box])⟩

theorem anchoring_exact_corner :
    ∃ window, (firResizeToFill (.floored 200 100) 30 40 .southEast).window = some window ∧
      window.size.dimensions = (30, 40) := by
  obtain ⟨-, -, -, cover⟩ :=
    anchoring_exact (.floored 200 100) .southEast 30 40 ⟨.full, .full, .center⟩
  obtain ⟨window, kept, size, -⟩ := cover (by decide) (by decide) (by decide +kernel)
    (by decide +kernel)
  exact ⟨window, kept, size⟩

end Anchor

end ImageResizer
