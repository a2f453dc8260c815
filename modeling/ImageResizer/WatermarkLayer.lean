import ImageResizer.Foundation.Recorded
import ImageResizer.NoPanic.Watermark
import ImageResizer.Sizing.FinalOrientation
import ImageResizer.Sizing.NoUpscale
import ImageResizer.Url

/-!
# The watermark layer

A watermark is scaled and rotated on rasters of its own, which no check looks at.  The stage is
run here with a record of these rasters.  What bounds them for every request is the length of
the buffers: a watermark of one pixel stays a square however it is scaled and turned, and no
square has more bytes than an allocation may have.  How many of these bytes a machine can
supply is left open.
-/

namespace ImageResizer

open Outcome (After Returns)
open Recording
open Recorded (silent perform)

section Box

variable {watermark : WatermarkQuery} {base : Size} {width height : Nat}

/-- A watermark's box has pixels on both axes, and both are `u32`s. -/
theorem watermarkBox_fits (box : watermarkBox watermark base = some (width, height)) :
    0 < width ∧ 0 < height ∧ width ≤ u32Max ∧ height ≤ u32Max := by
  have byScale (found : (if watermark.scale.value.isPositive then
      some (((((FloatVal.ofNat base.width).mul watermark.scale.value).round).max
          (.ofNat 1)).toUnsigned u32Max,
        ((((FloatVal.ofNat base.height).mul watermark.scale.value).round).max
          (.ofNat 1)).toUnsigned u32Max)
      else none) = some (width, height)) :
      0 < width ∧ 0 < height ∧ width ≤ u32Max ∧ height ≤ u32Max := by
    split at found
    case isFalse => cases found
    case isTrue =>
        obtain ⟨rfl, rfl⟩ := Prod.mk.inj (Option.some.inj found)
        exact ⟨toUnsigned_max_one_pos _, toUnsigned_max_one_pos _, toUnsigned_le _ _,
          toUnsigned_le _ _⟩
  unfold watermarkBox at box
  dsimp only at box
  split at box
  case h_2 => exact byScale box
  case h_1 first second named =>
      split at box
      case isFalse => exact byScale box
      case isTrue =>
          obtain ⟨rfl, rfl⟩ := Prod.mk.inj (Option.some.inj box)
          have axis (value : UInt32) : 0 < (if value = 0 then u32Max else value.toNat) ∧
              (if value = 0 then u32Max else value.toNat) ≤ u32Max := by
            split
            case isTrue => exact ⟨by decide, le_rfl⟩
            case isFalse nonzero =>
                have positive : value.toNat ≠ 0 := fun zero =>
                  nonzero (UInt32.toNat_inj.mp zero)
                exact ⟨Nat.pos_of_ne_zero positive, toNat_le_u32Max value⟩
          exact ⟨(axis first).1, (axis second).1, (axis first).2, (axis second).2⟩

theorem watermarkStep_result (layer : Size) :
    (watermarkStep watermark base layer).result layer =
      (watermarkStep watermark base layer).raster layer := by
  unfold watermarkStep
  cases watermarkBox watermark base with
  | none => rfl
  | some box => exact Resize.result_of_whole firResize_window

end Box

/-! ## A record of the rasters -/

/-- A stage with the record of the rasters it allocates. -/
abbrev Layering (α : Type) := Recorded Shape (Stop Failure) α

section Record

variable {Content : Type} (lib : Imaging Content) (watermark : WatermarkQuery)

def newCanvasRecorded (size : Size) (color : ColorType) : Layering Unit := do
  silent (newCanvas size color)
  perform ⟨size, color⟩ (pure ())

def resampleRecorded (image : Raster Content) (target : Size) (filter : FilterType) :
    Layering (Raster Content) := do
  newCanvasRecorded target image.color
  match lib.resample (firResizeAlg filter) image target with
  | .ok content => pure { image with size := target, content }
  | .error cause =>
      silent (Outcome.fail (.message
        s!"fast_image_resize failed for {target.width}x{target.height}: {cause}"))

def resizeRecorded (image : Raster Content) (step : Resize) (filter : FilterType) :
    Layering (Raster Content) := do
  let scaled ← step.scaled.elim (pure image) (resampleRecorded lib image · filter)
  pure (step.window.elim scaled (scaled.crop lib))

def scaleWatermarkRecorded (base : Size) (layer : Raster Content) : Layering (Raster Content) :=
  match watermarkBox watermark base with
  | some (width, height) => resizeRecorded lib layer (firResize layer.size width height) .lanczos3
  | none => pure layer

def rotateRgbaRecorded (rgba : Raster Content) (degrees : FloatVal) :
    Layering (Raster Content) :=
  match rotation lib rgba.size degrees with
  | none => pure rgba
  | some (target, source) => do
      newCanvasRecorded target .rgba8
      pure { rgba with size := target, content := lib.gather target source rgba }

def turnWatermarkRecorded (layer : Raster Content) : Layering (Raster Content) :=
  if watermark.rotate.value.nonzero then rotateRgbaRecorded lib layer watermark.rotate.value
  else pure layer

/-- `apply_watermark`, with the rasters its watermark is scaled and rotated on. -/
def applyWatermarkRecorded (base layer : Raster Content) : Layering (Raster Content) := do
  let scaled ← scaleWatermarkRecorded lib watermark base.size layer
  let rgba ← silent (scaled.toRgba8 lib)
  let turned ← turnWatermarkRecorded lib watermark rgba
  let position ← silent (watermarkPosition watermark base.size turned.size)
  let canvas ← silent (base.toRgba8 lib)
  let shaded ← silent (drawShadow lib watermark canvas turned position)
  silent (compositeOver lib shaded turned position (.ofFloat watermark.opacity.value))

@[simp]
theorem newCanvasRecorded_result (size : Size) (color : ColorType) :
    (newCanvasRecorded size color).result = newCanvas size color := by
  simp [newCanvasRecorded]

@[simp]
theorem resampleRecorded_result (image : Raster Content) (target : Size) (filter : FilterType) :
    (resampleRecorded lib image target filter).result = image.resample lib target filter := by
  unfold resampleRecorded Raster.resample
  cases lib.resample (firResizeAlg filter) image target <;> simp

@[simp]
theorem resizeRecorded_result (image : Raster Content) (step : Resize) (filter : FilterType) :
    (resizeRecorded lib image step filter).result = image.resize lib step filter := by
  unfold resizeRecorded Raster.resize
  cases step.scaled <;> simp

@[simp]
theorem scaleWatermarkRecorded_result (base : Size) (layer : Raster Content) :
    (scaleWatermarkRecorded lib watermark base layer).result =
      scaleWatermark lib watermark base layer := by
  unfold scaleWatermarkRecorded scaleWatermark
  cases watermarkBox watermark base with
  | none => rfl
  | some box => exact resizeRecorded_result ..

@[simp]
theorem turnWatermarkRecorded_result (layer : Raster Content) :
    (turnWatermarkRecorded lib watermark layer).result = turnWatermark lib watermark layer := by
  unfold turnWatermarkRecorded turnWatermark rotateRgbaRecorded rotateRgba
  cases watermark.rotate.value.nonzero with
  | false => rfl
  | true => cases rotation lib layer.size watermark.rotate.value <;> simp

/-- The record leaves what is computed as it is. -/
theorem applyWatermarkRecorded_result (base layer : Raster Content) :
    (applyWatermarkRecorded lib watermark base layer).result =
      applyWatermark lib watermark base layer := by
  simp [applyWatermarkRecorded, applyWatermark]

/-! ## The rasters of a run -/

theorem mem_newCanvasRecorded_iff {size : Size} {color : ColorType} {built : Shape} :
    built ∈ (newCanvasRecorded size color).events ↔
      CanvasFits size color ∧ built = ⟨size, color⟩ := by
  by_cases fits : CanvasFits size color
  case pos => simp [newCanvasRecorded, Recorded.mem_events_bind_iff, newCanvas_ok fits, fits]
  case neg =>
      have fails : newCanvas size color = .error .panic := if_neg fits
      simp [newCanvasRecorded, Recorded.mem_events_bind_iff, fails, fits]

/-- A watermark is scaled on the raster of its step. -/
theorem mem_scaleWatermarkRecorded_iff {base : Size} {layer : Raster Content} {built : Shape} :
    built ∈ (scaleWatermarkRecorded lib watermark base layer).events ↔
      ∃ target, (watermarkStep watermark base layer.size).scaled = some target ∧
        CanvasFits target layer.color ∧ built = ⟨target, layer.color⟩ := by
  have resized (step : Resize) : built ∈ (resizeRecorded lib layer step .lanczos3).events ↔
      ∃ target, step.scaled = some target ∧
        CanvasFits target layer.color ∧ built = ⟨target, layer.color⟩ := by
    unfold resizeRecorded
    rw [Recorded.events_bind_of_quiet _ fun _ => rfl]
    cases step.scaled with
    | none => simp
    | some target =>
        rw [Option.elim_some, resampleRecorded, Recorded.events_bind_of_quiet]
        case quiet =>
          intro _
          cases lib.resample (firResizeAlg .lanczos3) layer target <;> rfl
        simp [mem_newCanvasRecorded_iff]
  unfold scaleWatermarkRecorded watermarkStep
  cases watermarkBox watermark base with
  | none => simp [Resize.keep]
  | some box => exact resized _

/-- A watermark is rotated on its bounding box. -/
theorem mem_turnWatermarkRecorded_iff {layer : Raster Content} {built : Shape} :
    built ∈ (turnWatermarkRecorded lib watermark layer).events ↔
      watermark.rotate.value.nonzero = true ∧ ∃ target source,
        rotation lib layer.size watermark.rotate.value = some (target, source) ∧
          CanvasFits target .rgba8 ∧ built = ⟨target, .rgba8⟩ := by
  unfold turnWatermarkRecorded rotateRgbaRecorded
  cases watermark.rotate.value.nonzero with
  | false => simp
  | true =>
      cases rotation lib layer.size watermark.rotate.value with
      | none => simp
      | some turned =>
          obtain ⟨target, source⟩ := turned
          rw [if_pos rfl, Recorded.events_bind_of_quiet _ fun _ => rfl, mem_newCanvasRecorded_iff]
          simp

/-- What is allocated for a watermark is its scaled raster and its rotated one. -/
theorem mem_applyWatermarkRecorded_iff {base layer : Raster Content} {built : Shape} :
    built ∈ (applyWatermarkRecorded lib watermark base layer).events ↔
      built ∈ (scaleWatermarkRecorded lib watermark base.size layer).events ∨
        ∃ scaled rgba, scaleWatermark lib watermark base.size layer = .ok scaled ∧
          scaled.toRgba8 lib = .ok rgba ∧
          built ∈ (turnWatermarkRecorded lib watermark rgba).events := by
  simp [applyWatermarkRecorded, Recorded.mem_events_bind_iff]

end Record

/-! ## A square stays a square -/

section Square

def Size.Square (size : Size) : Prop := size.width = size.height

theorem Size.floored_square (side : Nat) : (Size.floored side side).Square := rfl

/-- A square is fit into a box as a square of one of the box's sides. -/
theorem resizeDimensions_square {source : Size} {width height : Nat} (square : source.Square)
    (widthPos : 0 < width) (heightPos : 0 < height) (widthFits : width ≤ u32Max)
    (heightFits : height ≤ u32Max) :
    ∃ side, resizeDimensions source width height false = (side, side) ∧
      (side = width ∨ side = height) := by
  rcases width_or_height_decides source width height false with byWidth | byHeight
  case inl =>
      have other : derived width source.width source.height = width := by
        rw [← square]
        exact derived_self _ _ source.widthPos widthPos widthFits
      rw [resizeDimensions_of_width byWidth widthPos widthFits, other, if_neg (by omega)]
      exact ⟨width, rfl, .inl rfl⟩
  case inr =>
      have other : derived height source.height source.width = height := by
        rw [square]
        exact derived_self _ _ source.heightPos heightPos heightFits
      rw [resizeDimensions_of_height byHeight heightPos heightFits, other, if_neg (by omega)]
      exact ⟨height, rfl, .inr rfl⟩

theorem doubleSigned_neg (value : Rat) : doubleSigned (-value) = -doubleSigned value := by
  unfold doubleSigned
  rcases lt_trichotomy value 0 with negative | rfl | positive
  · rw [if_neg (by linarith), if_pos negative, neg_neg]
  · simp [double, Rounding.nearest_zero]
  · rw [if_pos (by linarith), if_neg (by linarith), neg_neg]

/-- The extent does not depend on the order of the corners. -/
theorem boundingExtent_turned (a b c d : Rat) : boundingExtent a b c d = boundingExtent c a d b := by
  have largest : max (max a b) (max c d) = max (max c a) (max d b) := by
    simp only [max_comm, max_left_comm]
  have smallest : min (min a b) (min c d) = min (min c a) (min d b) := by
    simp only [min_comm, min_left_comm]
  unfold boundingExtent
  rw [largest, smallest]

/-- The corners of a rotated square have the same coordinates on both axes. -/
theorem rotatedSize_square {size : Size} (square : size.Square) (sin cos : Rat) :
    (rotatedSize size sin cos).Square := by
  have same : size.height = size.width := square.symm
  have half : (size.width : Rat) - size.width / 2 = size.width / 2 := by ring
  have corner (x y : Rat) : rotatedCorner size sin cos x y =
      (doubleSigned (doubleSigned ((x - size.width / 2) * cos) -
          doubleSigned ((y - size.width / 2) * sin)),
        doubleSigned (doubleSigned ((x - size.width / 2) * sin) +
          doubleSigned ((y - size.width / 2) * cos))) := by
    unfold rotatedCorner
    rw [same]
  unfold rotatedSize
  rw [same]
  simp only [corner, half, zero_sub, neg_mul, doubleSigned_neg]
  rw [boundingExtent_turned]
  ring_nf
  exact Size.floored_square _

end Square

section Bound

variable {Content : Type} {lib : Imaging Content} {watermark : WatermarkQuery}
variable {base layer : Raster Content} {built : Shape}

/-- The bytes of a raster. -/
def Shape.bytes (shape : Shape) : Nat :=
  shape.size.width * shape.size.height * shape.color.channels * shape.color.sampleBytes

theorem built_bytes_le (member : built ∈ (applyWatermarkRecorded lib watermark base layer).events) :
    built.bytes ≤ isizeMax := by
  rw [mem_applyWatermarkRecorded_iff, mem_scaleWatermarkRecorded_iff] at member
  rcases member with ⟨target, -, fits, rfl⟩ | ⟨scaled, rgba, -, -, turned⟩
  case inl => exact fits
  case inr =>
      obtain ⟨-, target, source, -, fits, rfl⟩ := (mem_turnWatermarkRecorded_iff ..).mp turned
      exact fits

theorem watermarkStep_square {base layer target : Size} (square : layer.Square)
    (scaled : (watermarkStep watermark base layer).scaled = some target) : target.Square := by
  unfold watermarkStep at scaled
  cases box : watermarkBox watermark base with
  | none => simp [box, Resize.keep] at scaled
  | some sides =>
      obtain ⟨width, height⟩ := sides
      obtain ⟨widthPos, heightPos, widthFits, heightFits⟩ := watermarkBox_fits box
      obtain ⟨side, dimensions, -⟩ :=
        resizeDimensions_square square widthPos heightPos widthFits heightFits
      rw [box, Option.elim_some] at scaled
      unfold firResize firResizeExact at scaled
      rw [dimensions] at scaled
      dsimp only at scaled
      split at scaled
      case isTrue => simp [Resize.keep] at scaled
      case isFalse =>
          split at scaled
          case isTrue => simp [Resize.keep] at scaled
          case isFalse =>
              obtain rfl := Option.some.inj scaled
              exact Size.floored_square side

theorem rotation_square {size target : Size} {degrees : FloatVal}
    {source : Nat → Nat → Option (Nat × Nat)} (square : size.Square)
    (turned : rotation lib size degrees = some (target, source)) : target.Square := by
  unfold rotation at turned
  split at turned
  case h_1 =>
      obtain ⟨rfl, -⟩ := Prod.mk.inj (Option.some.inj turned)
      exact Size.floored_square 1
  case h_2 angle _ =>
      split at turned
      case isTrue => cases turned
      case isFalse =>
          obtain ⟨rfl, -⟩ := Prod.mk.inj (Option.some.inj turned)
          exact rotatedSize_square square _ _

/-- Whatever is allocated for a square watermark is a square. -/
theorem built_square (square : layer.size.Square)
    (member : built ∈ (applyWatermarkRecorded lib watermark base layer).events) :
    built.size.Square := by
  rw [mem_applyWatermarkRecorded_iff, mem_scaleWatermarkRecorded_iff] at member
  rcases member with ⟨target, step, -, rfl⟩ | ⟨scaled, rgba, resized, converted, turned⟩
  case inl => exact watermarkStep_square square step
  case inr =>
      obtain ⟨-, target, source, rotated, -, rfl⟩ := (mem_turnWatermarkRecorded_iff ..).mp turned
      refine rotation_square ?_ rotated
      rw [scaleWatermark_eq] at resized
      rw [toColor_size lib converted, resize_size lib layer _ _ scaled resized,
        watermarkStep_result]
      unfold Resize.raster
      cases step : (watermarkStep watermark base.size layer.size).scaled with
      | none => exact square
      | some target => exact watermarkStep_square square step

/-- A square raster is as wide as its bytes allow. -/
theorem Shape.side_le_sqrt {shape : Shape} (square : shape.size.Square) :
    shape.size.width ≤ Nat.sqrt shape.bytes := by
  have channels : 1 ≤ shape.color.channels * shape.color.sampleBytes := by
    cases shape.color <;> decide
  rw [Nat.le_sqrt]
  calc shape.size.width * shape.size.width = shape.size.width * shape.size.height := by rw [square]
    _ ≤ shape.size.width * shape.size.height *
        (shape.color.channels * shape.color.sampleBytes) := Nat.le_mul_of_pos_right _ channels
    _ = shape.bytes := (Nat.mul_assoc ..).symm

end Bound

/-! ## The constant -/

/-- The watermark of a request that the grammar accepts. -/
def Grammatical (watermark : WatermarkQuery) : Prop :=
  ∃ base64 segments options, ProcessingOptions.parse base64 segments = .ok options ∧
    Url.watermarkQuery options = some watermark

/-- The largest of the configured maximum, the base's axes and the watermark's own. -/
def layerScale (config : PerformanceConfig) (base layer : Size) : Nat :=
  max (max config.maxOutputWidth.toNat config.maxOutputHeight.toNat)
    (max (max base.width base.height) (max layer.width layer.height))

/-- Every raster of up to `memory` bytes that scaling and rotating a watermark allocates is
within a multiple of the sizes at hand, on both axes. -/
def LayerWithin (memory multiple : Nat) : Prop :=
  ∀ (Content : Type) (lib : Imaging Content) (config : PerformanceConfig)
    (watermark : WatermarkQuery) (base layer : Raster Content),
    Grammatical watermark →
    checkSourceResolution base.size.width base.size.height config.maxSrcResolutionMp.toNat = .ok () →
    checkSourceResolution layer.size.width layer.size.height config.maxSrcResolutionMp.toNat =
      .ok () →
    ∀ built ∈ (applyWatermarkRecorded lib watermark base layer).events, built.bytes ≤ memory →
      built.size.width ≤ multiple * layerScale config base.size layer.size ∧
        built.size.height ≤ multiple * layerScale config base.size layer.size

theorem sqrt_isizeMax : Nat.sqrt isizeMax = 3037000499 := by
  refine (Nat.eq_sqrt.mpr ?_).symm
  decide

/-- Beyond one pixel a `u32` is short enough; one pixel stays a square. -/
theorem layerWithin_sqrt : LayerWithin isizeMax (Nat.sqrt isizeMax) := by
  intro Content lib config watermark base layer _ _ _ built member _
  by_cases single : layerScale config base.size layer.size = 1
  case pos =>
      have square : layer.size.Square := by
        have width := layer.size.widthPos
        have height := layer.size.heightPos
        unfold layerScale at single
        unfold Size.Square
        omega
      have side := built_square square member
      have bounded := (Shape.side_le_sqrt side).trans (Nat.sqrt_le_sqrt (built_bytes_le member))
      rw [single, Nat.mul_one]
      exact ⟨bounded, side ▸ bounded⟩
  case neg =>
      have double : 2 ≤ layerScale config base.size layer.size := by
        have width := layer.size.widthPos
        unfold layerScale at single ⊢
        omega
      have short : u32Max ≤ Nat.sqrt isizeMax * layerScale config base.size layer.size := by
        refine le_trans ?_ (Nat.mul_le_mul_left _ double)
        rw [sqrt_isizeMax]
        decide
      exact ⟨built.size.widthFits.trans short, built.size.heightFits.trans short⟩

/-- A deployment for outputs of one pixel. -/
def onePixel : PerformanceConfig :=
  { PerformanceConfig.default with maxOutputWidth := 1, maxOutputHeight := 1 }

/-- A watermark to be fit into a square. -/
def squareWatermark (side : UInt32) : WatermarkQuery where
  opacity := F32.one
  position := .center
  xOffset := F32.zero
  yOffset := F32.zero
  scale := F32.zero
  url := none
  size := some (side, side)
  rotate := F32.zero
  shadow := none

/-- The segment that asks for it. -/
def squareSegment (side : UInt32) : List Char :=
  [':'].intercalate ["wms".toList, Text.decimal side.toNat, Text.decimal side.toNat]

theorem squareSegment_parts (side : UInt32) : (squareSegment side).splitOn ':' =
    ["wms".toList, Text.decimal side.toNat, Text.decimal side.toNat] := by
  have numeral : ':' ∉ Text.decimal side.toNat := fun member =>
    absurd (Text.isDigit_of_mem_decimal member) (by decide)
  refine List.splitOn_intercalate _ ?_ (by simp)
  intro part member
  simp only [List.mem_cons, List.not_mem_nil, or_false] at member
  rcases member with rfl | rfl | rfl
  · decide
  · exact numeral
  · exact numeral

theorem parseDimensionAllowZero_decimal (side : UInt32) (segment : List Char) :
    Url.parseDimensionAllowZero (Text.decimal side.toNat) segment = .ok side := by
  have value : Text.parseUnsigned (2 ^ 32 - 1) (Text.decimal side.toNat) = some side.toNat :=
    Text.parseUnsigned_decimal (toNat_le_u32Max side)
  unfold Url.parseDimensionAllowZero Url.parseU32 Url.parseInteger
  rw [value]
  exact congrArg Except.ok UInt32.ofNat_toNat

/-- The segment names the size and nothing else. -/
theorem applySegment_squareSegment (side : UInt32) (scan : Url.Scan) :
    Url.applySegment .urlSafeNoPad scan (squareSegment side) =
      .ok (scan.update fun opts => { opts with watermarkSize := some (side, side) }) := by
  have name : String.ofList (Url.code (squareSegment side)) = "wms" := by
    rw [Url.code, squareSegment_parts, List.headD_cons]
    decide
  have pair : Url.requireArgs 2 (Url.arguments (squareSegment side)) (squareSegment side) =
      .ok fun i => [Text.decimal side.toNat, Text.decimal side.toNat][i] := by
    rw [Url.arguments, squareSegment_parts]
    rfl
  simp only [Url.applySegment, name, pair]
  simp [bind, Except.bind, pure, Except.pure, parseDimensionAllowZero_decimal]

theorem squareWatermark_grammatical (side : UInt32) : Grammatical (squareWatermark side) := by
  have visible : Url.applySegment .urlSafeNoPad .initial "wm:1".toList =
      .ok (Url.Scan.initial.update fun opts => { opts with watermarkOpacity := some F32.one }) := by
    decide +kernel
  refine ⟨.urlSafeNoPad, ["wm:1".toList, squareSegment side],
    { ProcessingOptions.default with
      watermarkOpacity := some F32.one, watermarkSize := some (side, side) }, ?_, rfl⟩
  rw [ProcessingOptions.parse, Url.scanSegments, List.foldlM_cons, visible]
  simp only [List.foldlM_cons, List.foldlM_nil, applySegment_squareSegment, bind, Except.bind]
  rfl

theorem pixel_scaled {side : Nat} (several : 2 ≤ side) (fits : side ≤ u32Max) :
    (firResize (.floored 1 1) side side).scaled = some (.floored side side) := by
  have positive : 0 < side := by omega
  obtain ⟨_, dimensions, named⟩ :=
    resizeDimensions_square (Size.floored_square 1) positive positive fits fits
  rw [or_self_iff.mp named] at dimensions
  have larger : Size.floored side side ≠ .floored 1 1 := by
    intro same
    have width := congrArg Size.width same
    simp only [Size.floored] at width
    omega
  unfold firResize
  rw [if_neg, dimensions]
  case hnc =>
    intro same
    have width := congrArg Prod.fst same
    simp only [Size.floored] at width
    omega
  dsimp only
  unfold firResizeExact
  dsimp only
  rw [if_neg larger]

theorem grayscale_bytes {side : Nat} (positive : 0 < side) (fits : side ≤ u32Max) :
    (⟨.floored side side, .l8⟩ : Shape).bytes = side * side := by
  rw [Size.floored_of_fits positive positive fits fits]
  exact (Nat.mul_one _).trans (Nat.mul_one _)

/-- A pixel that is to be fit into a square is scaled to it. -/
theorem pixel_allocates {side : Nat} (several : 2 ≤ side) (fits : side ≤ u32Max)
    (room : (⟨.floored side side, .l8⟩ : Shape).bytes ≤ isizeMax) :
    (⟨.floored side side, .l8⟩ : Shape) ∈
      (applyWatermarkRecorded .blank (squareWatermark (.ofNat side)) ⟨.floored 1 1, .rgba8, ()⟩
        (⟨.floored 1 1, .l8, ()⟩ : Raster Unit)).events := by
  have named : (UInt32.ofNat side).toNat = side := UInt32.toNat_ofNat_of_lt' (by
    have : u32Max < UInt32.size := by decide
    omega)
  have nonzero : (UInt32.ofNat side) ≠ 0 := by
    intro zero
    rw [zero] at named
    simp at named
    omega
  have box : watermarkBox (squareWatermark (.ofNat side)) (.floored 1 1) = some (side, side) := by
    unfold watermarkBox squareWatermark
    dsimp only
    rw [if_pos (.inl (UInt32.pos_iff_ne_zero.mpr nonzero)), if_neg nonzero, named]
  rw [mem_applyWatermarkRecorded_iff, mem_scaleWatermarkRecorded_iff]
  refine .inl ⟨.floored side side, ?_, room, rfl⟩
  rw [watermarkStep, box]
  exact pixel_scaled several fits

/-- The layer is within a constant multiple of the sizes at hand.  The constant is the side of
the widest square that can be allocated, and where a buffer may have a given number of bytes
no constant below the side of a square of as many works. -/
theorem watermarkLayer_bounded :
    LayerWithin isizeMax (Nat.sqrt isizeMax) ∧
      ∀ memory multiple, 4 ≤ memory → memory ≤ isizeMax → LayerWithin memory multiple →
        Nat.sqrt memory ≤ multiple := by
  refine ⟨layerWithin_sqrt, fun memory multiple few fits within => ?_⟩
  have small : Nat.sqrt memory ≤ u32Max :=
    (Nat.sqrt_le_sqrt fits).trans (by rw [sqrt_isizeMax]; decide)
  have several : 2 ≤ Nat.sqrt memory := Nat.le_sqrt.mpr few
  have room : (⟨.floored (Nat.sqrt memory) (Nat.sqrt memory), .l8⟩ : Shape).bytes ≤ memory := by
    rw [grayscale_bytes (by omega) small]
    exact Nat.sqrt_le memory
  have bounded := within Unit .blank onePixel (squareWatermark (.ofNat (Nat.sqrt memory)))
    ⟨.floored 1 1, .rgba8, ()⟩ ⟨.floored 1 1, .l8, ()⟩ (squareWatermark_grammatical _) (by decide)
    (by decide) _ (pixel_allocates several small (room.trans fits)) room
  have scale : layerScale onePixel (.floored 1 1) (.floored 1 1) = 1 := by decide
  have width := bounded.1
  rw [scale, Nat.mul_one, Size.floored_of_fits (by omega) (by omega) small small] at width
  exact width

/-- A buffer of a gibibyte is room for a layer that no constant below `32768` bounds. -/
theorem watermarkLayer_bounded_gibibyte :
    LayerWithin isizeMax 3037000499 ∧ ¬ LayerWithin (2 ^ 30) 32767 := by
  refine ⟨sqrt_isizeMax ▸ watermarkLayer_bounded.1, fun within => ?_⟩
  have side : Nat.sqrt (2 ^ 30) = 32768 := (Nat.eq_sqrt.mpr (by decide)).symm
  have least := watermarkLayer_bounded.2 (2 ^ 30) 32767 (by decide) (by decide) within
  rw [side] at least
  exact absurd least (by decide)

end ImageResizer
