import ImageResizer.NoPanic.Geometry

/-!
# Panics of the watermark stage

A watermark is scaled, converted, rotated and placed.  The canvases it needs are bounded as
those of the geometry stages are, and its coordinates have to be an `i64`.
-/

namespace ImageResizer

open Outcome (Returns EndsWhen)

variable {Content : Type} (lib : Imaging Content)

section Layer

variable (watermark : WatermarkQuery) (base : Size)

/-- The resize a watermark is scaled by. -/
def watermarkStep (layer : Size) : Resize :=
  (watermarkBox watermark base).elim .keep fun box => firResize layer box.1 box.2

/-- The size of a watermark after it was scaled. -/
def scaledSize (layer : Size) : Size := (watermarkStep watermark base layer).result layer

theorem scaleWatermark_eq (layer : Raster Content) :
    scaleWatermark lib watermark base layer =
      layer.resize lib (watermarkStep watermark base layer.size) .lanczos3 := by
  unfold scaleWatermark watermarkStep
  cases watermarkBox watermark base <;> rfl

theorem scaleWatermark_endsWhen (steady : lib.Steady) (layer : Raster Content) :
    EndsWhen (scaleWatermark lib watermark base layer)
      (ScaledFits (watermarkStep watermark base layer.size) layer.color)
      fun scaled => scaled.shape = ⟨scaledSize watermark base layer.size, layer.color⟩ := by
  rw [scaleWatermark_eq]
  exact resize_endsWhen lib layer steady _ _

/-- The canvas a watermark is rotated onto, if it is, fits. -/
def RotationFits (size : Size) : Prop :=
  watermark.rotate.value.nonzero = true → ∀ target source,
    rotation lib size watermark.rotate.value = some (target, source) → CanvasFits target .rgba8

/-- The size of a watermark after its rotation. -/
def turnedSize (size : Size) : Size :=
  if watermark.rotate.value.nonzero then
    ((rotation lib size watermark.rotate.value).map Prod.fst).getD size
  else size

theorem turnWatermark_endsWhen (layer : Raster Content) :
    EndsWhen (turnWatermark lib watermark layer) (RotationFits lib watermark layer.size)
      fun turned => turned.shape = ⟨turnedSize lib watermark layer.size, layer.color⟩ := by
  unfold turnWatermark RotationFits turnedSize rotateRgba
  cases watermark.rotate.value.nonzero with
  | false => exact .congr (Outcome.endsWhen_pure rfl) (by simp)
  | true =>
      cases rotation lib layer.size watermark.rotate.value with
      | none => exact .congr (Outcome.endsWhen_pure rfl) (by simp)
      | some turned =>
          obtain ⟨target, gathered⟩ := turned
          exact .congr (.bind_pure (newCanvas_endsWhen ..) fun _ _ => rfl) (by simp)

end Layer

section Position

variable (watermark : WatermarkQuery) (base : Size)

/-- A coordinate in the range of an `i64`. -/
def CoordinateFits (value : Int) : Prop := i64Min ≤ value ∧ value ≤ i64Max

theorem i64Add_endsWhen (a b : Int) :
    EndsWhen (i64Add a b) (CoordinateFits (a + b)) (· = a + b) :=
  .bind_pure (Outcome.endsWhen_assert _) fun _ _ => rfl

theorem i64Add_returns_iff (a b : Int) : Returns (i64Add a b) ↔ CoordinateFits (a + b) :=
  (i64Add_endsWhen a b).returns_iff

theorem i64Add_ok {a b : Int} (fits : CoordinateFits (a + b)) : i64Add a b = .ok (a + b) := by
  obtain ⟨sum, added, rfl⟩ := (i64Add_endsWhen a b).ends fits
  exact added

/-- Where a watermark of the given size goes: its anchor moved by its offsets. -/
def watermarkOrigin (layer : Size) : Int × Int :=
  ((watermarkAnchor watermark.position base layer).1 +
      resolveOffset watermark.xOffset.value base.width,
    (watermarkAnchor watermark.position base layer).2 +
      resolveOffset watermark.yOffset.value base.height)

/-- Both coordinates of a watermark of the given size are in the range of an `i64`. -/
def PositionFits (layer : Size) : Prop :=
  CoordinateFits (watermarkOrigin watermark base layer).1 ∧
    CoordinateFits (watermarkOrigin watermark base layer).2

theorem watermarkPosition_endsWhen (layer : Size) :
    EndsWhen (watermarkPosition watermark base layer) (PositionFits watermark base layer)
      (· = watermarkOrigin watermark base layer) := by
  unfold watermarkPosition
  refine .bind (i64Add_endsWhen ..) fun x isX => .bind_pure (i64Add_endsWhen ..) fun y isY => ?_
  rw [isX, isY]
  rfl

theorem watermarkPosition_ok {layer : Size} (fits : PositionFits watermark base layer) :
    watermarkPosition watermark base layer = .ok (watermarkOrigin watermark base layer) := by
  obtain ⟨position, ends, rfl⟩ := (watermarkPosition_endsWhen watermark base layer).ends fits
  exact ends

theorem watermarkPosition_returns_iff (layer : Size) :
    Returns (watermarkPosition watermark base layer) ↔ PositionFits watermark base layer :=
  (watermarkPosition_endsWhen watermark base layer).returns_iff

end Position

section Compose

variable (watermark : WatermarkQuery) (base : Size)

/-- The coordinates of an overlay's last row, and of the last column of a row that falls
on the canvas, are in the range of an `i64`. -/
def OverlayFits (canvas overlay : Size) (position : Int × Int) : Prop :=
  position.2 + overlay.height - 1 ≤ i64Max ∧
    (rowsMeet canvas overlay position.2 → position.1 + overlay.width - 1 ≤ i64Max)

theorem compositeOver_endsWhen (canvas overlay : Raster Content) (position : Int × Int)
    (opacity : Opacity) :
    EndsWhen (compositeOver lib canvas overlay position opacity)
      (opacity.value.nonpositive = false → OverlayFits canvas.size overlay.size position)
      fun result => result.shape = canvas.shape := by
  unfold compositeOver
  cases opacity.value.nonpositive with
  | true => exact .congr (Outcome.endsWhen_pure rfl) (by simp)
  | false =>
      exact .congr (.bind (Outcome.endsWhen_assert _) fun _ _ =>
        .bind_pure (Outcome.endsWhen_assert _) fun _ _ => rfl) (by simp [OverlayFits])

theorem buildShadowLayer_endsWhen (layer : Raster Content) (sigma : F32)
    (color : layer.color = .rgba8) :
    EndsWhen (buildShadowLayer lib layer sigma) (CanvasFits layer.size .rgba8)
      fun shadow => shadow.size = layer.size := by
  refine .congr (.bind (newCanvas_endsWhen ..) fun _ _ => .weaken (toColor_endsWhen ..) ?_)
    (and_iff_left_of_imp fun _ => .inl color)
  rintro shadow rfl
  exact congrArg Shape.size (Raster.inColor_shape ..)

/-- A shadow that is drawn has a layer that fits and coordinates in range. -/
def ShadowFits (layer : Size) (position : Int × Int) : Prop :=
  ∀ sigma, watermark.shadow = some sigma → sigma.value.isPositive = true →
    CanvasFits layer .rgba8 ∧ OverlayFits base layer position

theorem drawShadow_endsWhen (canvas layer : Raster Content) (position : Int × Int)
    (color : layer.color = .rgba8) :
    EndsWhen (drawShadow lib watermark canvas layer position)
      (ShadowFits watermark canvas.size layer.size position)
      fun shaded => shaded.shape = canvas.shape := by
  have full : Opacity.full.value.nonpositive = false := by decide
  unfold drawShadow ShadowFits
  cases watermark.shadow with
  | none => exact .congr (Outcome.endsWhen_pure rfl) (by simp)
  | some sigma =>
      dsimp only
      split
      case isFalse faint => exact .congr (Outcome.endsWhen_pure rfl) (by simp [faint])
      case isTrue drawn =>
          refine .congr (.bind (buildShadowLayer_endsWhen lib layer sigma color)
            (q := OverlayFits canvas.size layer.size position) fun shadow size => ?_)
            (by simp [drawn])
          rw [← size]
          exact .congr (compositeOver_endsWhen ..) (by simp [full])

end Compose

section Watermark

variable (watermark : WatermarkQuery)

/-- Placing a watermark of the given size on a base: its coordinates, the RGBA copy of the
base, its shadow, and the watermark itself unless it is invisible. -/
@[mk_iff]
structure PlacementFits (base : Shape) (layer : Size) : Prop where
  position : PositionFits watermark base.size layer
  converted : ConvertFits base .rgba8
  shadow : ShadowFits watermark base.size layer (watermarkOrigin watermark base.size layer)
  overlay : (Opacity.ofFloat watermark.opacity.value).value.nonpositive = false →
    OverlayFits base.size layer (watermarkOrigin watermark base.size layer)

/-- What `apply_watermark` needs: the watermark scaled, in RGBA, rotated, and placed. -/
@[mk_iff]
structure WatermarkFits (base layer : Shape) : Prop where
  scaled : ScaledFits (watermarkStep watermark base.size layer.size) layer.color
  converted : ConvertFits ⟨scaledSize watermark base.size layer.size, layer.color⟩ .rgba8
  turned : RotationFits lib watermark (scaledSize watermark base.size layer.size)
  placed : PlacementFits watermark base
    (turnedSize lib watermark (scaledSize watermark base.size layer.size))

/-- `apply_watermark` ends with an RGBA raster of the size of its base. -/
theorem applyWatermark_endsWhen (steady : lib.Steady) (base layer : Raster Content) :
    EndsWhen (applyWatermark lib watermark base layer)
      (WatermarkFits lib watermark base.shape layer.shape)
      fun marked => marked.shape = ⟨base.size, .rgba8⟩ := by
  simp only [watermarkFits_iff, placementFits_iff, Raster.shape_size, Raster.shape_color]
  refine .bind (scaleWatermark_endsWhen lib watermark base.size steady layer) fun scaled shape => ?_
  have scaledIs : scaledSize watermark base.size layer.size = scaled.size :=
    (congrArg Shape.size shape).symm
  rw [← shape, scaledIs]
  refine .bind (toColor_endsWhen ..) fun rgba converted => ?_
  have rgbaShape : rgba.shape = ⟨scaled.size, .rgba8⟩ := converted ▸ Raster.inColor_shape ..
  have rgbaIs : scaled.size = rgba.size := (congrArg Shape.size rgbaShape).symm
  rw [rgbaIs]
  refine .bind (turnWatermark_endsWhen ..) fun turned turnedShape => ?_
  have turnedIs : turnedSize lib watermark rgba.size = turned.size :=
    (congrArg Shape.size turnedShape).symm
  have turnedColor : turned.color = .rgba8 :=
    (congrArg Shape.color turnedShape).trans (congrArg Shape.color rgbaShape)
  rw [turnedIs]
  refine .bind (watermarkPosition_endsWhen ..) fun position placed => ?_
  rw [← placed]
  refine .bind (toColor_endsWhen ..) fun canvas cloned => ?_
  have canvasShape : canvas.shape = ⟨base.size, .rgba8⟩ := cloned ▸ Raster.inColor_shape ..
  have canvasIs : base.size = canvas.size := (congrArg Shape.size canvasShape).symm
  rw [← canvasShape, canvasIs]
  refine .bind (drawShadow_endsWhen lib watermark _ _ _ turnedColor) fun shaded shadedShape => ?_
  have shadedIs : canvas.size = shaded.size := (congrArg Shape.size shadedShape).symm
  rw [← shadedShape, shadedIs]
  exact compositeOver_endsWhen ..

end Watermark

end ImageResizer
