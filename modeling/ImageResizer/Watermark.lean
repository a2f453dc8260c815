import ImageResizer.Transform

/-!
# Watermark

Scaling, rotating, placing and compositing a watermark.  The position arithmetic is in
`i64` and unchecked, so an addition that leaves the range is a panic here.
-/

namespace ImageResizer

/-- `i64::MAX`; the smallest value is one further from zero. -/
def i64Max : Int := 2 ^ 63 - 1

def i64Min : Int := -2 ^ 63

/-- An `i64` addition. -/
def i64Add (a b : Int) : Stage Int := do
  .assert (i64Min ≤ a + b ∧ a + b ≤ i64Max)
  pure (a + b)

section Rotate

/-- `rem_euclid(360.0)`; NaN for what is not finite. -/
def normalizedDegrees : FloatVal → Option Rat
  | .finite negative magnitude =>
      let value := FloatVal.signed negative magnitude
      some (doubleSigned (value - 360 * ⌊value / 360⌋))
  | _ => none

variable (size : Size) (sin cos : Rat)

/-- A corner of a raster about its centre, rotated. -/
def rotatedCorner (x y : Rat) : Rat × Rat :=
  let dx := x - size.width / 2
  let dy := y - size.height / 2
  (doubleSigned (doubleSigned (dx * cos) - doubleSigned (dy * sin)),
    doubleSigned (doubleSigned (dx * sin) + doubleSigned (dy * cos)))

/-- The extent of four coordinates, less a tiny epsilon, rounded up to whole pixels. -/
def boundingExtent (a b c d : Rat) : Nat :=
  let spread := doubleSigned (max (max a b) (max c d) - min (min a b) (min c d))
  (⌈doubleSigned (spread - double (1 / 10 ^ 9))⌉).toNat

/-- The bounding box `rotate_rgba` allocates. -/
def rotatedSize : Size :=
  let (ax, ay) := rotatedCorner size sin cos 0 0
  let (bx, byTop) := rotatedCorner size sin cos size.width 0
  let (cx, cy) := rotatedCorner size sin cos 0 size.height
  let (dx, dy) := rotatedCorner size sin cos size.width size.height
  .floored (boundingExtent ax bx cx dx) (boundingExtent ay byTop cy dy)

/-- The source pixel a destination pixel of the rotation shows. -/
def rotatedSource (target : Size) (outX outY : Nat) : Option (Nat × Nat) :=
  let dx : Rat := outX + 1 / 2 - target.width / 2
  let dy : Rat := outY + 1 / 2 - target.height / 2
  let srcX := ⌊doubleSigned
    (doubleSigned (doubleSigned (dx * cos) + doubleSigned (dy * sin)) + size.width / 2)⌋
  let srcY := ⌊doubleSigned
    (doubleSigned (doubleSigned (-dx * sin) + doubleSigned (dy * cos)) + size.height / 2)⌋
  if 0 ≤ srcX ∧ 0 ≤ srcY ∧ srcX < size.width ∧ srcY < size.height then
    some (srcX.toNat, srcY.toNat)
  else none

end Rotate

section Compose

variable {Content : Type} (lib : Imaging Content)

/-- What `rotate_rgba` allocates and shows, or nothing when it is a clone. -/
def rotation (size : Size) (degrees : FloatVal) :
    Option (Size × (Nat → Nat → Option (Nat × Nat))) :=
  match normalizedDegrees degrees with
  | none => some (.floored 1 1, fun _ _ => none)
  | some angle =>
      if angle = 0 then none
      else
        let (sin, cos) := lib.sinCos angle
        let target := rotatedSize size sin cos
        some (target, rotatedSource size sin cos target)

/-- `rotate_rgba`. -/
def rotateRgba (rgba : Raster Content) (degrees : FloatVal) : Stage (Raster Content) :=
  match rotation lib rgba.size degrees with
  | none => pure rgba
  | some (target, source) => do
      newCanvas target .rgba8
      pure { rgba with size := target, content := lib.gather target source rgba }

/-- `build_shadow_layer`: the blurred black silhouette of an RGBA buffer. -/
def buildShadowLayer (rgba : Raster Content) (sigma : F32) : Stage (Raster Content) := do
  newCanvas rgba.size .rgba8
  let silhouette : Raster Content :=
    { rgba with content := lib.mapRgba8 (fun pixel => ⟨0, 0, 0, pixel.a⟩) rgba }
  (silhouette.blur lib sigma).toRgba8 lib

/-- An offset in pixels when its magnitude is at least one, else a fraction. -/
def resolveOffset (offset : FloatVal) (dimension : Nat) : Int :=
  if offset.atLeastOne then offset.round.toSigned i64Min i64Max
  else ((offset.mul (.ofNat dimension)).round).toSigned i64Min i64Max

/-- The anchor of a watermark, before its offsets. -/
def watermarkAnchor (position : WatermarkPosition) (base watermark : Size) : Int × Int :=
  let slackX : Int := base.width - watermark.width
  let slackY : Int := base.height - watermark.height
  match position with
  | .center => (slackX.tdiv 2, slackY.tdiv 2)
  | .north => (slackX.tdiv 2, 0)
  | .south => (slackX.tdiv 2, slackY)
  | .east => (slackX, slackY.tdiv 2)
  | .west => (0, slackY.tdiv 2)
  | .northEast => (slackX, 0)
  | .northWest => (0, 0)
  | .southEast => (slackX, slackY)
  | .southWest => (0, slackY)

/-- `watermark_position`. -/
def watermarkPosition (watermark : WatermarkQuery) (base layer : Size) : Stage (Int × Int) := do
  let (baseX, baseY) := watermarkAnchor watermark.position base layer
  let x ← i64Add baseX (resolveOffset watermark.xOffset.value base.width)
  let y ← i64Add baseY (resolveOffset watermark.yOffset.value base.height)
  pure (x, y)

/-- Some row of the overlay falls on the canvas. -/
def rowsMeet (canvas overlay : Size) (y : Int) : Prop :=
  y < canvas.height ∧ 0 < y + overlay.height

instance (canvas overlay : Size) (y : Int) : Decidable (rowsMeet canvas overlay y) :=
  inferInstanceAs (Decidable (_ ∧ _))

/-- `composite_over`.  The row coordinate is computed for every row, the column
coordinate for the rows on the canvas. -/
def compositeOver (canvas overlay : Raster Content) (position : Int × Int)
    (opacity : Opacity) : Stage (Raster Content) :=
  if opacity.value.nonpositive then pure canvas
  else do
    let (x, y) := position
    .assert (y + overlay.size.height - 1 ≤ i64Max)
    .assert (rowsMeet canvas.size overlay.size y → x + overlay.size.width - 1 ≤ i64Max)
    pure { canvas with content := lib.draw (lib.sourceOver opacity) canvas overlay position }

/-- The box a watermark is fit into, if it is scaled at all. -/
def watermarkBox (watermark : WatermarkQuery) (base : Size) : Option (Nat × Nat) :=
  let scaled (dimension : Nat) : Nat :=
    ((((FloatVal.ofNat dimension).mul watermark.scale.value).round).max (.ofNat 1)).toUnsigned
      u32Max
  let byScale :=
    if watermark.scale.value.isPositive then some (scaled base.width, scaled base.height)
    else none
  match watermark.size with
  | some (width, height) =>
      if 0 < width ∨ 0 < height then
        some (if width = 0 then u32Max else width.toNat, if height = 0 then u32Max else height.toNat)
      else byScale
  | none => byScale

/-- The size and scale step of `apply_watermark`. -/
def scaleWatermark (watermark : WatermarkQuery) (base : Size) (layer : Raster Content) :
    Stage (Raster Content) :=
  match watermarkBox watermark base with
  | some (width, height) => layer.resize lib (firResize layer.size width height) .lanczos3
  | none => pure layer

/-- The rotation step of `apply_watermark`. -/
def turnWatermark (watermark : WatermarkQuery) (layer : Raster Content) :
    Stage (Raster Content) :=
  if watermark.rotate.value.nonzero then rotateRgba lib layer watermark.rotate.value
  else pure layer

/-- The shadow step of `apply_watermark`. -/
def drawShadow (watermark : WatermarkQuery) (canvas layer : Raster Content)
    (position : Int × Int) : Stage (Raster Content) :=
  match watermark.shadow with
  | some sigma =>
      if sigma.value.isPositive then do
        let shadow ← buildShadowLayer lib layer sigma
        compositeOver lib canvas shadow position .full
      else pure canvas
  | none => pure canvas

/-- `apply_watermark`, after the watermark is decoded. -/
def applyWatermark (watermark : WatermarkQuery) (base layer : Raster Content) :
    Stage (Raster Content) := do
  let scaled ← scaleWatermark lib watermark base.size layer
  let rgba ← scaled.toRgba8 lib
  let turned ← turnWatermark lib watermark rgba
  let position ← watermarkPosition watermark base.size turned.size
  let canvas ← base.toRgba8 lib
  let shaded ← drawShadow lib watermark canvas turned position
  compositeOver lib shaded turned position (.ofFloat watermark.opacity.value)

end Compose

end ImageResizer
