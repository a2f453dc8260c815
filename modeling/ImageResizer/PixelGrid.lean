import ImageResizer.Raster
import ImageResizer.Foundation.Rounding

/-!
# Rasters as grids of pixels

A concrete imaging library whose contents are RGBA pixels by position.  It resamples by the
nearest pixel, and neither blurs nor turns by an angle; everything else is as the imaging
crates document it.  The compositing of one pixel is the service's own and computes in single
precision.
-/

namespace ImageResizer

open Rounding

/-- RGBA pixels by column and row. -/
abbrev PixelGrid := Nat → Nat → Rgba8

section SourceOver

/-- The single nearest to a magnitude, below the least normal one a multiple of the least
subnormal. -/
def single (value : NNRat) : NNRat :=
  if value < 1 / (2 ^ 126 : Nat) then nearestEven (value * (2 ^ 149 : Nat)) / (2 ^ 149 : Nat)
  else nearest 24 value

/-- `round().clamp(0.0, 255.0) as u8`. -/
def toChannel (value : NNRat) : UInt8 := .ofNat (min 255 (halfUp value))

/-- The alpha of an overlay pixel at an opacity. -/
def sourceAlpha (opacity : NNRat) (overlay : Rgba8) : NNRat :=
  single (single (overlay.a.toNat / 255) * opacity)

/-- The arithmetic of `composite_over` on a pixel whose `src_a` is positive. -/
def blendPixel (srcA : NNRat) (overlay canvas : Rgba8) : Rgba8 :=
  let dstA := single (canvas.a.toNat / 255)
  let rest := single (1 - srcA)
  let outA := single (srcA + single (dstA * rest))
  if outA = 0 then ⟨0, 0, 0, 0⟩
  else
    let blend (s d : UInt8) : UInt8 :=
      toChannel (single (single (single (s.toNat * srcA) + single (single (d.toNat * dstA) * rest))
        / outA))
    ⟨blend overlay.r canvas.r, blend overlay.g canvas.g, blend overlay.b canvas.b,
      toChannel (single (outA * 255))⟩

/-- `composite_over` on one pixel, at an opacity that is not `<= 0.0`.  A NaN passes every
comparison and ends as zero in every channel. -/
def sourceOver (opacity : Opacity) (overlay canvas : Rgba8) : Rgba8 :=
  match opacity.value with
  | .finite _ size =>
      if sourceAlpha size overlay = 0 then canvas
      else blendPixel (sourceAlpha size overlay) overlay canvas
  | _ => ⟨0, 0, 0, 0⟩

theorem sourceOver_nan {opacity : Opacity} (isNan : opacity.value = .nan)
    (overlay canvas : Rgba8) : sourceOver opacity overlay canvas = ⟨0, 0, 0, 0⟩ := by
  rw [sourceOver, isNan]

theorem single_zero : single 0 = 0 := by simp [single, nearestEven]

/-- An opacity that is a number is a fraction. -/
theorem Opacity.fraction (opacity : Opacity) (number : opacity.value ≠ .nan) :
    ∃ size ≤ 1, opacity.value = .finite false size := by
  have clamped := opacity.clamped
  cases value : opacity.value with
  | nan => exact absurd value number
  | inf negative =>
      rw [value] at clamped
      cases negative <;> cases clamped
  | finite negative magnitude =>
      rw [value] at clamped
      cases negative with
      | true => cases clamped
      | false =>
          injection clamped with _ small
          exact ⟨magnitude, min_eq_left_iff.mp small, rfl⟩

/-- A fully transparent overlay pixel shows nothing, at any opacity that is a number. -/
theorem sourceOver_transparent {opacity : Opacity} {overlay canvas : Rgba8}
    (number : opacity.value ≠ .nan) (transparent : overlay.a = 0) :
    sourceOver opacity overlay canvas = canvas := by
  obtain ⟨size, -, fraction⟩ := opacity.fraction number
  have unseen : sourceAlpha size overlay = 0 := by
    rw [sourceAlpha, transparent]
    simp [single_zero]
  rw [sourceOver, fraction]
  exact if_pos unseen

end SourceOver

section Library

/-- The pixel of the image that an orientation shows at a position. -/
def Orientation.origin (size : Size) (x y : Nat) : Orientation → Nat × Nat
  | .noTransforms => (x, y)
  | .rotate90 => (y, size.height - 1 - x)
  | .rotate180 => (size.width - 1 - x, size.height - 1 - y)
  | .rotate270 => (size.width - 1 - y, x)
  | .flipHorizontal => (size.width - 1 - x, y)
  | .flipVertical => (x, size.height - 1 - y)
  | .rotate90FlipH => (y, x)
  | .rotate270FlipH => (size.width - 1 - y, size.height - 1 - x)

/-- The luma of the `image` crate. -/
def Rgba8.gray (pixel : Rgba8) : Rgba8 :=
  let luma : UInt8 :=
    .ofNat ((2126 * pixel.r.toNat + 7152 * pixel.g.toNat + 722 * pixel.b.toNat) / 10000)
  ⟨luma, luma, luma, pixel.a⟩

/-- A pixel as a colour type holds it, read back in RGBA. -/
def Rgba8.through (color : ColorType) (pixel : Rgba8) : Rgba8 :=
  let pixel := if color.channels ≤ 2 then pixel.gray else pixel
  if color.hasAlpha then pixel else { pixel with a := 255 }

/-- The overlay pixel that falls on a position of the canvas, if one does. -/
def overlayIndex (canvas overlay : Size) (position : Int × Int) (x y : Nat) :
    Option (Nat × Nat) :=
  if (x < canvas.width ∧ y < canvas.height) ∧
      (position.1 ≤ x ∧ x < position.1 + overlay.width) ∧
      position.2 ≤ y ∧ y < position.2 + overlay.height then
    some ((x - position.1).toNat, (y - position.2).toNat)
  else none

/-- One layer drawn over another, clipped to it. -/
def drawOver (paint : Rgba8 → Rgba8 → Rgba8) (canvas overlay : Raster PixelGrid)
    (position : Int × Int) : PixelGrid := fun x y =>
  match overlayIndex canvas.size overlay.size position x y with
  | some (column, row) => paint (overlay.content column row) (canvas.content x y)
  | none => canvas.content x y

/-- The library on grids. -/
def Imaging.pixels : Imaging PixelGrid where
  rgba8At image x y := image.content x y
  convert color image := fun x y => (image.content x y).through color
  mapRgba8 rewrite image := fun x y => rewrite (image.content x y)
  crop image window := fun x y => image.content (window.x + x) (window.y + y)
  resample _ image target := .ok fun x y =>
    image.content (x * image.size.width / target.width) (y * image.size.height / target.height)
  turn orientation image := fun x y =>
    let (column, row) := orientation.origin image.size x y
    image.content column row
  grayColor color := if color.hasAlpha then .la8 else .l8
  grayscale image := fun x y => (image.content x y).gray
  blur _ image := image.content
  embed background _ offset layer := fun x y =>
    if offset.1 ≤ x ∧ x < offset.1 + layer.size.width ∧
        offset.2 ≤ y ∧ y < offset.2 + layer.size.height then
      layer.content (x - offset.1) (y - offset.2)
    else ⟨background.r, background.g, background.b, 255⟩
  gather _ source image := fun x y =>
    match source x y with
    | some (column, row) => image.content column row
    | none => ⟨0, 0, 0, 0⟩
  draw := drawOver
  flattenChannel alpha channel background :=
    let alpha := single (alpha.toNat / 255)
    toChannel (single (single (channel.toNat * alpha) +
      single (background.toNat * single (1 - alpha))))
  sourceOver := ImageResizer.sourceOver
  sinCos _ := (0, 1)

end Library

end ImageResizer
