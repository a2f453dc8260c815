import ImageResizer.Foundation.Outcome
import ImageResizer.Orientation
import ImageResizer.Sizing

/-!
# Rasters

A raster is a size, a colour type and a content.  Sizes and colour types are computed
here, and so is whether a new pixel buffer can be built at all.  What a content is, and
how the imaging libraries make one from another, is a parameter: their documented
effect on sizes and colours is part of the operations below, and nothing else is assumed
of them.
-/

namespace ImageResizer

/-- `isize::MAX` on a 64-bit target, beyond which no allocation goes. -/
def isizeMax : Nat := 2 ^ 63 - 1

/-- The variants of `DynamicImage`. -/
inductive ColorType where
  | l8 | la8 | rgb8 | rgba8 | l16 | la16 | rgb16 | rgba16 | rgb32F | rgba32F
  deriving DecidableEq, Repr

namespace ColorType

def channels : ColorType → Nat
  | .l8 | .l16 => 1
  | .la8 | .la16 => 2
  | .rgb8 | .rgb16 | .rgb32F => 3
  | .rgba8 | .rgba16 | .rgba32F => 4

/-- The bytes of a sample. -/
def sampleBytes : ColorType → Nat
  | .l8 | .la8 | .rgb8 | .rgba8 => 1
  | .l16 | .la16 | .rgb16 | .rgba16 => 2
  | .rgb32F | .rgba32F => 4

def hasAlpha : ColorType → Bool
  | .la8 | .la16 | .rgba8 | .rgba16 | .rgba32F => true
  | _ => false

end ColorType

/-- One pixel of an RGBA buffer. -/
structure Rgba8 where
  r : UInt8
  g : UInt8
  b : UInt8
  a : UInt8
  deriving DecidableEq

/-- An opacity, which both callers of `composite_over` clamp to the unit interval; NaN is its
own clamp. -/
structure Opacity where
  value : FloatVal
  clamped : value.clampUnit = value

/-- `1.0`. -/
def Opacity.full : Opacity := ⟨.ofNat 1, rfl⟩

/-- `clamp(0.0, 1.0)`. -/
def Opacity.ofFloat (value : FloatVal) : Opacity := ⟨value.clampUnit, value.clampUnit_clampUnit⟩

structure Raster (Content : Type) where
  size : Size
  color : ColorType
  content : Content

/-- The resampling kernels the service's filters map to. -/
inductive FilterType where
  | nearest | triangle | catmullRom | gaussian | lanczos3
  deriving DecidableEq, Repr

/-- `fast_image_resize`'s algorithms. -/
inductive ResizeAlg where
  | nearest
  | convolution (kernel : String)
  deriving DecidableEq, Repr

/-- `fir_resize_alg`. -/
def firResizeAlg : FilterType → ResizeAlg
  | .nearest => .nearest
  | .triangle => .convolution "Bilinear"
  | .catmullRom => .convolution "CatmullRom"
  | .gaussian => .convolution "Gaussian"
  | .lanczos3 => .convolution "Lanczos3"

/-- The imaging libraries and the single-precision pixel arithmetic, on contents. -/
structure Imaging (Content : Type) where
  /-- The pixel `to_rgba8` gives at a position. -/
  rgba8At : Raster Content → Nat → Nat → Rgba8
  convert : ColorType → Raster Content → Content
  /-- Every pixel of an RGBA buffer rewritten. -/
  mapRgba8 : (Rgba8 → Rgba8) → Raster Content → Content
  crop : Raster Content → Window → Content
  resample : ResizeAlg → Raster Content → Size → Except String Content
  /-- Quarter turns and mirrors. -/
  turn : Orientation → Raster Content → Content
  /-- The colour type of a grayscale image, which goes by that of the image. -/
  grayColor : ColorType → ColorType
  grayscale : Raster Content → Content
  blur : F32 → Raster Content → Content
  /-- A raster laid over a new opaque canvas of one colour. -/
  embed : Rgb → Size → Nat × Nat → Raster Content → Content
  /-- A new RGBA buffer whose pixels are taken from the given positions, or transparent. -/
  gather : Size → (Nat → Nat → Option (Nat × Nat)) → Raster Content → Content
  /-- An RGBA buffer drawn over another at a position, pixel by pixel, clipped to it. -/
  draw : (Rgba8 → Rgba8 → Rgba8) → Raster Content → Raster Content → Int × Int → Content
  /-- A partly transparent pixel composited onto an opaque colour, channel by channel. -/
  flattenChannel : (alpha channel background : UInt8) → UInt8
  /-- Source-over of one pixel at an opacity. -/
  sourceOver : Opacity → Rgba8 → Rgba8 → Rgba8
  /-- Sine and cosine of an angle in degrees. -/
  sinCos : Rat → Rat × Rat

/-- A library on rasters without pixels, which never fails. -/
def Imaging.blank : Imaging Unit where
  rgba8At _ _ _ := ⟨0, 0, 0, 0⟩
  convert _ _ := ()
  mapRgba8 _ _ := ()
  crop _ _ := ()
  resample _ _ _ := .ok ()
  turn _ _ := ()
  grayColor color := color
  grayscale _ := ()
  blur _ _ := ()
  embed _ _ _ _ := ()
  gather _ _ _ := ()
  draw _ _ _ _ := ()
  flattenChannel _ channel _ := channel
  sourceOver _ _ bottom := bottom
  sinCos _ := (0, 1)

/-- A stage of the image pipeline. -/
abbrev Stage (α : Type) := Outcome Failure α

/-- A new buffer, `vec![0; length]` or `Vec::with_capacity`: its bytes must be an `isize`. -/
def newBuffer (bytes : Nat) : Stage Unit := .assert (bytes ≤ isizeMax)

/-- The buffer of a new raster. -/
def newCanvas (size : Size) (color : ColorType) : Stage Unit :=
  newBuffer (size.width * size.height * color.channels * color.sampleBytes)

/-- A `u32` addition. -/
def u32Add (a b : Nat) : Stage Nat := do
  .assert (a + b ≤ u32Max)
  pure (a + b)

/-- A `u32` subtraction. -/
def u32Sub (a b : Nat) : Stage Nat := do
  .assert (b ≤ a)
  pure (a - b)

namespace Raster

variable {Content : Type} (lib : Imaging Content) (image : Raster Content)

def hasAlpha : Bool := image.color.hasAlpha

/-- A buffer of another colour type; a raster that has it already is cloned. -/
def toColor (color : ColorType) : Stage (Raster Content) :=
  if image.color = color then pure image
  else do
    newCanvas image.size color
    pure { image with color, content := lib.convert color image }

def toRgba8 : Stage (Raster Content) := image.toColor lib .rgba8

def toRgb8 : Stage (Raster Content) := image.toColor lib .rgb8

def crop (window : Window) : Raster Content :=
  { image with size := window.size, content := lib.crop image window }

/-- `apply_orientation`, the rotations and the mirrors. -/
def turn (orientation : Orientation) : Raster Content :=
  if orientation = .noTransforms then image
  else
    { image with
      size := image.size.swapIf orientation.swapsAxes
      content := lib.turn orientation image }

def grayscale : Raster Content :=
  { image with color := lib.grayColor image.color, content := lib.grayscale image }

def blur (sigma : F32) : Raster Content := { image with content := lib.blur sigma image }

/-- `DynamicImage::new` and the resampler on it. -/
def resample (target : Size) (filter : FilterType) : Stage (Raster Content) := do
  newCanvas target image.color
  match lib.resample (firResizeAlg filter) image target with
  | .ok content => pure { image with size := target, content }
  | .error cause =>
      .fail (.message
        s!"fast_image_resize failed for {target.width}x{target.height}: {cause}")

/-- What a resize step does to the raster. -/
def resize (step : Resize) (filter : FilterType) : Stage (Raster Content) := do
  let scaled ← step.scaled.elim (pure image) (image.resample lib · filter)
  pure (step.window.elim scaled (scaled.crop lib))

end Raster

end ImageResizer
