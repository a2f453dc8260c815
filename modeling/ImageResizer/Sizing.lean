import ImageResizer.Config
import ImageResizer.Failure
import ImageResizer.Params
import ImageResizer.Foundation.FloatArith

/-!
# Sizing

The pixel arithmetic of `services/image/handler.rs`: the limits on the source and on
the requested output, the box a request asks the resize step for, and what that step
makes of a raster of a given size.  The arithmetic is on natural numbers and on doubles,
with every cast saturating as the source's casts do.
-/

namespace ImageResizer

/-- `u32::MAX`. -/
def u32Max : Nat := 2 ^ 32 - 1

/-- `u64::MAX`. -/
def u64Max : Nat := 2 ^ 64 - 1

/-- The dimensions of a raster: at least one pixel an axis, and no more than a `u32`. -/
@[ext]
structure Size where
  width : Nat
  height : Nat
  widthPos : 0 < width
  heightPos : 0 < height
  widthFits : width ≤ u32Max
  heightFits : height ≤ u32Max
  deriving DecidableEq

namespace Size

/-- A `u32` pair with each axis floored at one pixel. -/
def floored (width height : Nat) : Size where
  width := max 1 (min u32Max width)
  height := max 1 (min u32Max height)
  widthPos := by omega
  heightPos := by omega
  widthFits := by simp [u32Max]
  heightFits := by simp [u32Max]

/-- The axes exchanged. -/
def swap (size : Size) : Size where
  width := size.height
  height := size.width
  widthPos := size.heightPos
  heightPos := size.widthPos
  widthFits := size.heightFits
  heightFits := size.widthFits

/-- The axes exchanged when asked. -/
def swapIf (size : Size) (exchange : Bool) : Size :=
  if exchange then size.swap else size

end Size

/-- `check_source_resolution`, on the header's dimensions. -/
def checkSourceResolution (width height maxSrcResolutionMp : Nat) : Except Failure Unit :=
  if u64Max < width * height then
    .error (.message "Source image dimensions overflow while checking resolution")
  else if maxSrcResolutionMp < width * height / 1000000 then
    .error (.message
      s!"Source image resolution too large: {width}x{height} ({width * height / 1000000} MP, max {maxSrcResolutionMp} MP)")
  else .ok ()

/-- `check_axis_bound`: the largest size the request could ask of one axis. -/
def checkAxisBound (explicit minimum : Option Nat) (zoom dpr : FloatVal) (limit : Nat)
    (axisName : String) : Except Failure Unit :=
  let multiplier := (zoom.max (.ofNat 1)).mul (dpr.max (.ofNat 1))
  let scaledExplicit := explicit.map fun value =>
    (((FloatVal.ofNat value).mul multiplier).ceil).toUnsigned u64Max
  let reject (bound : Nat) : Except Failure Unit :=
    if limit < bound then
      .error (.message
        s!"Requested output dimensions too large: {axisName} {bound} exceeds maximum {limit}")
    else .ok ()
  match scaledExplicit, minimum with
  | some scaled, some least => reject (max scaled least)
  | some scaled, none => reject scaled
  | none, some least => reject least
  | none, none => .ok ()

/-- `check_output_dimensions`: runs before anything is decoded. -/
def checkOutputDimensions (query : ResizeQuery) (config : PerformanceConfig) :
    Except Failure Unit := do
  checkAxisBound (query.width.map UInt32.toNat) (query.minWidth.map UInt32.toNat)
    query.zoomX.value query.dpr.value config.maxOutputWidth.toNat "width"
  checkAxisBound (query.height.map UInt32.toNat) (query.minHeight.map UInt32.toNat)
    query.zoomY.value query.dpr.value config.maxOutputHeight.toNat "height"

/-- `rotate_swaps_axes`. -/
def rotateSwapsAxes (degrees : Int32) : Bool :=
  degrees.toInt % 360 / 90 % 2 == 1

/-- A box with either axis left open. -/
abbrev PartialBox := Option Nat × Option Nat

/-- `EffectiveSizing`. -/
structure EffectiveSizing where
  resizeBox : PartialBox
  extendBox : Option (Nat × Nat)
  deriving DecidableEq

/-- `scale_axis`: an explicit axis under zoom and device pixel ratio. -/
def scaleAxis (value : Nat) (zoom dpr : FloatVal) : Nat :=
  (((((FloatVal.ofNat value).mul zoom).mul dpr).round).max (.ofNat 1)).toUnsigned u32Max

/-- The enlarge guard of one axis. -/
def enlargeGuard (enlarge : Bool) (wanted source : Nat) : Nat :=
  if enlarge then wanted else min wanted source

/-- The minimum floor of one axis, which ignores the enlarge guard. -/
def minimumFloor (minimum wanted : Option Nat) (source : Nat) : Option Nat :=
  match minimum with
  | some least => some (max (wanted.getD source) least)
  | none => wanted

/-- `effective_resize_box`.  Everything but the last step is in final orientation. -/
def effectiveResizeBox (query : ResizeQuery) (source : Size) : EffectiveSizing :=
  if query.width.isNone && query.height.isNone &&
      query.minWidth.isNone && query.minHeight.isNone then
    { resizeBox := (none, none), extendBox := none }
  else
    let swap := rotateSwapsAxes query.rotate
    let finalSource := source.swapIf swap
    let scaledWidth := query.width.map fun value =>
      scaleAxis value.toNat query.zoomX.value query.dpr.value
    let scaledHeight := query.height.map fun value =>
      scaleAxis value.toNat query.zoomY.value query.dpr.value
    let extendBox := match scaledWidth, scaledHeight with
      | some width, some height => some (width, height)
      | _, _ => none
    let finalWidth := minimumFloor (query.minWidth.map UInt32.toNat)
      (scaledWidth.map fun width => enlargeGuard query.enlarge width finalSource.width)
      finalSource.width
    let finalHeight := minimumFloor (query.minHeight.map UInt32.toNat)
      (scaledHeight.map fun height => enlargeGuard query.enlarge height finalSource.height)
      finalSource.height
    { resizeBox := if swap then (finalHeight, finalWidth) else (finalWidth, finalHeight),
      extendBox }

/-- `resize_dimensions`: the source scaled by the smaller of the two ratios, or by the
larger when it is to fill the box. -/
def resizeDimensions (source : Size) (nwidth nheight : Nat) (fill : Bool) : Nat × Nat :=
  let wratio := double (nwidth / source.width)
  let hratio := double (nheight / source.height)
  let ratio := if fill then max wratio hratio else min wratio hratio
  let nw := max 1 (Rounding.halfUp (double (source.width * ratio)))
  let nh := max 1 (Rounding.halfUp (double (source.height * ratio)))
  if u32Max < nw then
    let ratio := double (u32Max / source.width)
    (u32Max, min u32Max (max 1 (Rounding.halfUp (double (source.height * ratio)))))
  else if u32Max < nh then
    let ratio := double (u32Max / source.height)
    (min u32Max (max 1 (Rounding.halfUp (double (source.width * ratio)))), u32Max)
  else (nw, nh)

/-- A rectangle of a raster. -/
structure Window where
  x : Nat
  y : Nat
  size : Size
  deriving DecidableEq

/-- `crop_imm`, which clips the rectangle to the raster.  Every rectangle the service
asks for starts inside the raster, so the floor of a pixel is never what decides. -/
def cropImm (container : Size) (x y width height : Nat) : Window :=
  let left := min x container.width
  let top := min y container.height
  { x := left, y := top,
    size := .floored (min width (container.width - left)) (min height (container.height - top)) }

/-- One axis of a focus-point anchor: the box centred on the point, kept inside the
container.  Subtraction stops at zero, which is the lower clamp. -/
def focusOffset (container box : Nat) (point : FloatVal) : Nat :=
  match point.unitClamp with
  | none => 0
  | some fraction =>
      ⌊min ((container - box : Nat) : NNRat)
        (double (double (container * fraction) - (box : NNRat) / (2 : Nat)))⌋₊

/-- `gravity_anchor`: where a box is placed inside its container. -/
def gravityAnchor (gravity : Gravity) (container : Size) (boxW boxH : Nat) : Nat × Nat :=
  let boxW := min boxW container.width
  let boxH := min boxH container.height
  let maxX := container.width - boxW
  let maxY := container.height - boxH
  match gravity with
  | .center => (maxX / 2, maxY / 2)
  | .north => (maxX / 2, 0)
  | .south => (maxX / 2, maxY)
  | .west => (0, maxY / 2)
  | .east => (maxX, maxY / 2)
  | .northWest => (0, 0)
  | .northEast => (maxX, 0)
  | .southWest => (0, maxY)
  | .southEast => (maxX, maxY)
  | .focusPoint x y =>
      (focusOffset container.width boxW x.value, focusOffset container.height boxH y.value)

/-- One axis of an explicit crop, resolved against the source. -/
def CropDimension.resolve (dimension : CropDimension) (source : Nat) : Nat :=
  let resolved := match dimension with
    | .full => source
    | .absolute pixels => pixels.toNat
    | .relative fraction =>
        (((FloatVal.ofNat source).mul fraction.value).round).toUnsigned u32Max
  max 1 (min resolved (max source 1))

/-- `apply_crop`: the window an explicit crop keeps. -/
def applyCrop (source : Size) (crop : Crop) : Window :=
  let width := crop.width.resolve source.width
  let height := crop.height.resolve source.height
  let (x, y) := gravityAnchor crop.gravity source width height
  cropImm source x y width height

/-- What a resize does to a raster: resample it to a new one, or leave it, and then
possibly keep a window only. -/
structure Resize where
  scaled : Option Size
  window : Option Window
  deriving DecidableEq

namespace Resize

/-- `img.clone()`. -/
def keep : Resize := ⟨none, none⟩

/-- The size of the raster before the window is taken. -/
def raster (resize : Resize) (image : Size) : Size := resize.scaled.getD image

/-- The size of the result. -/
def result (resize : Resize) (image : Size) : Size :=
  match resize.window with
  | some window => window.size
  | none => resize.raster image

end Resize

/-- `fir_resize_exact`. -/
def firResizeExact (image : Size) (nwidth nheight : Nat) : Resize :=
  let target := Size.floored nwidth nheight
  if target = image then .keep else { scaled := some target, window := none }

/-- `fir_resize`: fit inside the box. -/
def firResize (image : Size) (nwidth nheight : Nat) : Resize :=
  if (nwidth, nheight) = (image.width, image.height) then .keep
  else
    let (width, height) := resizeDimensions image nwidth nheight false
    firResizeExact image width height

/-- `fir_resize_to_fill`: cover the box and crop the overflow. -/
def firResizeToFill (image : Size) (nwidth nheight : Nat) (gravity : Gravity) : Resize :=
  let (width, height) := resizeDimensions image nwidth nheight true
  let intermediate := firResizeExact image width height
  let container := intermediate.raster image
  let (x, y) := gravityAnchor gravity container nwidth nheight
  { intermediate with window := some (cropImm container x y nwidth nheight) }

/-- The resize dispatch of `resize_and_filter`.  `source` is the size the caller passes
beside the image. -/
def resizeStep (query : ResizeQuery) (box : PartialBox) (source image : Size) : Resize :=
  match box with
  | (some width, none) => firResize image width u32Max
  | (none, some height) => firResize image u32Max height
  | (some width, some height) =>
      match query.resizeType with
      | .fit => firResize image width height
      | .fill => firResizeToFill image width height query.gravity
      | .force => firResizeExact image width height
      | .auto =>
          if decide (source.height ≤ source.width) = decide (height ≤ width) then
            firResizeToFill image width height query.gravity
          else firResize image width height
  | (none, none) => .keep

/-- `effective_resize_target`: what the resize dispatch is predicted to need. -/
def effectiveResizeTarget (source : Size) (query : ResizeQuery) : Nat × Nat :=
  match (effectiveResizeBox query source).resizeBox with
  | (some width, none) => resizeDimensions source width u32Max false
  | (none, some height) => resizeDimensions source u32Max height false
  | (some width, some height) =>
      match query.resizeType with
      | .fit => resizeDimensions source width height false
      | .fill => resizeDimensions source width height true
      | .force => (max width 1, max height 1)
      | .auto => resizeDimensions source width height
          (decide (source.height ≤ source.width) = decide (height ≤ width))
  | (none, none) => (source.width, source.height)

/-- `jpeg_scaled_dimension`: libjpeg's output size at `scaleNum / 8`. -/
def jpegScaledDimension (dim scaleNum : Nat) : Nat := (dim * scaleNum + 7) / 8

/-- `select_jpeg_dct_scale`: the smallest decode that is not below the target. -/
def selectJpegDctScale (raw : Size) (targetWidth targetHeight : Nat) : Nat :=
  let covers (scaleNum : Nat) : Bool :=
    targetWidth ≤ jpegScaledDimension raw.width scaleNum &&
      targetHeight ≤ jpegScaledDimension raw.height scaleNum
  if covers 1 then 1 else if covers 2 then 2 else if covers 4 then 4 else 8

end ImageResizer
