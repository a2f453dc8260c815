import ImageResizer.Raster

/-!
# Geometry and pixel stages

The stages of `services/image/handler.rs` between the decoder and the encoder, in the
order the pipeline runs them, except for the watermark.
-/

namespace ImageResizer

variable {Content : Type} (lib : Imaging Content)

section Trim

variable (image : Raster Content) (trim : TrimOptions)

/-- `DEFAULT_BACKGROUND`. -/
def defaultBackground : Rgb := ⟨255, 255, 255⟩

/-- The distance of two channel values. -/
def channelDistance (a b : UInt8) : Nat := max a.toNat b.toNat - min a.toNat b.toNat

/-- The largest distance of a channel from the target is within the threshold. -/
def isBackground (threshold : FloatVal) (target : Rgb) (pixel : Rgba8) : Bool :=
  let distance := max (max (channelDistance pixel.r target.r) (channelDistance pixel.g target.g))
    (channelDistance pixel.b target.b)
  match threshold with
  | .nan => false
  | .inf negative => !negative
  | .finite negative magnitude => !negative && decide ((distance : NNRat) ≤ magnitude) ||
      decide (distance = 0 ∧ magnitude = 0)

/-- How many of the first `limit` lines are background before the first that is not. -/
def leadingLines (limit : Nat) (line : Nat → Bool) : Nat :=
  ((List.range limit).takeWhile line).length

/-- The amounts a trim cuts from each side. -/
structure TrimEdges where
  top : Nat
  bottom : Nat
  left : Nat
  right : Nat
  deriving DecidableEq

/-- The four scans of `apply_trim`, and the equal cuts the options ask for. -/
def trimEdges : TrimEdges :=
  let width := image.size.width
  let height := image.size.height
  let corner := lib.rgba8At image 0 0
  let target := trim.color.getD ⟨corner.r, corner.g, corner.b⟩
  let background (x y : Nat) :=
    isBackground trim.threshold.value target (lib.rgba8At image x y)
  let row (y : Nat) := (List.range width).all fun x => background x y
  let column (x : Nat) := (List.range height).all fun y => background x y
  let top := leadingLines height row
  let bottom := leadingLines (height - top) fun y => row (height - 1 - y)
  let left := leadingLines width column
  let right := leadingLines (width - left) fun x => column (width - 1 - x)
  { top := if trim.equalVer then min top bottom else top
    bottom := if trim.equalVer then min top bottom else bottom
    left := if trim.equalHor then min left right else left
    right := if trim.equalHor then min left right else right }

/-- The rectangle left by the cuts of `apply_trim`, or nothing when they cover the image. -/
def trimWindow (size : Size) (edges : TrimEdges) : Stage (Option Window) := do
  let vertical ← u32Add edges.top edges.bottom
  let horizontal ← u32Add edges.left edges.right
  if size.height ≤ vertical ∨ size.width ≤ horizontal then pure none
  else do
    let width ← u32Sub size.width edges.left
    let width ← u32Sub width edges.right
    let height ← u32Sub size.height edges.top
    let height ← u32Sub height edges.bottom
    pure (some (cropImm size edges.left edges.top width height))

/-- `apply_trim`. -/
def applyTrim : Stage (Raster Content) := do
  let rgba ← image.toRgba8 lib
  let window ← trimWindow image.size (trimEdges lib rgba trim)
  pure (window.elim image (image.crop lib))

end Trim

/-- An explicit crop of the decoded image. -/
def applyCropTo (image : Raster Content) (crop : Crop) : Raster Content :=
  image.crop lib (applyCrop image.size crop)

section Resize

variable (query : ResizeQuery)

/-- The orientation `apply_rotate` turns by. -/
def rotateTurn (degrees : Int32) : Orientation :=
  if degrees.toInt % 360 = 90 then .rotate90
  else if degrees.toInt % 360 = 180 then .rotate180
  else if degrees.toInt % 360 = 270 then .rotate270
  else .noTransforms

/-- `apply_rotate`. -/
def applyRotate (image : Raster Content) : Raster Content :=
  image.turn lib (rotateTurn query.rotate)

/-- `apply_flip`. -/
def applyFlip (image : Raster Content) : Raster Content :=
  let image := if query.flipHorizontal then image.turn lib .flipHorizontal else image
  if query.flipVertical then image.turn lib .flipVertical else image

/-- The grayscale and blur filters. -/
def applyFilters (image : Raster Content) : Raster Content :=
  let image := if query.grayscale = some true then image.grayscale lib else image
  match query.blurSigma with
  | some sigma => if sigma.value.isPositive then image.blur lib sigma else image
  | none => image

/-- `resize_and_filter`. -/
def resizeAndFilter (box : PartialBox) (filter : FilterType) (source : Size)
    (image : Raster Content) : Stage (Raster Content) := do
  let resized ← image.resize lib (resizeStep query box source image.size) filter
  pure (applyFilters lib query (applyFlip lib query (applyRotate lib query resized)))

/-- The cheaper filter for thumbnails. -/
def filterFor (box : PartialBox) : FilterType :=
  match box with
  | (some width, some height) => if width ≤ 300 ∧ height ≤ 300 then .triangle else .lanczos3
  | _ => .lanczos3

end Resize

section Canvas

/-- `embed_on_background`. -/
def embedOnBackground (image : Raster Content) (size : Size) (offset : Nat × Nat)
    (background : Rgb) : Stage (Raster Content) := do
  let color : ColorType := if image.hasAlpha then .rgba8 else .rgb8
  newCanvas size color
  let layer ← image.toColor lib color
  pure ⟨size, color, lib.embed background size offset layer⟩

/-- The canvas `apply_extend` pads to. -/
def extendSize (size : Size) (targetW targetH : Nat) : Size :=
  .floored (max size.width targetW) (max size.height targetH)

/-- `apply_extend`. -/
def applyExtend (image : Raster Content) (targetW targetH : Nat) (background : Rgb) :
    Stage (Raster Content) :=
  if targetW ≤ image.size.width ∧ targetH ≤ image.size.height then pure image
  else do
    let size := extendSize image.size targetW targetH
    let slackW ← u32Sub size.width image.size.width
    let slackH ← u32Sub size.height image.size.height
    embedOnBackground lib image size (slackW / 2, slackH / 2) background

/-- The canvas `apply_padding` builds; the additions saturate. -/
def paddingSize (size : Size) (padding : Padding) : Size :=
  .floored (min u32Max (size.width + padding.left.toNat) + padding.right.toNat)
    (min u32Max (size.height + padding.top.toNat) + padding.bottom.toNat)

/-- `apply_padding`. -/
def applyPadding (image : Raster Content) (padding : Padding) (background : Rgb) :
    Stage (Raster Content) :=
  embedOnBackground lib image (paddingSize image.size padding)
    (padding.left.toNat, padding.top.toNat) background

end Canvas

section Alpha

/-- One pixel of `flatten_onto_background`. -/
def flattenPixel (background : Rgb) (pixel : Rgba8) : Rgba8 :=
  if pixel.a = 255 then pixel
  else if pixel.a = 0 then ⟨background.r, background.g, background.b, 255⟩
  else ⟨lib.flattenChannel pixel.a pixel.r background.r,
    lib.flattenChannel pixel.a pixel.g background.g,
    lib.flattenChannel pixel.a pixel.b background.b, 255⟩

/-- `flatten_onto_background`. -/
def flattenOntoBackground (image : Raster Content) (background : Rgb) :
    Stage (Raster Content) := do
  let rgba ← image.toRgba8 lib
  newCanvas rgba.size .rgb8
  let flat := { rgba with content := lib.mapRgba8 (flattenPixel lib background) rgba }
  pure { flat with color := .rgb8, content := lib.convert .rgb8 flat }

/-- One pixel of `normalize_transparent_pixels`. -/
def normalizePixel (background : Rgb) (pixel : Rgba8) : Rgba8 :=
  if pixel.a = 0 then ⟨background.r, background.g, background.b, 0⟩ else pixel

/-- `normalize_transparent_pixels`, on an RGBA buffer. -/
def normalizeTransparentPixels (rgba : Raster Content) (background : Rgb) : Raster Content :=
  { rgba with content := lib.mapRgba8 (normalizePixel background) rgba }

end Alpha

end ImageResizer
