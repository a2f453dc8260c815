import ImageResizer.AvifMeta
import ImageResizer.Raster

/-!
# Decoding

From source bytes to pixels: format detection, the header-only dimension peek, the
decode limits, and the decode paths of `services/image/handler.rs` and
`services/image/avif_codec.rs`.  The decoders are parameters.  A decode limit rejects a
source or leaves its decode as it is; only a WebP decoder's memory limit also decides
which metadata chunks it reads.
-/

namespace ImageResizer

/-- `image::ImageFormat`, as far as the service handles it. -/
inductive SourceFormat where
  | jpeg | png | gif | webp | avif
  deriving DecidableEq, Repr

section Detection

/-- The four bytes at an offset, when they are there. -/
def fourBytes (bytes : List UInt8) (offset : Nat) : List UInt8 := (bytes.drop offset).take 4

/-- `is_avif`: the `ftyp` box's major brand or one of its compatible brands. -/
def isAvif (bytes : List UInt8) : Bool :=
  let brands := [AvifMeta.fourCC 'a' 'v' 'i' 'f', AvifMeta.fourCC 'a' 'v' 'i' 's']
  let scanEnd := min (Reader.bigEndian (fourBytes bytes 0)) bytes.length
  if bytes.length < 12 || fourBytes bytes 4 != AvifMeta.fourCC 'f' 't' 'y' 'p' then false
  else if brands.contains (fourBytes bytes 8) then true
  else (List.range ((scanEnd - 16) / 4)).any fun slot =>
    brands.contains (fourBytes bytes (16 + 4 * slot))

/-- `detect_format_from_bytes`. -/
def detectFormatFromBytes (bytes : List UInt8) : Option SourceFormat :=
  if bytes.length < 12 then none
  else if bytes.take 3 = [0xFF, 0xD8, 0xFF] then some .jpeg
  else if fourBytes bytes 0 = [0x89, 0x50, 0x4E, 0x47] then some .png
  else if fourBytes bytes 0 = AvifMeta.fourCC 'G' 'I' 'F' '8' then some .gif
  else if fourBytes bytes 0 = AvifMeta.fourCC 'R' 'I' 'F' 'F' ∧
      fourBytes bytes 8 = AvifMeta.fourCC 'W' 'E' 'B' 'P' then some .webp
  else if isAvif bytes then some .avif
  else none

end Detection

/-- `image::Limits`. -/
structure Limits where
  maxImageWidth : Nat
  maxImageHeight : Nat
  maxAlloc : Nat
  deriving DecidableEq

/-- `build_decode_limits`. -/
def buildDecodeLimits (maxSrcResolutionMp : Nat) : Limits :=
  let maxPixels := min u64Max (maxSrcResolutionMp * 1000000)
  let maxBytes := min u64Max (min u64Max (maxPixels * 4) * 2)
  { maxImageWidth := 65535, maxImageHeight := 65535,
    maxAlloc := max maxBytes (64 * 1024 * 1024) }

/-- `Limits::reserve`. -/
def Limits.reserve (limits : Limits) (amount : Nat) : Except String Limits :=
  if limits.maxAlloc < amount then .error "Memory limit exceeded"
  else .ok { limits with maxAlloc := limits.maxAlloc - amount }

/-- A delay as a ratio of milliseconds. -/
abbrev Delay := Nat × Nat

/-- What a still-image decoder of the `image` crate reads before and at its decode. -/
structure StillSource (Content : Type) where
  size : Size
  totalBytes : Nat
  orientation : Option Orientation
  iccProfile : Option (List UInt8)
  exifMetadata : Option (List UInt8)
  pixels : Except String (ColorType × Content)

/-- What a GIF decoder reads; every frame is composited to the full canvas. -/
structure GifSource (Content : Type) where
  size : Size
  frames : List (Except String (Content × Delay))

/-- What a WebP decoder reads; metadata chunks are read under a memory limit. -/
structure WebpSource (Content : Type) where
  size : Size
  animated : Bool
  numFrames : Nat
  hasAlpha : Bool
  outputBufferSize : Option Nat
  iccProfile : (memoryLimit : Nat) → Option (List UInt8)
  exifMetadata : (memoryLimit : Nat) → Option (List UInt8)
  image : Except String Content
  frame : Nat → Except String (Content × Nat)

/-- The decoders. -/
structure Codecs (Content : Type) where
  guessFormat : List UInt8 → Except String Unit
  dimensions : Option SourceFormat → List UInt8 → Except String Size
  openStill : Option SourceFormat → List UInt8 → Except String (StillSource Content)
  stillAdmits : Limits → StillSource Content → Except String Unit
  jpegScaled : List UInt8 → (scaleNum : Nat) → Except Failure (Raster Content)
  openGif : List UInt8 → Except String (GifSource Content)
  gifAdmits : Limits → GifSource Content → Except String Unit
  openWebp : List UInt8 → Except String (WebpSource Content)
  orientationFromExif : List UInt8 → Option Orientation
  avifContainer : List UInt8 → Except String Unit
  avifSequenceHeader : List UInt8 → Except String Size
  avifDecoder : List UInt8 → Except String Unit
  avifPixels : List UInt8 → Except String (Raster Content)

/-- Decoders that read nothing. -/
def Codecs.blank {Content : Type} : Codecs Content where
  guessFormat _ := .error "unsupported"
  dimensions _ _ := .error "unsupported"
  openStill _ _ := .error "unsupported"
  stillAdmits _ _ := .ok ()
  jpegScaled _ _ := .error (.message "unsupported")
  openGif _ := .error "unsupported"
  gifAdmits _ _ := .ok ()
  openWebp _ := .error "unsupported"
  orientationFromExif _ := none
  avifContainer _ := .error "unsupported"
  avifSequenceHeader _ := .error "unsupported"
  avifDecoder _ := .error "unsupported"
  avifPixels _ := .error "unsupported"

section PngFiles

/-- The dimensions in the header chunk of a PNG. -/
def pngDimensions (bytes : List UInt8) : Except String Size :=
  if bytes.take 8 = [0x89, 0x50, 0x4E, 0x47, 0x0D, 0x0A, 0x1A, 0x0A] ∧
      fourBytes bytes 12 = AvifMeta.fourCC 'I' 'H' 'D' 'R' ∧ (fourBytes bytes 20).length = 4 then
    .ok (.floored (Reader.bigEndian (fourBytes bytes 16)) (Reader.bigEndian (fourBytes bytes 20)))
  else .error "Invalid PNG signature."

/-- Decoders of truecolour PNGs that leave the pixels out. -/
def Codecs.png : Codecs Unit :=
  { Codecs.blank with
    guessFormat := fun bytes => (pngDimensions bytes).map fun _ => ()
    dimensions := fun _ bytes => pngDimensions bytes
    openStill := fun _ bytes => (pngDimensions bytes).map fun size =>
      { size, totalBytes := size.width * size.height * 3, orientation := none, iccProfile := none
        exifMetadata := none, pixels := .ok (.rgb8, ()) } }

/-- A PNG file of one white pixel. -/
def onePixelPng : List UInt8 :=
  [0x89, 0x50, 0x4E, 0x47, 0x0D, 0x0A, 0x1A, 0x0A, 0x00, 0x00, 0x00, 0x0D, 0x49, 0x48, 0x44, 0x52,
    0x00, 0x00, 0x00, 0x01, 0x00, 0x00, 0x00, 0x01, 0x08, 0x02, 0x00, 0x00, 0x00, 0x90, 0x77, 0x53,
    0xDE, 0x00, 0x00, 0x00, 0x0C, 0x49, 0x44, 0x41, 0x54, 0x78, 0xDA, 0x63, 0xF8, 0xFF, 0xFF, 0x3F,
    0x00, 0x05, 0xFE, 0x02, 0xFE, 0x33, 0x12, 0x95, 0x14, 0x00, 0x00, 0x00, 0x00, 0x49, 0x45, 0x4E,
    0x44, 0xAE, 0x42, 0x60, 0x82]

end PngFiles

/-- `DecodedImage`. -/
structure DecodedImage (Content : Type) where
  image : Raster Content
  orientation : Orientation
  iccProfile : Option (List UInt8)
  exifMetadata : Option (List UInt8)

section Decode

open Failure (withContext required)

variable {Content : Type} (codecs : Codecs Content) (bytes : List UInt8)
variable (format : Option SourceFormat) (maxSrcResolutionMp : Nat)

/-- `make_reader`. -/
def makeReader : Except Failure Unit :=
  match format with
  | some _ => .ok ()
  | none => withContext "Failed to detect image format" (codecs.guessFormat bytes)

/-- The header read of an AVIF container. -/
def avifHeader : Except Failure Size := do
  withContext "avif-parse: failed to parse AVIF container" (codecs.avifContainer bytes)
  withContext "avif-parse: failed to parse AV1 sequence header" (codecs.avifSequenceHeader bytes)

/-- `peek_dimensions`. -/
def peekDimensions : Except Failure Size :=
  match format with
  | some .avif => avifHeader codecs bytes
  | some .webp => do
      let source ← withContext "Failed to read WebP header" (codecs.openWebp bytes)
      pure source.size
  | _ => do
      makeReader codecs bytes format
      withContext "Failed to read image dimensions" (codecs.dimensions format bytes)

/-- The allocation guard every `image` decoder passes before its pixels. -/
def reserveAlloc (source : StillSource Content) : Except Failure Unit := do
  let reserved ← withContext "Failed to decode image"
    ((buildDecodeLimits maxSrcResolutionMp).reserve source.totalBytes)
  withContext "Failed to decode image" (codecs.stillAdmits reserved source)

/-- Opening a decoder of the `image` crate under the decode limits. -/
def openLimited (text : String) : Except Failure (StillSource Content) := do
  makeReader codecs bytes format
  let source ← withContext text (codecs.openStill format bytes)
  withContext text (codecs.stillAdmits (buildDecodeLimits maxSrcResolutionMp) source)
  reserveAlloc codecs maxSrcResolutionMp source
  pure source

/-- A decoder that passed its limits is the one the source opens, whatever the limits. -/
theorem openLimited_ok_iff (text : String) (source : StillSource Content) :
    openLimited codecs bytes format maxSrcResolutionMp text = .ok source ↔
      makeReader codecs bytes format = .ok () ∧ codecs.openStill format bytes = .ok source ∧
        codecs.stillAdmits (buildDecodeLimits maxSrcResolutionMp) source = .ok () ∧
          reserveAlloc codecs maxSrcResolutionMp source = .ok () := by
  simp only [openLimited, Outcome.bind_ok_iff, Failure.withContext_ok_iff]
  constructor
  · rintro ⟨_, read, opened, openOk, _, admitted, _, reserved, made⟩
    cases made
    exact ⟨read, openOk, admitted, reserved⟩
  · rintro ⟨read, openOk, admitted, reserved⟩
    exact ⟨(), read, source, openOk, (), admitted, (), reserved, rfl⟩

/-- `DynamicImage::from_decoder`. -/
def fromDecoder (source : StillSource Content) : Except Failure (Raster Content) := do
  let (color, content) ← withContext "Failed to decode image" source.pixels
  pure ⟨source.size, color, content⟩

/-- What a decoder's pixels and metadata make of a source. -/
def StillSource.decoded (source : StillSource Content) (wantMetadata : Bool)
    (image : Raster Content) : DecodedImage Content where
  image := image
  orientation := source.orientation.getD .noTransforms
  iccProfile := source.iccProfile
  exifMetadata := if wantMetadata then source.exifMetadata else none

/-- `decode_with_image_crate`. -/
def decodeWithImageCrate (wantMetadata : Bool) : Except Failure (DecodedImage Content) := do
  let source ← openLimited codecs bytes format maxSrcResolutionMp
    "Failed to construct image decoder"
  let image ← fromDecoder source
  pure (source.decoded wantMetadata image)

/-- The scale `decode_jpeg_scaled` plans for a header, in the axes of the file. -/
def plannedScale (query : ResizeQuery) (header : Size) (orientation : Orientation) : Nat :=
  let axisSwap := query.autorotate && orientation.swapsAxes
  let target := effectiveResizeTarget (header.swapIf axisSwap) query
  selectJpegDctScale header (if axisSwap then target.2 else target.1)
    (if axisSwap then target.1 else target.2)

/-- The decoder a scale is decoded with: the full size goes to the one already open. -/
def jpegPixels (source : StillSource Content) (scaleNum : Nat) : Except Failure (Raster Content) :=
  if scaleNum = 8 then fromDecoder source else codecs.jpegScaled bytes scaleNum

/-- `decode_jpeg_scaled`. -/
def decodeJpegScaled (query : ResizeQuery) : Except Failure (DecodedImage Content) := do
  let source ← openLimited codecs bytes (some .jpeg) maxSrcResolutionMp
    "Failed to construct image decoder for header read"
  let scaleNum := plannedScale query source.size (source.orientation.getD .noTransforms)
  let image ← jpegPixels codecs bytes source scaleNum
  pure (source.decoded (!query.stripMetadata) image)

/-- The colour type of a WebP decode. -/
def WebpSource.color (source : WebpSource Content) : ColorType :=
  if source.hasAlpha then .rgba8 else .rgb8

/-- `from_raw` on the decoder's output buffer, which must be long enough. -/
def WebpSource.bufferFits (source : WebpSource Content) (bufferSize : Nat) : Bool :=
  source.size.width * source.size.height * source.color.channels ≤ bufferSize

/-- The buffer of `read_webp_pixels`, whose panic `decode_webp` catches. -/
def webpPixelBuffer (source : WebpSource Content) : Except Failure Nat := do
  let bufferSize ← required "image-webp: image dimensions overflow the output buffer size"
    source.outputBufferSize
  if isizeMax < bufferSize then
    .error (.message "image-webp decode panicked: capacity overflow")
  else pure bufferSize

/-- `read_webp_pixels`. -/
def readWebpPixels (source : WebpSource Content) : Except Failure (Raster Content) := do
  let bufferSize ← webpPixelBuffer source
  let content ← withContext "image-webp: failed to decode WebP pixels" source.image
  if source.bufferFits bufferSize then pure ⟨source.size, source.color, content⟩
  else if source.hasAlpha then
    .error (.message "image-webp: decoded RGBA buffer size mismatch")
  else .error (.message "image-webp: decoded RGB buffer size mismatch")

/-- `decode_webp`. -/
def decodeWebp : Except Failure (DecodedImage Content) := do
  let source ← withContext "image-webp: failed to read WebP header" (codecs.openWebp bytes)
  checkSourceResolution source.size.width source.size.height maxSrcResolutionMp
  let memoryLimit := (buildDecodeLimits maxSrcResolutionMp).maxAlloc
  let exif := source.exifMetadata memoryLimit
  let image ← readWebpPixels source
  pure
    { image
      orientation := (exif.bind codecs.orientationFromExif).getD .noTransforms
      iccProfile := source.iccProfile memoryLimit
      exifMetadata := exif }

/-- `avif_codec::decode`. -/
def decodeAvif : Except Failure (DecodedImage Content) := do
  let size ← avifHeader codecs bytes
  checkSourceResolution size.width size.height maxSrcResolutionMp
  withContext "avif-decode: failed to parse AVIF container" (codecs.avifDecoder bytes)
  let image ← withContext "avif-decode: failed to decode AV1 frame" (codecs.avifPixels bytes)
  let metadata := AvifMeta.parse bytes
  pure
    { image
      orientation := metadata.orientation
      iccProfile := none
      exifMetadata := metadata.exif }

/-- The decode of a source that is not a JPEG, or whose scaled decode failed. -/
def decodeUnscaled (query : ResizeQuery) : Except Failure (DecodedImage Content) :=
  match format with
  | some .webp => decodeWebp codecs bytes maxSrcResolutionMp
  | some .avif => decodeAvif codecs bytes maxSrcResolutionMp
  | _ => decodeWithImageCrate codecs bytes format maxSrcResolutionMp (!query.stripMetadata)

/-- `decode_with_limits`: a failed scaled decode of a JPEG falls back to the full one. -/
def decodeWithLimits (query : ResizeQuery) : Except Failure (DecodedImage Content) :=
  if format = some .jpeg then
    match decodeJpegScaled codecs bytes maxSrcResolutionMp query with
    | .ok decoded => .ok decoded
    | .error _ => decodeUnscaled codecs bytes format maxSrcResolutionMp query
  else decodeUnscaled codecs bytes format maxSrcResolutionMp query

end Decode

section Memory

/-- `Limits::default`. -/
def Limits.default : Limits :=
  { maxImageWidth := u32Max, maxImageHeight := u32Max, maxAlloc := 512 * 1024 * 1024 }

variable {Content : Type} (codecs : Codecs Content) (bytes : List UInt8)

/-- `image::load_from_memory` up to its pixels, which the default limits may refuse. -/
def Codecs.openFromMemory : Except String (StillSource Content) := do
  codecs.guessFormat bytes
  let source ← codecs.openStill none bytes
  let reserved ← Limits.default.reserve source.totalBytes
  codecs.stillAdmits reserved source
  pure source

/-- The raster of a decoder's pixels. -/
def StillSource.raster (source : StillSource Content) : Except String (Raster Content) := do
  let (color, content) ← source.pixels
  pure ⟨source.size, color, content⟩

/-- `image::load_from_memory`. -/
def Codecs.loadFromMemory : Except String (Raster Content) := do
  let source ← codecs.openFromMemory bytes
  source.raster

end Memory

section Animation

open Failure (withContext required)

variable {Content : Type} (codecs : Codecs Content) (bytes : List UInt8)
variable (config : PerformanceConfig)

/-- One frame of an animation, composited to its canvas. -/
structure Frame (Content : Type) where
  image : Raster Content
  delay : Delay

def tooManyFrames (limit : Nat) : Failure :=
  .message s!"animated source exceeds the maximum of {limit} frames"

/-- `collect_frames_capped`, from a frame index on. -/
def collectFramesCapped (size : Size) (maxFrames : Nat) :
    (index : Nat) → List (Except String (Content × Delay)) →
      Except Failure (List (Frame Content))
  | _, [] => pure []
  | index, frame :: rest =>
      if maxFrames ≤ index then .error (tooManyFrames maxFrames)
      else do
        let (content, delay) ← withContext "Failed to decode animation frame" frame
        let others ← collectFramesCapped size maxFrames (index + 1) rest
        pure (⟨⟨size, .rgba8, content⟩, delay⟩ :: others)

/-- The GIF arm of `decode_animation_source`. -/
def decodeGifFrames : Except Failure (List (Frame Content) × Size) := do
  let source ← withContext "Failed to read GIF header" (codecs.openGif bytes)
  withContext "GIF source exceeds configured decode limits"
    (codecs.gifAdmits (buildDecodeLimits config.maxSrcResolutionMp.toNat) source)
  checkSourceResolution source.size.width source.size.height config.maxSrcResolutionMp.toNat
  let frames ← collectFramesCapped source.size config.maxAnimationFrames 0 source.frames
  pure (frames, source.size)

/-- One frame of an animated WebP in its buffer; a frame without alpha is converted. -/
def readWebpFrame (lib : Imaging Content) (source : WebpSource Content) (bufferSize index : Nat) :
    Stage (Frame Content) := do
  let (content, duration) ← Outcome.lift
    (withContext "Failed to decode animation frame" (source.frame index))
  if source.bufferFits bufferSize then do
    let image ← (Raster.mk source.size source.color content).toRgba8 lib
    pure ⟨image, (duration, 1)⟩
  else .fail (.message "WebP: decoded animation frame buffer size mismatch")

/-- One turn of the frame loop. -/
def decodeWebpFrame (lib : Imaging Content) (source : WebpSource Content) (bufferSize index : Nat) :
    Stage (Frame Content) := do
  newBuffer bufferSize
  readWebpFrame lib source bufferSize index

/-- The checks of the WebP arm before its frames are read. -/
def webpFrameBuffer (source : WebpSource Content) : Except Failure Nat := do
  checkSourceResolution source.size.width source.size.height config.maxSrcResolutionMp.toNat
  if config.maxAnimationFrames < source.numFrames then
    .error (tooManyFrames config.maxAnimationFrames)
  else required "WebP source exceeds configured decode limits" source.outputBufferSize

/-- The frames of an animated WebP. -/
def decodeWebpFrames (lib : Imaging Content) (source : WebpSource Content) :
    Stage (List (Frame Content) × Size) := do
  let bufferSize ← Outcome.lift (webpFrameBuffer config source)
  let frames ← (List.range source.numFrames).mapM (decodeWebpFrame lib source bufferSize)
  pure (frames, source.size)

/-- `decode_animation_source`: nothing when the source carries no animation. -/
def decodeAnimationSource (lib : Imaging Content) (format : SourceFormat) :
    Stage (Option (List (Frame Content) × Size)) :=
  match format with
  | .gif => some <$> Outcome.lift (decodeGifFrames codecs bytes config)
  | .webp => do
      let source ← Outcome.lift
        (withContext "Failed to read WebP header" (codecs.openWebp bytes))
      if source.animated then some <$> decodeWebpFrames config lib source else pure none
  | _ => pure none

end Animation

end ImageResizer
