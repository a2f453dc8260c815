import ImageResizer.Decode
import ImageResizer.Transform

/-!
# Encoding

The per-format encode calls of `services/image/handler.rs` and
`services/image/avif_codec.rs`, with the settings each passes to its encoder.  The
encoders are parameters; the animated WebP container around their frames is assembled
here byte by byte.
-/

namespace ImageResizer

/-- The WebP encoder's parameters. -/
structure WebpParams where
  useLossy : Bool
  lossyQuality : Nat
  deriving DecidableEq

/-- The JPEG encoder's settings; chroma averaging and optimised Huffman tables are fixed. -/
structure JpegSettings where
  quality : Nat
  noSubsampling : Bool
  progressive : Bool
  deriving DecidableEq

/-- The metadata an encoder is given. -/
structure Metadata where
  iccProfile : Option (List UInt8)
  exif : Option (List UInt8)
  deriving DecidableEq

/-- The metadata an encoder that skips empty blobs writes. -/
def Metadata.nonempty (metadata : Metadata) : Metadata where
  iccProfile := metadata.iccProfile.filter (!·.isEmpty)
  exif := metadata.exif.filter (!·.isEmpty)

/-- The encoders. -/
structure Encoders (Content : Type) where
  webp : WebpParams → Metadata → Raster Content → Except String (List UInt8)
  /-- The WebP encoder as constructed, which is lossless. -/
  webpPlain : Raster Content → Except String (List UInt8)
  png : Metadata → Raster Content → Except String (List UInt8)
  jpeg : JpegSettings → Metadata → Raster Content → Except String (List UInt8)
  avif : (quality speed : Nat) → Option (List UInt8) → Raster Content →
    Except String (List UInt8)
  gif : Raster Content → Except String (List UInt8)
  gifRepeat : Except String Unit
  gifFrames : List (Frame Content) → Except String (List UInt8)

/-- Encoders that write nothing. -/
def Encoders.blank {Content : Type} : Encoders Content where
  webp _ _ _ := .ok []
  webpPlain _ := .ok []
  png _ _ := .ok []
  jpeg _ _ _ := .ok []
  avif _ _ _ _ := .ok []
  gif _ := .ok []
  gifRepeat := .ok ()
  gifFrames _ := .ok []

section Settings

/-- `DEFAULT_WEBP_QUALITY`. -/
def defaultWebpQuality : Nat := 82

/-- `DEFAULT_JPEG_QUALITY`. -/
def defaultJpegQuality : Nat := 75

/-- `DEFAULT_AVIF_QUALITY`. -/
def defaultAvifQuality : Nat := 80

/-- `DEFAULT_AVIF_SPEED`. -/
def defaultAvifSpeed : Nat := 6

/-- A request's quality: the format's own, else the general one, else the default. -/
def resolveQuality (own general : Option UInt8) (default : Nat) : Nat :=
  ((own.orElse fun _ => general).map UInt8.toNat).getD default

end Settings

open Failure (withContext)

variable {Content : Type} (lib : Imaging Content) (encoders : Encoders Content)

/-- Add a context to what fails. -/
def Stage.context {α : Type} (text : String) : Stage α → Stage α
  | .error (.failure failure) => .fail (failure.context text)
  | other => other

section Still

variable (image : Raster Content) (metadata : Metadata)

/-- `encode_webp`. -/
def encodeWebp (quality : Nat) (lossless : Bool) : Stage (List UInt8) := do
  let rgba ← image.toRgba8 lib
  let params : WebpParams := { useLossy := !lossless, lossyQuality := min quality 100 }
  .lift (withContext "image-webp: failed to encode WebP"
    (encoders.webp params metadata.nonempty rgba))

/-- `estimate_output_size`, of the formats whose output buffer it preallocates. -/
def estimateOutputSize (size : Size) (channels : Nat) : Nat :=
  min u64Max (size.width * size.height * channels)

/-- `encode_png`. -/
def encodePng : Stage (List UInt8) := do
  newBuffer (estimateOutputSize image.size 4)
  .lift (withContext "Failed to encode image to Png" (encoders.png metadata image))

/-- `encode_jpeg`. -/
def encodeJpeg (settings : JpegSettings) : Stage (List UInt8) := do
  let rgb ← image.toRgb8 lib
  if 65535 < rgb.size.width then
    .fail (.message "jpeg-encoder: image width exceeds the JPEG format's 65535px limit")
  else if 65535 < rgb.size.height then
    .fail (.message "jpeg-encoder: image height exceeds the JPEG format's 65535px limit")
  else
    .lift (withContext "jpeg-encoder: failed to encode JPEG"
      (encoders.jpeg settings metadata.nonempty rgb))

/-- `avif_codec::encode`, which clamps to the encoder's ranges. -/
def encodeAvif (quality speed : Nat) : Stage (List UInt8) := do
  let rgba ← image.toRgba8 lib
  match encoders.avif (max 1 (min quality 100)) (max 1 (min speed 10)) metadata.nonempty.exif
      rgba with
  | .ok bytes => pure bytes
  | .error cause => .fail (.message s!"ravif: encode failed: {cause}")

/-- `MAX_BYTES_SEARCH_ATTEMPTS`. -/
def maxBytesSearchAttempts : Nat := 6

/-- The state of the quality search. -/
structure Search where
  best : List UInt8
  low : Nat
  high : Nat

/-- One attempt of the search, and whether it goes on. -/
def searchStep (maxBytes : Nat) (search : Search) (mid : Nat) (candidate : List UInt8) :
    Search × Bool :=
  if candidate.length ≤ maxBytes then
    ({ search with best := candidate, low := mid + 1 }, mid ≠ 255)
  else
    let best := if maxBytes < search.best.length ∧ candidate.length < search.best.length
      then candidate else search.best
    ({ search with best, high := mid - 1 }, mid ≠ 0)

/-- The loop of `encode_with_max_bytes`. -/
def searchLoop (maxBytes : Nat) (encodeAt : Nat → Stage (List UInt8)) :
    (attempts : Nat) → Search → Stage (List UInt8)
  | 0, search => pure search.best
  | attempts + 1, search =>
      if search.high < search.low then pure search.best
      else do
        let mid := search.low + (search.high - search.low) / 2
        let candidate ← encodeAt mid
        let (next, continues) := searchStep maxBytes search mid candidate
        if continues then searchLoop maxBytes encodeAt attempts next else pure next.best

/-- `encode_with_max_bytes`. -/
def encodeWithMaxBytes (maxBytes initialQuality : Nat) (encodeAt : Nat → Stage (List UInt8)) :
    Stage (List UInt8) := do
  let first ← encodeAt initialQuality
  if first.length ≤ maxBytes ∨ initialQuality ≤ 1 then pure first
  else searchLoop maxBytes encodeAt maxBytesSearchAttempts ⟨first, 1, initialQuality - 1⟩

/-- The encode of each output format, with its content type. -/
def encodeFormat (query : ResizeQuery) (config : PerformanceConfig) :
    Stage (List UInt8 × String) :=
  match query.format with
  | .webp => do
      let bytes ← Stage.context "Failed to encode image to WebP"
        (encodeWebp lib encoders image metadata
          (resolveQuality query.webpQuality query.quality defaultWebpQuality)
          (query.webpLossless.getD false))
      pure (bytes, "image/webp")
  | .png => do
      let bytes ← Stage.context "Failed to encode image to Png" (encodePng encoders image metadata)
      pure (bytes, "image/png")
  | .jpg => do
      let quality := resolveQuality query.jpegQuality query.quality defaultJpegQuality
      let encodeAt (quality : Nat) : Stage (List UInt8) := encodeJpeg lib encoders image metadata
        { quality
          noSubsampling := query.jpegNoSubsampling.getD config.jpegNoSubsamplingDefault
          progressive := query.jpegProgressive.getD config.jpegProgressiveDefault }
      let bytes ← Stage.context "Failed to encode image to Jpeg"
        (match query.maxBytes with
        | some maxBytes => encodeWithMaxBytes maxBytes.toNat quality encodeAt
        | none => encodeAt quality)
      pure (bytes, "image/jpeg")
  | .avif => do
      let bytes ← Stage.context "Failed to encode image to Avif"
        (encodeAvif lib encoders image metadata
          (resolveQuality none query.quality defaultAvifQuality) defaultAvifSpeed)
      pure (bytes, "image/avif")
  | .gif => do
      newBuffer (estimateOutputSize image.size 3)
      let bytes ← Outcome.lift (withContext "Failed to encode image to Gif" (encoders.gif image))
      pure (bytes, "image/gif")
  | .auto => .fail
      (.message "internal error: unresolved Auto format reached the image encoder")

end Still

section Animated

/-- A little-endian integer of the given number of bytes. -/
def littleEndian : (count value : Nat) → List UInt8
  | 0, _ => []
  | count + 1, value => UInt8.ofNat (value % 256) :: littleEndian count (value / 256)

/-- `write_riff_chunk`. -/
def writeRiffChunk (fourcc payload : List UInt8) : List UInt8 :=
  fourcc ++ littleEndian 4 payload.length ++ payload ++
    (if payload.length % 2 = 1 then [0] else [])

/-- A delay in whole milliseconds; a zero denominator counts as none. -/
def delayMs (delay : Delay) : Nat := if delay.2 = 0 then 0 else delay.1 / delay.2

/-- The payload of one `ANMF` chunk. -/
def anmfPayload (size : Size) (durationMs : Nat) (inner : List UInt8) : List UInt8 :=
  littleEndian 3 0 ++ littleEndian 3 0 ++ littleEndian 3 (size.width - 1) ++
    littleEndian 3 (size.height - 1) ++ littleEndian 3 (min durationMs (2 ^ 24 - 1)) ++
    [0x02] ++ inner

/-- One frame, encoded and wrapped. -/
def anmfChunk (size : Size) (frame : Frame Content) : Except Failure (List UInt8) :=
  if frame.image.size ≠ size then
    .error (.message "animated WebP: every frame must share the first frame's dimensions")
  else do
    let encoded ← withContext "image-webp: failed to encode animation frame"
      (encoders.webpPlain frame.image)
    if encoded.length < 12 then
      .error (.message "image-webp: encoded frame shorter than the RIFF/WEBP header")
    else
      pure (writeRiffChunk (AvifMeta.fourCC 'A' 'N' 'M' 'F')
        (anmfPayload size (delayMs frame.delay) (encoded.drop 12)))

/-- The container around the frame chunks. -/
def animatedContainer (size : Size) (chunks : List (List UInt8)) : List UInt8 :=
  let vp8x := writeRiffChunk (AvifMeta.fourCC 'V' 'P' '8' 'X')
    ([0x12, 0, 0, 0] ++ littleEndian 3 (size.width - 1) ++ littleEndian 3 (size.height - 1))
  let anim := writeRiffChunk (AvifMeta.fourCC 'A' 'N' 'I' 'M') [0, 0, 0, 0, 0, 0]
  let payload := AvifMeta.fourCC 'W' 'E' 'B' 'P' ++ vp8x ++ anim ++ chunks.flatten
  AvifMeta.fourCC 'R' 'I' 'F' 'F' ++ littleEndian 4 payload.length ++ payload

/-- `encode_animated_webp`. -/
def encodeAnimatedWebp (frames : List (Frame Content)) : Except Failure (List UInt8 × String) :=
  match frames with
  | [] => .error (.message "cannot encode an animated WebP with zero frames")
  | first :: _ =>
      let size := first.image.size
      if 2 ^ 24 < size.width then
        .error (.message "animated WebP: canvas width out of the container's 24-bit range")
      else if 2 ^ 24 < size.height then
        .error (.message "animated WebP: canvas height out of the container's 24-bit range")
      else do
        let chunks ← frames.mapM (anmfChunk encoders size)
        pure (animatedContainer size chunks, "image/webp")

/-- `encode_animated_gif`. -/
def encodeAnimatedGif (frames : List (Frame Content)) : Except Failure (List UInt8 × String) := do
  withContext "Failed to set GIF repeat behaviour" encoders.gifRepeat
  let bytes ← withContext "Failed to encode animated GIF" (encoders.gifFrames frames)
  pure (bytes, "image/gif")

end Animated

end ImageResizer
