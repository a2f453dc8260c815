import ImageResizer.Encode
import ImageResizer.Exif
import ImageResizer.Watermark

/-!
# The CPU stage

`process_image_blocking_with_limits_and_watermark` of `services/image/handler.rs` and the
two pipelines it dispatches to.  An animated output takes the animated decoder first; a
source with several frames is resized frame by frame, and anything else goes through the
single-image pipeline.
-/

namespace ImageResizer

variable {Content : Type} (lib : Imaging Content) (codecs : Codecs Content)
variable (encoders : Encoders Content) (query : ResizeQuery) (config : PerformanceConfig)

/-- The colour transparent pixels and new canvas are filled with. -/
def ResizeQuery.fill (query : ResizeQuery) : Rgb := query.background.getD defaultBackground

section Single

/-- The metadata forwarded to the encoder: dropped when stripped, and with its orientation
neutralised when the pixels were already turned. -/
def resolveExif (exif : Option (List UInt8)) (orientationApplied : Bool) :
    Stage (Option (List UInt8)) :=
  if query.stripMetadata then pure none
  else
    match exif with
    | none => pure none
    | some raw =>
        if orientationApplied then Exif.neutralizeExifOrientation raw else pure (some raw)

/-- The extend stage: only toward a complete target. -/
def extendStage (target : Option (Nat × Nat)) (image : Raster Content) :
    Stage (Raster Content) :=
  match target with
  | some (width, height) =>
      if query.extend then applyExtend lib image width height query.fill else pure image
  | none => pure image

/-- The padding stage. -/
def paddingStage (image : Raster Content) : Stage (Raster Content) :=
  match query.padding with
  | some padding => applyPadding lib image padding query.fill
  | none => pure image

/-- The output cap again, on the canvas that was built. -/
def checkFinalSize (size : Size) : Except Failure Unit :=
  if config.maxOutputWidth.toNat < size.width ∨ config.maxOutputHeight.toNat < size.height then
    .error (.message
      s!"Requested output dimensions too large after extend/padding: {size.width}x{size.height} exceeds maximum {config.maxOutputWidth}x{config.maxOutputHeight}")
  else .ok ()

/-- The geometry of `encode_single_image`: resize, turn and filter, extend, pad, and check
the final size. -/
def transformSingle (source : Size) (image : Raster Content) : Stage (Raster Content) := do
  let sizing := effectiveResizeBox query source
  let resized ← resizeAndFilter lib query sizing.resizeBox (filterFor sizing.resizeBox) source image
  let extended ← extendStage lib query sizing.extendBox resized
  let padded ← paddingStage lib query extended
  .lift (checkFinalSize config padded.size)
  pure padded

/-- The watermark stage, which takes both the bytes and the options. -/
def watermarkStage (watermarkBytes : Option (List UInt8)) (image : Raster Content) :
    Stage (Raster Content) :=
  match watermarkBytes, query.watermark with
  | some bytes, some watermark => do
      let layer ← Outcome.lift
        (Failure.withContext "Failed to decode watermark image" (codecs.loadFromMemory bytes))
      applyWatermark lib watermark image layer
  | _, _ => pure image

/-- The alpha stage: flatten for JPEG, normalise transparent pixels for the others. -/
def alphaStage (image : Raster Content) : Stage (Raster Content) :=
  if image.hasAlpha then
    if query.format = .jpg then flattenOntoBackground lib image query.fill
    else do
      let rgba ← image.toRgba8 lib
      pure (normalizeTransparentPixels lib rgba query.fill)
  else pure image

/-- Alpha handling and the encode, for a format that was resolved. -/
def finishSingle (metadata : Metadata) (image : Raster Content) : Stage (List UInt8 × String) :=
  if query.format = .auto then
    .fail (.message "internal error: unresolved Auto format reached the image encoder")
  else do
    let flattened ← alphaStage lib query image
    encodeFormat lib encoders flattened metadata query config

/-- What the decoder read beside the pixels. -/
structure SourceMetadata where
  iccProfile : Option (List UInt8)
  exifMetadata : Option (List UInt8)
  exifOrientationApplied : Bool

/-- `encode_single_image`. -/
def encodeSingleImage (watermarkBytes : Option (List UInt8)) (metadata : SourceMetadata)
    (source : Size) (image : Raster Content) : Stage (List UInt8 × String) := do
  let exif ← resolveExif query metadata.exifMetadata metadata.exifOrientationApplied
  let transformed ← transformSingle lib query config source image
  let marked ← watermarkStage lib codecs query watermarkBytes transformed
  finishSingle lib encoders query config ⟨metadata.iccProfile, exif⟩ marked

end Single

section Still

/-- Autorotation of a decoded image. -/
def autorotate (decoded : DecodedImage Content) : Raster Content :=
  if query.autorotate then decoded.image.turn lib decoded.orientation else decoded.image

/-- The trim stage. -/
def trimStage (image : Raster Content) : Stage (Raster Content) :=
  match query.trim with
  | some trim => applyTrim lib image trim
  | none => pure image

/-- The explicit crop stage. -/
def cropStage (image : Raster Content) : Raster Content :=
  match query.crop with
  | some crop => applyCropTo lib image crop
  | none => image

/-- The stages between a still decode and the resize: autorotation, trim, crop. -/
def prepareStill (decoded : DecodedImage Content) : Stage (Raster Content) := do
  let trimmed ← trimStage lib query (autorotate lib query decoded)
  pure (cropStage lib query trimmed)

/-- The metadata of a still decode. -/
def DecodedImage.sourceMetadata (decoded : DecodedImage Content) (query : ResizeQuery) :
    SourceMetadata where
  iccProfile := decoded.iccProfile
  exifMetadata := decoded.exifMetadata
  exifOrientationApplied := query.autorotate && decoded.orientation ≠ .noTransforms

/-- The header checks and the decode of the still path. -/
def decodeStill (bytes : List UInt8) (format : Option SourceFormat) :
    Except Failure (DecodedImage Content) := do
  let size ← peekDimensions codecs bytes format
  checkSourceResolution size.width size.height config.maxSrcResolutionMp.toNat
  decodeWithLimits codecs bytes format config.maxSrcResolutionMp.toNat query

/-- The still path from the decoded image on. -/
def encodeStill (watermarkBytes : Option (List UInt8)) (decoded : DecodedImage Content) :
    Stage (List UInt8 × String) := do
  let image ← prepareStill lib query decoded
  encodeSingleImage lib codecs encoders query config watermarkBytes
    (decoded.sourceMetadata query) image.size image

end Still

section Animation

/-- The box of `encode_animation`: the enlarge guard on the plain width and height. -/
def animationBox (source : Size) : PartialBox :=
  (query.width.map fun width => enlargeGuard query.enlarge width.toNat source.width,
    query.height.map fun height => enlargeGuard query.enlarge height.toNat source.height)

/-- One output frame of `encode_animation`. -/
def animateFrame (source : Size) (frame : Frame Content) : Stage (Frame Content) := do
  let box := animationBox query source
  let resized ← resizeAndFilter lib query box (filterFor box) source frame.image
  let rgba ← resized.toRgba8 lib
  pure { frame with image := normalizeTransparentPixels lib rgba query.fill }

/-- The arm of `encode_animation` that its caller rules out. -/
def notAnimatable : Failure :=
  .message "internal error: encode_animation reached with a non-animatable format"

/-- `encode_animation`. -/
def encodeAnimation (frames : List (Frame Content)) (source : Size) :
    Stage (List UInt8 × String) := do
  let output ← frames.mapM (animateFrame lib query source)
  match query.format with
  | .gif => .lift (encodeAnimatedGif encoders output)
  | .webp => .lift (encodeAnimatedWebp encoders output)
  | _ => .fail notAnimatable

/-- The dispatch on how many frames were decoded.  Several are animated and one is a still
image; the source expects that there is one whenever there are not several. -/
def encodeFrames (watermarkBytes : Option (List UInt8)) (frames : List (Frame Content))
    (source : Size) : Stage (List UInt8 × String) :=
  match frames with
  | [] => .panic
  | [frame] =>
      encodeSingleImage lib codecs encoders query config watermarkBytes
        ⟨none, none, false⟩ source frame.image
  | first :: second :: rest =>
      encodeAnimation lib encoders query (first :: second :: rest) source

/-- Whether the output format can carry an animation. -/
def wantsAnimatableOutput : Bool := query.format = .gif || query.format = .webp

/-- The animated branch, when the output and the source can carry an animation. -/
def decodeAnimated (bytes : List UInt8) (format : Option SourceFormat) :
    Stage (Option (List (Frame Content) × Size)) :=
  match format with
  | some format =>
      if wantsAnimatableOutput query then decodeAnimationSource codecs bytes config lib format
      else pure none
  | none => pure none

end Animation

/-- `process_image_blocking_with_limits_and_watermark`. -/
def processImageBlocking (bytes : List UInt8) (watermarkBytes : Option (List UInt8)) :
    Stage (List UInt8 × String) := do
  .lift (checkOutputDimensions query config)
  let format := detectFormatFromBytes bytes
  match ← decodeAnimated lib codecs query config bytes format with
  | some (frames, source) =>
      encodeFrames lib codecs encoders query config watermarkBytes frames source
  | none => do
      let decoded ← Outcome.lift (decodeStill codecs query config bytes format)
      encodeStill lib codecs encoders query config watermarkBytes decoded

/-- The decode of a source: the animated branch where it applies, and the still one. -/
def decodeSource (bytes : List UInt8) :
    Stage ((List (Frame Content) × Size) ⊕ DecodedImage Content) := do
  let format := detectFormatFromBytes bytes
  match ← decodeAnimated lib codecs query config bytes format with
  | some animation => pure (.inl animation)
  | none => do
      let decoded ← Outcome.lift (decodeStill codecs query config bytes format)
      pure (.inr decoded)

/-- The CPU stage decodes its source and goes on with what it got. -/
theorem processImageBlocking_decodeSource (bytes : List UInt8)
    (watermarkBytes : Option (List UInt8)) :
    processImageBlocking lib codecs encoders query config bytes watermarkBytes = (do
      Outcome.lift (checkOutputDimensions query config)
      match ← decodeSource lib codecs query config bytes with
      | .inl (frames, source) =>
          encodeFrames lib codecs encoders query config watermarkBytes frames source
      | .inr decoded => encodeStill lib codecs encoders query config watermarkBytes decoded) := by
  rw [processImageBlocking, decodeSource]
  simp only [bind_assoc]
  congr 1
  funext _
  congr 1
  funext animation
  cases animation with
  | some animation => rfl
  | none =>
      cases decodeStill codecs query config bytes (detectFormatFromBytes bytes) with
      | ok decoded => rfl
      | error failure => rfl

end ImageResizer
