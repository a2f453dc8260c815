import ImageResizer.Foundation.Recorded
import ImageResizer.Pipeline

/-!
# Which images are decoded

The CPU stage with a record of its pixel decodes and of the resolution checks that were
passed before them (`check_source_resolution`, `decode_with_limits`,
`decode_animation_source` and `apply_watermark` of `services/image/handler.rs`,
`avif_codec::decode`).  Without the record it is the CPU stage itself.
-/

namespace ImageResizer

open Recording

/-- The two images a request is made from. -/
inductive Picture where
  | source
  | watermark
  deriving DecidableEq

/-- A call that decodes pixels. -/
inductive PixelDecoder where
  | imageCrate
  | jpegScaled (scaleNum : Nat)
  | imageWebp
  | avifDecode
  | gifFrame (index : Nat)
  | webpFrame (index : Nat)
  | loadFromMemory
  deriving DecidableEq

/-- What the record of a decode holds: a check that a header passed, or a decode of the pixels
behind a header. -/
inductive DecodeEvent where
  | checked (picture : Picture) (header : Size)
  | decoded (picture : Picture) (decoder : PixelDecoder) (header : Size)
  deriving DecidableEq

/-- A computation with the record of its decodes. -/
abbrev Decoding (ε α : Type) := Recorded DecodeEvent ε α

open Recorded (silent perform)

/-! ## The still path -/

section Decode

open Failure (withContext required)

variable {Content : Type} (codecs : Codecs Content) (bytes : List UInt8)
variable (format : Option SourceFormat) (maxSrcResolutionMp : Nat)

/-- `check_source_resolution`, recorded when it passes. -/
def checkSourceRecorded (header : Size) : Decoding Failure Unit :=
  match checkSourceResolution header.width header.height maxSrcResolutionMp with
  | .ok () => perform (.checked .source header) (.ok ())
  | .error failure => silent (.error failure)

def fromDecoderRecorded (source : StillSource Content) : Decoding Failure (Raster Content) :=
  perform (.decoded .source .imageCrate source.size) (fromDecoder source)

def decodeWithImageCrateRecorded (wantMetadata : Bool) :
    Decoding Failure (DecodedImage Content) := do
  let source ← silent (openLimited codecs bytes format maxSrcResolutionMp
    "Failed to construct image decoder")
  let image ← fromDecoderRecorded source
  pure (source.decoded wantMetadata image)

def jpegPixelsRecorded (source : StillSource Content) (scaleNum : Nat) :
    Decoding Failure (Raster Content) :=
  if scaleNum = 8 then fromDecoderRecorded source
  else perform (.decoded .source (.jpegScaled scaleNum) source.size)
    (codecs.jpegScaled bytes scaleNum)

def decodeJpegScaledRecorded (query : ResizeQuery) :
    Decoding Failure (DecodedImage Content) := do
  let source ← silent (openLimited codecs bytes (some .jpeg) maxSrcResolutionMp
    "Failed to construct image decoder for header read")
  let scaleNum := plannedScale query source.size (source.orientation.getD .noTransforms)
  let image ← jpegPixelsRecorded codecs bytes source scaleNum
  pure (source.decoded (!query.stripMetadata) image)

def readWebpPixelsRecorded (source : WebpSource Content) :
    Decoding Failure (Raster Content) := do
  let bufferSize ← silent (webpPixelBuffer source)
  let content ← perform (.decoded .source .imageWebp source.size)
    (withContext "image-webp: failed to decode WebP pixels" source.image)
  if source.bufferFits bufferSize then pure ⟨source.size, source.color, content⟩
  else if source.hasAlpha then
    silent (.error (.message "image-webp: decoded RGBA buffer size mismatch"))
  else silent (.error (.message "image-webp: decoded RGB buffer size mismatch"))

def decodeWebpRecorded : Decoding Failure (DecodedImage Content) := do
  let source ← silent
    (withContext "image-webp: failed to read WebP header" (codecs.openWebp bytes))
  checkSourceRecorded maxSrcResolutionMp source.size
  let memoryLimit := (buildDecodeLimits maxSrcResolutionMp).maxAlloc
  let exif := source.exifMetadata memoryLimit
  let image ← readWebpPixelsRecorded source
  pure
    { image
      orientation := (exif.bind codecs.orientationFromExif).getD .noTransforms
      iccProfile := source.iccProfile memoryLimit
      exifMetadata := exif }

def decodeAvifRecorded : Decoding Failure (DecodedImage Content) := do
  let size ← silent (avifHeader codecs bytes)
  checkSourceRecorded maxSrcResolutionMp size
  silent (withContext "avif-decode: failed to parse AVIF container" (codecs.avifDecoder bytes))
  let image ← perform (.decoded .source .avifDecode size)
    (withContext "avif-decode: failed to decode AV1 frame" (codecs.avifPixels bytes))
  let metadata := AvifMeta.parse bytes
  pure
    { image
      orientation := metadata.orientation
      iccProfile := none
      exifMetadata := metadata.exif }

def decodeUnscaledRecorded (query : ResizeQuery) : Decoding Failure (DecodedImage Content) :=
  match format with
  | some .webp => decodeWebpRecorded codecs bytes maxSrcResolutionMp
  | some .avif => decodeAvifRecorded codecs bytes maxSrcResolutionMp
  | _ => decodeWithImageCrateRecorded codecs bytes format maxSrcResolutionMp
      (!query.stripMetadata)

def decodeWithLimitsRecorded (query : ResizeQuery) : Decoding Failure (DecodedImage Content) :=
  if format = some .jpeg then
    (decodeJpegScaledRecorded codecs bytes maxSrcResolutionMp query).orElse
      (decodeUnscaledRecorded codecs bytes format maxSrcResolutionMp query)
  else decodeUnscaledRecorded codecs bytes format maxSrcResolutionMp query

def decodeStillRecorded (query : ResizeQuery) (config : PerformanceConfig) :
    Decoding Failure (DecodedImage Content) := do
  let size ← silent (peekDimensions codecs bytes format)
  checkSourceRecorded config.maxSrcResolutionMp.toNat size
  decodeWithLimitsRecorded codecs bytes format config.maxSrcResolutionMp.toNat query

end Decode

/-! ## The animated path -/

section Animation

open Failure (withContext required)

variable {Content : Type} (codecs : Codecs Content) (bytes : List UInt8)
variable (config : PerformanceConfig)

/-- The frame loop.  The iterator has decoded a frame by the time its index is compared with
the cap. -/
def collectFramesRecorded (size : Size) (maxFrames : Nat) :
    (index : Nat) → List (Except String (Content × Delay)) →
      Decoding Failure (List (Frame Content))
  | _, [] => pure []
  | index, frame :: rest => do
      perform (.decoded .source (.gifFrame index) size) (.ok ())
      if maxFrames ≤ index then silent (.error (tooManyFrames maxFrames))
      else do
        let (content, delay) ← silent (withContext "Failed to decode animation frame" frame)
        let others ← collectFramesRecorded size maxFrames (index + 1) rest
        pure (⟨⟨size, .rgba8, content⟩, delay⟩ :: others)

def decodeGifFramesRecorded : Decoding Failure (List (Frame Content) × Size) := do
  let source ← silent (withContext "Failed to read GIF header" (codecs.openGif bytes))
  silent (withContext "GIF source exceeds configured decode limits"
    (codecs.gifAdmits (buildDecodeLimits config.maxSrcResolutionMp.toNat) source))
  checkSourceRecorded config.maxSrcResolutionMp.toNat source.size
  let frames ← collectFramesRecorded source.size config.maxAnimationFrames 0 source.frames
  pure (frames, source.size)

def decodeWebpFrameRecorded (lib : Imaging Content) (source : WebpSource Content)
    (bufferSize index : Nat) : Decoding (Stop Failure) (Frame Content) := do
  silent (newBuffer bufferSize)
  perform (.decoded .source (.webpFrame index) source.size)
    (readWebpFrame lib source bufferSize index)

def webpFrameBufferRecorded (source : WebpSource Content) : Decoding Failure Nat := do
  checkSourceRecorded config.maxSrcResolutionMp.toNat source.size
  silent (if config.maxAnimationFrames < source.numFrames then
      .error (tooManyFrames config.maxAnimationFrames)
    else required "WebP source exceeds configured decode limits" source.outputBufferSize)

def decodeWebpFramesRecorded (lib : Imaging Content) (source : WebpSource Content) :
    Decoding (Stop Failure) (List (Frame Content) × Size) := do
  let bufferSize ← (webpFrameBufferRecorded config source).lift
  let frames ← (List.range source.numFrames).mapM
    (decodeWebpFrameRecorded lib source bufferSize)
  pure (frames, source.size)

def decodeAnimationSourceRecorded (lib : Imaging Content) (format : SourceFormat) :
    Decoding (Stop Failure) (Option (List (Frame Content) × Size)) :=
  match format with
  | .gif => some <$> (decodeGifFramesRecorded codecs bytes config).lift
  | .webp => do
      let source ← silent (Outcome.lift
        (withContext "Failed to read WebP header" (codecs.openWebp bytes)))
      if source.animated then some <$> decodeWebpFramesRecorded config lib source else pure none
  | _ => pure none

end Animation

/-! ## The whole stage -/

section Process

variable {Content : Type} (lib : Imaging Content) (codecs : Codecs Content)
variable (encoders : Encoders Content) (query : ResizeQuery) (config : PerformanceConfig)
variable (bytes : List UInt8) (watermarkBytes : Option (List UInt8))

def decodeAnimatedRecorded (format : Option SourceFormat) :
    Decoding (Stop Failure) (Option (List (Frame Content) × Size)) :=
  match format with
  | some format =>
      if wantsAnimatableOutput query then
        decodeAnimationSourceRecorded codecs bytes config lib format
      else pure none
  | none => pure none

def decodeSourceRecorded :
    Decoding (Stop Failure) ((List (Frame Content) × Size) ⊕ DecodedImage Content) := do
  let format := detectFormatFromBytes bytes
  match ← decodeAnimatedRecorded lib codecs query config bytes format with
  | some animation => pure (.inl animation)
  | none => do
      let decoded ← (decodeStillRecorded codecs bytes format query config).lift
      pure (.inr decoded)

/-- `image::load_from_memory`.  Its pixels are decoded once its header was read and the default
limits let it pass. -/
def loadWatermarkRecorded (watermark : List UInt8) :
    Decoding (Stop Failure) (Raster Content) := do
  let source ← silent (Outcome.lift
    (Failure.withContext "Failed to decode watermark image" (codecs.openFromMemory watermark)))
  perform (.decoded .watermark .loadFromMemory source.size) (Outcome.lift
    (Failure.withContext "Failed to decode watermark image" source.raster))

def watermarkStageRecorded (image : Raster Content) :
    Decoding (Stop Failure) (Raster Content) :=
  match watermarkBytes, query.watermark with
  | some bytes, some watermark => do
      let layer ← loadWatermarkRecorded codecs bytes
      silent (applyWatermark lib watermark image layer)
  | _, _ => pure image

def encodeSingleImageRecorded (metadata : SourceMetadata) (source : Size)
    (image : Raster Content) : Decoding (Stop Failure) (List UInt8 × String) := do
  let exif ← silent (resolveExif query metadata.exifMetadata metadata.exifOrientationApplied)
  let transformed ← silent (transformSingle lib query config source image)
  let marked ← watermarkStageRecorded lib codecs query watermarkBytes transformed
  silent (finishSingle lib encoders query config ⟨metadata.iccProfile, exif⟩ marked)

def encodeFramesRecorded (frames : List (Frame Content)) (source : Size) :
    Decoding (Stop Failure) (List UInt8 × String) :=
  match frames with
  | [] => silent Outcome.panic
  | [frame] =>
      encodeSingleImageRecorded lib codecs encoders query config watermarkBytes
        ⟨none, none, false⟩ source frame.image
  | first :: second :: rest =>
      silent (encodeAnimation lib encoders query (first :: second :: rest) source)

def encodeStillRecorded (decoded : DecodedImage Content) :
    Decoding (Stop Failure) (List UInt8 × String) := do
  let image ← silent (prepareStill lib query decoded)
  encodeSingleImageRecorded lib codecs encoders query config watermarkBytes
    (decoded.sourceMetadata query) image.size image

/-- The encode of what was decoded, with the record of the watermark's decode. -/
def encodeDecodedRecorded :
    (List (Frame Content) × Size) ⊕ DecodedImage Content →
      Decoding (Stop Failure) (List UInt8 × String)
  | .inl (frames, source) =>
      encodeFramesRecorded lib codecs encoders query config watermarkBytes frames source
  | .inr decoded => encodeStillRecorded lib codecs encoders query config watermarkBytes decoded

/-- The CPU stage, recorded. -/
def processImageRecorded : Decoding (Stop Failure) (List UInt8 × String) := do
  silent (Outcome.lift (checkOutputDimensions query config))
  let found ← decodeSourceRecorded lib codecs query config bytes
  encodeDecodedRecorded lib codecs encoders query config watermarkBytes found

end Process

/-! ## The record changes nothing -/

section Erase

open Failure (withContext required)

variable {Content : Type} (lib : Imaging Content) (codecs : Codecs Content)
variable (encoders : Encoders Content) (query : ResizeQuery) (config : PerformanceConfig)
variable (bytes : List UInt8) (watermarkBytes : Option (List UInt8))
variable (format : Option SourceFormat) (maxSrcResolutionMp : Nat)

@[simp]
theorem result_checkSourceRecorded (header : Size) :
    (checkSourceRecorded maxSrcResolutionMp header).result =
      checkSourceResolution header.width header.height maxSrcResolutionMp := by
  rw [checkSourceRecorded]
  cases checkSourceResolution header.width header.height maxSrcResolutionMp with
  | ok passed => rfl
  | error failure => rfl

@[simp]
theorem result_decodeWithImageCrateRecorded (wantMetadata : Bool) :
    (decodeWithImageCrateRecorded codecs bytes format maxSrcResolutionMp wantMetadata).result =
      decodeWithImageCrate codecs bytes format maxSrcResolutionMp wantMetadata := by
  simp [decodeWithImageCrateRecorded, decodeWithImageCrate, fromDecoderRecorded]

@[simp]
theorem result_decodeJpegScaledRecorded :
    (decodeJpegScaledRecorded codecs bytes maxSrcResolutionMp query).result =
      decodeJpegScaled codecs bytes maxSrcResolutionMp query := by
  have pixels : ∀ source scaleNum, (jpegPixelsRecorded codecs bytes source scaleNum).result =
      jpegPixels codecs bytes source scaleNum := by
    intro source scaleNum
    rw [jpegPixelsRecorded, jpegPixels]
    split_ifs
    · rfl
    · rfl
  simp [decodeJpegScaledRecorded, decodeJpegScaled, pixels]

@[simp]
theorem result_decodeWebpRecorded :
    (decodeWebpRecorded codecs bytes maxSrcResolutionMp).result =
      decodeWebp codecs bytes maxSrcResolutionMp := by
  have pixels : ∀ source : WebpSource Content, (readWebpPixelsRecorded source).result =
      readWebpPixels source := by
    intro source
    simp only [readWebpPixelsRecorded, readWebpPixels, Recorded.result_bind,
      Recorded.result_silent, Recorded.result_perform]
    congr
    funext bufferSize
    congr
    funext content
    split_ifs
    · rfl
    · rfl
    · rfl
  simp [decodeWebpRecorded, decodeWebp, pixels]

@[simp]
theorem result_decodeAvifRecorded :
    (decodeAvifRecorded codecs bytes maxSrcResolutionMp).result =
      decodeAvif codecs bytes maxSrcResolutionMp := by
  simp [decodeAvifRecorded, decodeAvif]

@[simp]
theorem result_decodeUnscaledRecorded :
    (decodeUnscaledRecorded codecs bytes format maxSrcResolutionMp query).result =
      decodeUnscaled codecs bytes format maxSrcResolutionMp query := by
  cases format with
  | none => simp [decodeUnscaledRecorded, decodeUnscaled]
  | some format =>
      cases format with
      | webp => simp [decodeUnscaledRecorded, decodeUnscaled]
      | avif => simp [decodeUnscaledRecorded, decodeUnscaled]
      | jpeg | png | gif => simp [decodeUnscaledRecorded, decodeUnscaled]

@[simp]
theorem result_decodeWithLimitsRecorded :
    (decodeWithLimitsRecorded codecs bytes format maxSrcResolutionMp query).result =
      decodeWithLimits codecs bytes format maxSrcResolutionMp query := by
  rw [decodeWithLimitsRecorded, decodeWithLimits]
  by_cases scaled : format = some .jpeg
  · rw [if_pos scaled, if_pos scaled, Recorded.result_orElse, result_decodeJpegScaledRecorded]
    cases decodeJpegScaled codecs bytes maxSrcResolutionMp query with
    | ok decoded => rfl
    | error failure => exact result_decodeUnscaledRecorded ..
  · rw [if_neg scaled, if_neg scaled, result_decodeUnscaledRecorded]

@[simp]
theorem result_decodeStillRecorded :
    (decodeStillRecorded codecs bytes format query config).result =
      decodeStill codecs query config bytes format := by
  simp [decodeStillRecorded, decodeStill]

@[simp]
theorem result_collectFramesRecorded (size : Size) (maxFrames index : Nat)
    (frames : List (Except String (Content × Delay))) :
    (collectFramesRecorded size maxFrames index frames).result =
      collectFramesCapped size maxFrames index frames := by
  induction frames generalizing index with
  | nil => rfl
  | cons frame rest ih =>
      rw [collectFramesRecorded, collectFramesCapped, Recorded.result_bind]
      by_cases last : maxFrames ≤ index
      · simp [last, bind, Except.bind]
      · simp only [last, if_false, Recorded.result_perform, Recorded.result_bind,
          Recorded.result_silent, Recorded.result_pure, ih]
        rfl

@[simp]
theorem result_decodeGifFramesRecorded :
    (decodeGifFramesRecorded codecs bytes config).result = decodeGifFrames codecs bytes config := by
  simp [decodeGifFramesRecorded, decodeGifFrames]

@[simp]
theorem result_decodeWebpFramesRecorded (source : WebpSource Content) :
    (decodeWebpFramesRecorded config lib source).result = decodeWebpFrames config lib source := by
  have buffer : (webpFrameBufferRecorded config source).result = webpFrameBuffer config source := by
    simp [webpFrameBufferRecorded, webpFrameBuffer]
  have frame (bufferSize index : Nat) :
      (decodeWebpFrameRecorded lib source bufferSize index).result =
        decodeWebpFrame lib source bufferSize index := by
    simp [decodeWebpFrameRecorded, decodeWebpFrame]
  simp [decodeWebpFramesRecorded, decodeWebpFrames, frame, buffer, Recorded.result_mapM]

@[simp]
theorem result_decodeAnimatedRecorded :
    (decodeAnimatedRecorded lib codecs query config bytes format).result =
      decodeAnimated lib codecs query config bytes format := by
  cases format with
  | none => rfl
  | some format =>
      rw [decodeAnimatedRecorded, decodeAnimated]
      by_cases wanted : wantsAnimatableOutput query
      · rw [if_pos wanted, if_pos wanted]
        cases format with
        | gif => simp [decodeAnimationSourceRecorded, decodeAnimationSource]
        | webp =>
            simp only [decodeAnimationSourceRecorded, decodeAnimationSource, Recorded.result_bind,
              Recorded.result_silent]
            congr
            funext source
            split_ifs
            · simp
            · rfl
        | jpeg | png | avif => rfl
      · rw [if_neg wanted, if_neg wanted]
        rfl

@[simp]
theorem result_decodeSourceRecorded :
    (decodeSourceRecorded lib codecs query config bytes).result =
      decodeSource lib codecs query config bytes := by
  simp only [decodeSourceRecorded, decodeSource, Recorded.result_bind,
    result_decodeAnimatedRecorded]
  congr
  funext animation
  cases animation with
  | some animation => rfl
  | none => simp

@[simp]
theorem result_watermarkStageRecorded (image : Raster Content) :
    (watermarkStageRecorded lib codecs query watermarkBytes image).result =
      watermarkStage lib codecs query watermarkBytes image := by
  have loads : ∀ watermark, (loadWatermarkRecorded codecs watermark).result = Outcome.lift
      (withContext "Failed to decode watermark image" (codecs.loadFromMemory watermark)) := by
    intro watermark
    rw [loadWatermarkRecorded, Codecs.loadFromMemory, Recorded.result_bind]
    cases codecs.openFromMemory watermark with
    | ok source => rfl
    | error cause => rfl
  cases watermarkBytes with
  | none => rfl
  | some bytes =>
      cases options : query.watermark with
      | none => simp [watermarkStageRecorded, watermarkStage, options]
      | some watermark => simp [watermarkStageRecorded, watermarkStage, options, loads]

@[simp]
theorem result_encodeSingleImageRecorded (metadata : SourceMetadata) (source : Size)
    (image : Raster Content) :
    (encodeSingleImageRecorded lib codecs encoders query config watermarkBytes metadata source
        image).result =
      encodeSingleImage lib codecs encoders query config watermarkBytes metadata source image := by
  simp [encodeSingleImageRecorded, encodeSingleImage]

/-- The recorded stage is the CPU stage. -/
theorem result_processImageRecorded :
    (processImageRecorded lib codecs encoders query config bytes watermarkBytes).result =
      processImageBlocking lib codecs encoders query config bytes watermarkBytes := by
  rw [processImageBlocking_decodeSource]
  simp only [processImageRecorded, Recorded.result_bind, Recorded.result_silent,
    result_decodeSourceRecorded]
  congr
  funext _
  congr
  funext found
  cases found with
  | inl animation =>
      obtain ⟨frames, source⟩ := animation
      match frames with
      | [] => rfl
      | [frame] => exact result_encodeSingleImageRecorded ..
      | first :: second :: rest => rfl
  | inr decoded => simp [encodeDecodedRecorded, encodeStillRecorded, encodeStill]

end Erase

/-! ## The source is checked before it is decoded -/

/-- Both header reads of the `image` crate give the dimensions of one decoder. -/
structure HeadersAgree {Content : Type} (codecs : Codecs Content) : Prop where
  still : ∀ format bytes source, codecs.openStill format bytes = .ok source →
    codecs.dimensions format bytes = .ok source.size

def DecodeEvent.picture : DecodeEvent → Picture
  | .checked picture _ => picture
  | .decoded picture _ _ => picture

/-- A recorded check is one that the cap lets pass, and pixels are decoded only after the
header of their own picture was checked. -/
def PermitsDecode (maxSrcResolutionMp : Nat) (past : List DecodeEvent) : DecodeEvent → Prop
  | .checked _ header => header.width * header.height / 1000000 ≤ maxSrcResolutionMp
  | .decoded picture _ header => .checked picture header ∈ past

/-- The same, of the source alone. -/
def PermitsSource (maxSrcResolutionMp : Nat) (past : List DecodeEvent) (event : DecodeEvent) :
    Prop :=
  event.picture = .source ∧ PermitsDecode maxSrcResolutionMp past event

/-- The header of the source was checked. -/
def SourceChecked (header : Size) (past : List DecodeEvent) : Prop :=
  .checked .source header ∈ past

theorem SourceChecked.lasting {header : Size} (past : List DecodeEvent) (event : DecodeEvent)
    (passed : SourceChecked header past) : SourceChecked header (past ++ [event]) :=
  List.mem_append_left _ passed

section Source

variable {Content : Type} (lib : Imaging Content) (codecs : Codecs Content)
variable (query : ResizeQuery) (config : PerformanceConfig) (bytes : List UInt8)
variable {maxSrcResolutionMp : Nat} {header : Size} {before : List DecodeEvent → Prop}

theorem keeps_checkSource :
    Keeps (PermitsSource maxSrcResolutionMp) before (checkSourceRecorded maxSrcResolutionMp header)
      fun _ => SourceChecked header := by
  rw [checkSourceRecorded]
  cases passes : checkSourceResolution header.width header.height maxSrcResolutionMp with
  | error failure => exact keeps_silent (by simp)
  | ok passed =>
      apply keeps_perform
      · intro past _
        refine ⟨rfl, ?_⟩
        rw [checkSourceResolution] at passes
        split_ifs at passes with overflows large
        exact Nat.le_of_not_lt large
      · intro value _ past _
        exact List.mem_append_right _ (List.mem_singleton_self _)

/-- A decode of the source's pixels, after the check of its header. -/
theorem keeps_decoded {ε α : Type} (decoder : PixelDecoder) (result : Except ε α) :
    Keeps (PermitsSource maxSrcResolutionMp) (SourceChecked header)
      (perform (.decoded .source decoder header) result) fun _ => SourceChecked header := by
  apply keeps_perform
  · intro past passed
    exact ⟨rfl, passed⟩
  · intro value _ past passed
    exact passed.lasting past _

theorem keeps_quiet {ε α : Type} (result : Except ε α) :
    Keeps (PermitsSource maxSrcResolutionMp) before (silent result) fun _ => before :=
  keeps_silent fun _ _ _ holds => holds

theorem openLimited_ok {format : Option SourceFormat} {text : String}
    {source : StillSource Content}
    (opened : openLimited codecs bytes format maxSrcResolutionMp text = .ok source) :
    codecs.openStill format bytes = .ok source := by
  rw [openLimited] at opened
  obtain ⟨_, _, opened⟩ := Failure.bind_ok opened
  obtain ⟨found, stillOpened, opened⟩ := Failure.bind_ok opened
  obtain ⟨_, _, opened⟩ := Failure.bind_ok opened
  obtain ⟨_, _, opened⟩ := Failure.bind_ok opened
  cases opened
  exact Failure.withContext_ok stillOpened

/-- A decoder that was opened is of the header that was peeked at. -/
theorem size_of_openLimited (agree : HeadersAgree codecs) {format : Option SourceFormat}
    {text : String} {source : StillSource Content}
    (peeked : codecs.dimensions format bytes = .ok header)
    (opened : openLimited codecs bytes format maxSrcResolutionMp text = .ok source) :
    source.size = header := by
  have read := agree.still format bytes source (openLimited_ok codecs bytes opened)
  exact Except.ok.inj (read.symm.trans peeked)

theorem keeps_decodeWithImageCrate (agree : HeadersAgree codecs) (format : Option SourceFormat)
    (wantMetadata : Bool) (peeked : codecs.dimensions format bytes = .ok header) :
    Keeps (PermitsSource maxSrcResolutionMp) (SourceChecked header)
      (decodeWithImageCrateRecorded codecs bytes format maxSrcResolutionMp wantMetadata)
      fun _ => SourceChecked header := by
  rw [decodeWithImageCrateRecorded]
  apply keeps_bind (keeps_quiet _)
  intro source opened
  obtain rfl := size_of_openLimited codecs bytes agree peeked opened
  apply keeps_bind (keeps_decoded .imageCrate _)
  intro image _
  exact keeps_pure fun _ passed => passed

theorem keeps_decodeJpegScaled (agree : HeadersAgree codecs)
    (peeked : codecs.dimensions (some .jpeg) bytes = .ok header) :
    Keeps (PermitsSource maxSrcResolutionMp) (SourceChecked header)
      (decodeJpegScaledRecorded codecs bytes maxSrcResolutionMp query)
      fun _ => SourceChecked header := by
  rw [decodeJpegScaledRecorded]
  apply keeps_bind (keeps_quiet _)
  intro source opened
  obtain rfl := size_of_openLimited codecs bytes agree peeked opened
  have pixels : ∀ scaleNum, Keeps (PermitsSource maxSrcResolutionMp) (SourceChecked source.size)
      (jpegPixelsRecorded codecs bytes source scaleNum) fun _ => SourceChecked source.size := by
    intro scaleNum
    rw [jpegPixelsRecorded]
    split_ifs
    · exact keeps_decoded .imageCrate _
    · exact keeps_decoded (.jpegScaled scaleNum) _
  apply keeps_bind (pixels _)
  intro image _
  exact keeps_pure fun _ passed => passed

theorem keeps_decodeWebp :
    Keeps (PermitsSource maxSrcResolutionMp) before
      (decodeWebpRecorded codecs bytes maxSrcResolutionMp) fun _ _ => True := by
  rw [decodeWebpRecorded]
  apply keeps_bind (keeps_quiet _)
  intro source _
  apply keeps_bind keeps_checkSource
  intro _ _
  have pixels : Keeps (PermitsSource maxSrcResolutionMp) (SourceChecked source.size)
      (readWebpPixelsRecorded source) fun _ => SourceChecked source.size := by
    rw [readWebpPixelsRecorded]
    apply keeps_bind (keeps_quiet _)
    intro bufferSize _
    apply keeps_bind (keeps_decoded .imageWebp _)
    intro content _
    split_ifs
    · exact keeps_pure fun _ passed => passed
    · exact keeps_quiet _
    · exact keeps_quiet _
  apply keeps_bind pixels
  intro image _
  exact keeps_pure fun _ _ => trivial

theorem keeps_decodeAvif :
    Keeps (PermitsSource maxSrcResolutionMp) before
      (decodeAvifRecorded codecs bytes maxSrcResolutionMp) fun _ _ => True := by
  rw [decodeAvifRecorded]
  apply keeps_bind (keeps_quiet _)
  intro size _
  apply keeps_bind keeps_checkSource
  intro _ _
  apply keeps_bind (keeps_quiet _)
  intro _ _
  apply keeps_bind (keeps_decoded .avifDecode _)
  intro image _
  exact keeps_pure fun _ _ => trivial

/-- The header that was peeked at is that of the `image` crate, for the formats it decodes. -/
theorem dimensions_of_peek {format : Option SourceFormat} (notAvif : format ≠ some .avif)
    (notWebp : format ≠ some .webp) (peeked : peekDimensions codecs bytes format = .ok header) :
    codecs.dimensions format bytes = .ok header := by
  have read : (do makeReader codecs bytes format
                  Failure.withContext "Failed to read image dimensions"
                    (codecs.dimensions format bytes)) = Except.ok header := by
    cases format with
    | none => exact peeked
    | some format =>
        cases format with
        | avif => exact absurd rfl notAvif
        | webp => exact absurd rfl notWebp
        | jpeg | png | gif => exact peeked
  obtain ⟨_, _, read⟩ := Failure.bind_ok read
  exact Failure.withContext_ok read

theorem keeps_decodeUnscaled (agree : HeadersAgree codecs) {format : Option SourceFormat}
    (peeked : peekDimensions codecs bytes format = .ok header) :
    Keeps (PermitsSource maxSrcResolutionMp) (SourceChecked header)
      (decodeUnscaledRecorded codecs bytes format maxSrcResolutionMp query) fun _ _ => True := by
  have crate (notAvif : format ≠ some .avif) (notWebp : format ≠ some .webp) :
      Keeps (PermitsSource maxSrcResolutionMp) (SourceChecked header)
        (decodeWithImageCrateRecorded codecs bytes format maxSrcResolutionMp (!query.stripMetadata))
        fun _ _ => True := by
    have read := dimensions_of_peek codecs bytes notAvif notWebp peeked
    apply (keeps_decodeWithImageCrate codecs bytes agree format _ read).weaken
    intro decoded past _
    trivial
  cases format with
  | none => exact crate (by simp) (by simp)
  | some format =>
      cases format with
      | webp => exact keeps_decodeWebp codecs bytes
      | avif => exact keeps_decodeAvif codecs bytes
      | jpeg | png | gif => exact crate (by simp) (by simp)

/-- A scaled decode that fails leaves the check of the header in place for the full one. -/
theorem keeps_decodeWithLimits (agree : HeadersAgree codecs) {format : Option SourceFormat}
    (peeked : peekDimensions codecs bytes format = .ok header) :
    Keeps (PermitsSource maxSrcResolutionMp) (SourceChecked header)
      (decodeWithLimitsRecorded codecs bytes format maxSrcResolutionMp query)
      fun _ _ => True := by
  rw [decodeWithLimitsRecorded]
  by_cases scaled : format = some .jpeg
  · subst scaled
    rw [if_pos rfl]
    have read := dimensions_of_peek codecs bytes (by simp) (by simp) peeked
    apply keeps_orElse SourceChecked.lasting
    · apply (keeps_decodeJpegScaled codecs query bytes agree read).weaken
      intro decoded past _
      trivial
    · exact keeps_decodeUnscaled codecs query bytes agree peeked
  · rw [if_neg scaled]
    exact keeps_decodeUnscaled codecs query bytes agree peeked

theorem keeps_decodeStill (agree : HeadersAgree codecs) (format : Option SourceFormat) :
    Keeps (PermitsSource config.maxSrcResolutionMp.toNat) before
      (decodeStillRecorded codecs bytes format query config) fun _ _ => True := by
  rw [decodeStillRecorded]
  apply keeps_bind (keeps_quiet _)
  intro size peeked
  apply keeps_bind keeps_checkSource
  intro _ _
  exact keeps_decodeWithLimits codecs query bytes agree peeked

theorem keeps_collectFrames (maxFrames index : Nat)
    (frames : List (Except String (Content × Delay))) :
    Keeps (PermitsSource maxSrcResolutionMp) (SourceChecked header)
      (collectFramesRecorded header maxFrames index frames) fun _ => SourceChecked header := by
  induction frames generalizing index with
  | nil => exact keeps_pure fun _ passed => passed
  | cons frame rest ih =>
      rw [collectFramesRecorded]
      apply keeps_bind (keeps_decoded (.gifFrame index) _)
      intro _ _
      split_ifs
      · exact keeps_quiet _
      · apply keeps_bind (keeps_quiet _)
        intro pixels _
        apply keeps_bind (ih (index + 1))
        intro others _
        exact keeps_pure fun _ passed => passed

theorem keeps_decodeGifFrames :
    Keeps (PermitsSource config.maxSrcResolutionMp.toNat) before
      (decodeGifFramesRecorded codecs bytes config) fun _ _ => True := by
  rw [decodeGifFramesRecorded]
  apply keeps_bind (keeps_quiet _)
  intro source _
  apply keeps_bind (keeps_quiet _)
  intro _ _
  apply keeps_bind keeps_checkSource
  intro _ _
  apply keeps_bind (keeps_collectFrames _ _ _)
  intro frames _
  exact keeps_pure fun _ _ => trivial

theorem keeps_decodeWebpFrames (source : WebpSource Content) :
    Keeps (PermitsSource config.maxSrcResolutionMp.toNat) before
      (decodeWebpFramesRecorded config lib source) fun _ _ => True := by
  rw [decodeWebpFramesRecorded]
  have buffer : Keeps (PermitsSource config.maxSrcResolutionMp.toNat) before
      (webpFrameBufferRecorded config source) fun _ => SourceChecked source.size := by
    rw [webpFrameBufferRecorded]
    apply keeps_bind keeps_checkSource
    intro _ _
    exact keeps_quiet _
  apply keeps_bind (keeps_lift buffer)
  intro bufferSize _
  have frame (index : Nat) : Keeps (PermitsSource config.maxSrcResolutionMp.toNat)
      (SourceChecked source.size) (decodeWebpFrameRecorded lib source bufferSize index)
      fun _ => SourceChecked source.size := by
    rw [decodeWebpFrameRecorded]
    apply keeps_bind (keeps_quiet _)
    intro _ _
    exact keeps_decoded (.webpFrame index) _
  apply keeps_bind (keeps_mapM _ fun index _ => frame index)
  intro frames _
  exact keeps_pure fun _ _ => trivial

theorem keeps_decodeAnimated (format : Option SourceFormat) :
    Keeps (PermitsSource config.maxSrcResolutionMp.toNat) before
      (decodeAnimatedRecorded lib codecs query config bytes format) fun _ _ => True := by
  cases format with
  | none => exact keeps_pure fun _ _ => trivial
  | some format =>
      rw [decodeAnimatedRecorded]
      by_cases wanted : wantsAnimatableOutput query
      · rw [if_pos wanted]
        cases format with
        | gif => exact keeps_map (keeps_lift (keeps_decodeGifFrames codecs config bytes))
        | webp =>
            rw [decodeAnimationSourceRecorded]
            apply keeps_bind (keeps_quiet _)
            intro source _
            split_ifs
            · exact keeps_map (keeps_decodeWebpFrames lib config source)
            · exact keeps_pure fun _ _ => trivial
        | jpeg | png | avif => exact keeps_pure fun _ _ => trivial
      · rw [if_neg wanted]
        exact keeps_pure fun _ _ => trivial

/-- Whatever the source, its pixels are decoded only after its header passed the check. -/
theorem keeps_decodeSource (agree : HeadersAgree codecs) :
    Keeps (PermitsSource config.maxSrcResolutionMp.toNat) (fun _ => True)
      (decodeSourceRecorded lib codecs query config bytes) fun _ _ => True := by
  rw [decodeSourceRecorded]
  apply keeps_bind (keeps_decodeAnimated lib codecs query config bytes _)
  intro animation _
  cases animation with
  | some animation => exact keeps_pure fun _ _ => trivial
  | none =>
      apply keeps_bind (keeps_lift (keeps_decodeStill codecs query config bytes agree _))
      intro decoded _
      exact keeps_pure fun _ _ => trivial

end Source

/-! ## The watermark is not -/

section Watermark

variable {Content : Type} (lib : Imaging Content) (codecs : Codecs Content)
variable (encoders : Encoders Content) (query : ResizeQuery) (config : PerformanceConfig)
variable (bytes : List UInt8) (watermarkBytes : Option (List UInt8))

/-- The stages of `encode_single_image` in front of the watermark. -/
def beforeWatermark (metadata : SourceMetadata) (source : Size) (image : Raster Content) :
    Stage (Raster Content) := do
  let _ ← resolveExif query metadata.exifMetadata metadata.exifOrientationApplied
  transformSingle lib query config source image

/-- The stages in front of the watermark succeed on what was decoded: one frame, or a still
image. -/
def ReachesWatermark :
    (List (Frame Content) × Size) ⊕ DecodedImage Content → Prop
  | .inl ([frame], source) =>
      ∃ image, beforeWatermark lib query config ⟨none, none, false⟩ source frame.image = .ok image
  | .inl _ => False
  | .inr decoded =>
      ∃ prepared image, prepareStill lib query decoded = .ok prepared ∧
        beforeWatermark lib query config (decoded.sourceMetadata query) prepared.size prepared =
          .ok image

/-- The request gets as far as its watermark. -/
def WatermarkReached : Prop :=
  checkOutputDimensions query config = .ok () ∧
    ∃ found, decodeSource lib codecs query config bytes = .ok found ∧
      ReachesWatermark lib query config found

/-- The header of the watermark that a request draws: it asks for one, has its bytes, and
they have a header that can be read and that the default limits of `load_from_memory` let
pass. -/
def watermarkHeader : Option Size :=
  match watermarkBytes, query.watermark with
  | some watermark, some _ => (codecs.openFromMemory watermark).toOption.map StillSource.size
  | _, _ => none

/-- The pixels of a watermark with this header are decoded. -/
def DecodesWatermark (header : Size) : Prop :=
  WatermarkReached lib codecs query config bytes ∧
    watermarkHeader codecs query watermarkBytes = some header

/-- The record of the watermark stage. -/
def watermarkEvents : List DecodeEvent :=
  (watermarkHeader codecs query watermarkBytes).toList.map
    (.decoded .watermark .loadFromMemory)

theorem events_loadWatermarkRecorded (watermark : List UInt8) :
    (loadWatermarkRecorded codecs watermark).events =
      ((codecs.openFromMemory watermark).toOption.map StillSource.size).toList.map
        (.decoded .watermark .loadFromMemory) := by
  rw [loadWatermarkRecorded]
  cases codecs.openFromMemory watermark with
  | ok source => rfl
  | error cause => rfl

theorem events_watermarkStageRecorded (image : Raster Content) :
    (watermarkStageRecorded lib codecs query watermarkBytes image).events =
      watermarkEvents codecs query watermarkBytes := by
  cases watermarkBytes with
  | none => rfl
  | some watermark =>
      cases options : query.watermark with
      | none => simp [watermarkStageRecorded, watermarkEvents, watermarkHeader, options]
      | some marking =>
          simp only [watermarkStageRecorded, watermarkEvents, watermarkHeader, options]
          rw [Recorded.events_bind_of_quiet _ fun _ => rfl, events_loadWatermarkRecorded]

/-- A record with the watermark's decode in it when the condition holds, and empty otherwise. -/
def RecordsWatermark (reached : Prop) (events : List DecodeEvent) : Prop :=
  reached ∧ events = watermarkEvents codecs query watermarkBytes ∨ ¬ reached ∧ events = []

/-- Once the stages in front of the watermark succeed, its decode is all that is recorded. -/
theorem encodeSingleImage_records (metadata : SourceMetadata) (source : Size)
    (image : Raster Content) :
    RecordsWatermark codecs query watermarkBytes
      (∃ base, beforeWatermark lib query config metadata source image = .ok base)
      (encodeSingleImageRecorded lib codecs encoders query config watermarkBytes metadata source
        image).events := by
  rw [encodeSingleImageRecorded, beforeWatermark]
  cases resolveExif query metadata.exifMetadata metadata.exifOrientationApplied with
  | error stop => exact .inr ⟨by simp [bind, Except.bind], rfl⟩
  | ok kept =>
      cases transformSingle lib query config source image with
      | error stop => exact .inr ⟨by simp [bind, Except.bind], rfl⟩
      | ok transformed =>
          refine .inl ⟨⟨transformed, rfl⟩, ?_⟩
          change (watermarkStageRecorded lib codecs query watermarkBytes transformed >>= _).events = _
          rw [Recorded.events_bind_of_quiet _ fun _ => rfl]
          exact events_watermarkStageRecorded ..

/-- After the decode of the source only the watermark's is recorded, where it is reached. -/
theorem encodeDecoded_records (found : (List (Frame Content) × Size) ⊕ DecodedImage Content) :
    RecordsWatermark codecs query watermarkBytes (ReachesWatermark lib query config found)
      (encodeDecodedRecorded lib codecs encoders query config watermarkBytes found).events := by
  cases found with
  | inl animation =>
      obtain ⟨frames, source⟩ := animation
      match frames with
      | [] => exact .inr ⟨id, rfl⟩
      | [frame] => exact encodeSingleImage_records ..
      | first :: second :: rest => exact .inr ⟨id, rfl⟩
  | inr decoded =>
      cases prepares : prepareStill lib query decoded with
      | error stop =>
          refine .inr ⟨by simp [ReachesWatermark, prepares], ?_⟩
          simp only [encodeDecodedRecorded, encodeStillRecorded, prepares]
          rfl
      | ok prepared =>
          have records := encodeSingleImage_records lib codecs encoders query config watermarkBytes
            (decoded.sourceMetadata query) prepared.size prepared
          simp only [ReachesWatermark, encodeDecodedRecorded, encodeStillRecorded, prepares,
            Except.ok.injEq, exists_and_left, exists_eq_left']
          exact records

/-- The whole record: decodes of the source in order, and after them the watermark's where it
is reached. -/
theorem processImage_records (agree : HeadersAgree codecs) :
    ∃ fromSource fromWatermark,
      (processImageRecorded lib codecs encoders query config bytes watermarkBytes).events =
        fromSource ++ fromWatermark ∧
      Orderly (PermitsSource config.maxSrcResolutionMp.toNat) [] fromSource ∧
      RecordsWatermark codecs query watermarkBytes (WatermarkReached lib codecs query config bytes)
        fromWatermark := by
  rw [processImageRecorded]
  cases accepted : checkOutputDimensions query config with
  | error failure =>
      refine ⟨[], [], rfl, trivial, .inr ⟨?_, rfl⟩⟩
      intro reached
      exact absurd (reached.1.symm.trans accepted) (by simp)
  | ok passed =>
      have orderly := (keeps_decodeSource lib codecs query config bytes agree [] trivial).1
      refine ⟨(decodeSourceRecorded lib codecs query config bytes).events, ?_⟩
      cases ends : (decodeSourceRecorded lib codecs query config bytes).result with
      | error stop =>
          have decodes := (result_decodeSourceRecorded lib codecs query config bytes).symm.trans ends
          refine ⟨[], ?_, orderly, .inr ⟨?_, rfl⟩⟩
          · rw [List.append_nil]
            exact Recorded.events_bind_of_error ends _
          · rintro ⟨_, found, decoded, _⟩
            exact absurd (decoded.symm.trans decodes) (by simp)
      | ok found =>
          have decodes := (result_decodeSourceRecorded lib codecs query config bytes).symm.trans ends
          refine ⟨_, Recorded.events_bind_of_ok ends _, orderly, ?_⟩
          have reached : WatermarkReached lib codecs query config bytes ↔
              ReachesWatermark lib query config found := by
            simp [WatermarkReached, accepted, decodes]
          rw [reached]
          exact encodeDecoded_records ..

/-- Every decode of the record is of a header within the cap. -/
def DecodesWithin (maxSrcResolutionMp : Nat) (events : List DecodeEvent) : Prop :=
  ∀ picture decoder header, .decoded picture decoder header ∈ events →
    header.width * header.height / 1000000 ≤ maxSrcResolutionMp

/-- In an ordered record of the source no header above the cap is decoded. -/
theorem decodesWithin_of_orderly {maxSrcResolutionMp : Nat} {events : List DecodeEvent}
    (orderly : Orderly (PermitsSource maxSrcResolutionMp) [] events) :
    DecodesWithin maxSrcResolutionMp events := by
  intro picture decoder header member
  obtain ⟨earlier, later, split, _, checked⟩ := orderly.permitted member
  have before : DecodeEvent.checked picture header ∈ events := by
    rw [split]
    exact List.mem_append_left _ checked
  obtain ⟨_, _, _, _, within⟩ := orderly.permitted before
  exact within

/-- The watermark's header is never among what was checked for the source. -/
theorem not_permitted_watermark {maxSrcResolutionMp : Nat} {events : List DecodeEvent}
    (orderly : Orderly (PermitsSource maxSrcResolutionMp) [] events) (decoder : PixelDecoder)
    (header : Size) :
    ¬ PermitsDecode maxSrcResolutionMp events (.decoded .watermark decoder header) := by
  intro checked
  obtain ⟨_, _, _, fromSource, _⟩ := orderly.permitted checked
  cases fromSource

/-- Every pixel decode of the CPU stage comes after the check of its picture's header exactly
when no watermark is decoded, and is of a header within the cap exactly when such a
watermark is. -/
theorem decodes_guarded_iff (agree : HeadersAgree codecs) :
    let recorded := processImageRecorded lib codecs encoders query config bytes watermarkBytes
    recorded.result =
        processImageBlocking lib codecs encoders query config bytes watermarkBytes ∧
      (Orderly (PermitsDecode config.maxSrcResolutionMp.toNat) [] recorded.events ↔
        ∀ header, ¬ DecodesWatermark lib codecs query config bytes watermarkBytes header) ∧
      (DecodesWithin config.maxSrcResolutionMp.toNat recorded.events ↔
        ∀ header, DecodesWatermark lib codecs query config bytes watermarkBytes header →
          header.width * header.height / 1000000 ≤ config.maxSrcResolutionMp.toNat) := by
  intro recorded
  obtain ⟨fromSource, fromWatermark, split, orderly, records⟩ :=
    processImage_records lib codecs encoders query config bytes watermarkBytes agree
  have sourceOrderly : Orderly (PermitsDecode config.maxSrcResolutionMp.toNat) [] fromSource :=
    orderly.mono fun _ _ permitted => permitted.2
  have sourceWithin := decodesWithin_of_orderly orderly
  refine ⟨result_processImageRecorded .., ?_, ?_⟩
  · rw [split, orderly_append_iff, and_iff_right sourceOrderly, List.nil_append]
    rcases records with ⟨reached, rfl⟩ | ⟨unreached, rfl⟩
    · cases drawn : watermarkHeader codecs query watermarkBytes with
      | none => simp [watermarkEvents, drawn, Orderly, DecodesWatermark]
      | some header =>
          apply iff_of_false
          · rw [watermarkEvents, drawn]
            intro marked
            exact not_permitted_watermark orderly .loadFromMemory header marked.1
          · intro undecoded
            exact undecoded header ⟨reached, drawn⟩
    · exact iff_of_true trivial fun header decodes => unreached decodes.1
  · rw [split]
    rcases records with ⟨reached, rfl⟩ | ⟨unreached, rfl⟩
    · constructor
      · intro within header decodes
        apply within .watermark .loadFromMemory header
        rw [watermarkEvents, decodes.2]
        exact List.mem_append_right _ (List.mem_singleton_self _)
      · intro within picture decoder header member
        rcases List.mem_append.mp member with inSource | inWatermark
        · exact sourceWithin picture decoder header inSource
        · rw [watermarkEvents, List.mem_map] at inWatermark
          obtain ⟨drawn, isDrawn, same⟩ := inWatermark
          cases same
          exact within header ⟨reached, Option.mem_toList.mp isDrawn⟩
    · rw [List.append_nil]
      exact iff_of_true sourceWithin fun header decodes => absurd decodes.1 unreached

end Watermark

section Files

/-- The signature and the header chunk of a PNG of a hundred megapixels. -/
def hundredMegapixelPng : List UInt8 :=
  [0x89, 0x50, 0x4E, 0x47, 0x0D, 0x0A, 0x1A, 0x0A, 0x00, 0x00, 0x00, 0x0D, 0x49, 0x48, 0x44, 0x52,
    0x00, 0x00, 0x27, 0x10, 0x00, 0x00, 0x27, 0x10, 0x08, 0x02, 0x00, 0x00, 0x00, 0x35, 0x2C, 0xF5,
    0x70]

theorem png_headersAgree : HeadersAgree Codecs.png where
  still format bytes source opened := by
    obtain ⟨size, read, made⟩ := (Outcome.map_ok_iff ..).mp opened
    cases made
    exact read

/-- A request for a PNG with a watermark in its centre. -/
def watermarkedPng : ResizeQuery :=
  { ResizeQuery.default with
    format := .png
    watermark := some
      { opacity := F32.one, position := .center, xOffset := F32.zero, yOffset := F32.zero
        scale := F32.zero, url := none, size := none, rotate := F32.zero, shadow := none } }

/-- A source and a watermark of a pixel each. -/
theorem decodes_guarded_iff_pixel :
    let recorded := processImageRecorded .blank .png .blank watermarkedPng .default
      onePixelPng (some onePixelPng)
    recorded.result = processImageBlocking .blank .png .blank watermarkedPng .default
        onePixelPng (some onePixelPng) ∧
      (Orderly (PermitsDecode PerformanceConfig.default.maxSrcResolutionMp.toNat) []
          recorded.events ↔
        ∀ header, ¬ DecodesWatermark .blank .png watermarkedPng .default onePixelPng
          (some onePixelPng) header) ∧
      (DecodesWithin PerformanceConfig.default.maxSrcResolutionMp.toNat recorded.events ↔
        ∀ header, DecodesWatermark .blank .png watermarkedPng .default onePixelPng
            (some onePixelPng) header →
          header.width * header.height / 1000000 ≤
            PerformanceConfig.default.maxSrcResolutionMp.toNat) :=
  decodes_guarded_iff .blank .png .blank watermarkedPng .default onePixelPng
    (some onePixelPng) png_headersAgree

/-- A watermark of a hundred megapixels is decoded under a cap of fifty. -/
theorem hundredMegapixelPng_decoded :
    ¬ DecodesWithin PerformanceConfig.default.maxSrcResolutionMp.toNat
      (processImageRecorded .blank .png .blank watermarkedPng .default onePixelPng
        (some hundredMegapixelPng)).events := by
  intro within
  have decoded : (processImageRecorded .blank .png .blank watermarkedPng .default onePixelPng
      (some hundredMegapixelPng)).events =
        [.checked .source (.floored 1 1), .decoded .source .imageCrate (.floored 1 1),
          .decoded .watermark .loadFromMemory (.floored 10000 10000)] := by
    decide +kernel
  have large := within .watermark .loadFromMemory (.floored 10000 10000) (by simp [decoded])
  exact absurd large (by decide)

end Files

end ImageResizer
