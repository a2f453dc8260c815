import ImageResizer.AnimationGeometry
import ImageResizer.NoPanic.Watermark
import ImageResizer.Url

/-!
# Panics of the CPU stage

The condition under which `process_image_blocking_with_limits_and_watermark` ends in a
result or in a reported error.  The searches and the rewriting of metadata never panic, and
neither does the decode of a source.  What can go wrong is a buffer past what can be
allocated, a watermark whose coordinates leave their range, and an animated source whose
decoder gives no frame at all; and whether it does is a matter of the options, of what the
decoders report, and of sizes and colour types computed from them.
-/

namespace ImageResizer

open Outcome (Returns EndsWhen)

variable {Content : Type} (lib : Imaging Content) (codecs : Codecs Content)
variable (encoders : Encoders Content)

namespace Exif

theorem patch_ends {exif : List UInt8} {position : Nat} (value : List UInt8)
    (inside : position + 2 ≤ exif.length) : ∃ patched, patch exif position value = .ok patched := by
  simp only [patch, Outcome.assert_ok inside, bind, Except.bind]
  exact ⟨_, rfl⟩

/-- The entries a walk has left lie in the block, so what it overwrites does. -/
theorem neutralizeFrom_ends (exif : List UInt8) (littleEndian : Bool) (remaining entryStart : Nat)
    (inside : entryStart + remaining * ifdEntryLen ≤ exif.length) :
    ∃ result, neutralizeFrom exif littleEndian remaining entryStart = .ok result := by
  induction remaining generalizing entryStart with
  | zero => exact ⟨none, rfl⟩
  | succ remaining ih =>
      have entry : entryStart + ifdEntryLen + remaining * ifdEntryLen ≤ exif.length := by
        rw [Nat.succ_mul] at inside
        omega
      unfold neutralizeFrom
      split
      case h_1 => exact ⟨none, rfl⟩
      case h_2 =>
          split
          case isTrue => exact ih _ entry
          case isFalse =>
              split
              case h_2 => exact ⟨none, rfl⟩
              case h_1 =>
                  split
                  case isTrue => exact ⟨none, rfl⟩
                  case isFalse =>
                      have value : entryStart + 8 + 2 ≤ exif.length := by
                        simp only [ifdEntryLen] at entry
                        omega
                      obtain ⟨patched, done⟩ := patch_ends (normalBytes littleEndian) value
                      rw [done]
                      exact ⟨some patched, rfl⟩

theorem entryTable_inside {exif : List UInt8} {table : EntryTable}
    (found : entryTable exif = some table) :
    table.start + table.count * ifdEntryLen ≤ exif.length := by
  simp only [entryTable, AvifMeta.checkedAdd, Option.bind_eq_bind, Option.bind_eq_some_iff,
    Option.guard_eq_some', Option.ite_none_right_eq_some, Option.some.injEq] at found
  obtain ⟨_, -, _, -, _, -, _, -, _, -, start, -, _, -, stop, ⟨-, stopIs⟩, _, inside, made⟩ := found
  cases made
  exact stopIs ▸ inside

theorem neutralizeExifOrientation_ends (exif : List UInt8) :
    ∃ result, neutralizeExifOrientation exif = .ok result := by
  unfold neutralizeExifOrientation
  cases found : entryTable exif with
  | none => exact ⟨none, rfl⟩
  | some table => exact neutralizeFrom_ends exif _ _ _ (entryTable_inside found)

end Exif

section Encode

variable (query : ResizeQuery) (config : PerformanceConfig)

theorem returns_context_iff {α : Type} (text : String) (stage : Stage α) :
    Returns (Stage.context text stage) ↔ Returns stage := by
  cases stage with
  | ok value => exact Iff.rfl
  | error stop =>
      cases stop with
      | failure failure => exact iff_of_true (Outcome.returns_fail _) (Outcome.returns_fail failure)
      | panic => exact Iff.rfl

theorem resolveExif_ends (exif : Option (List UInt8)) (orientationApplied : Bool) :
    ∃ resolved, resolveExif query exif orientationApplied = .ok resolved := by
  unfold resolveExif
  split
  case isTrue => exact ⟨none, rfl⟩
  case isFalse =>
      split
      case h_1 => exact ⟨none, rfl⟩
      case h_2 raw =>
          split
          case isTrue => exact Exif.neutralizeExifOrientation_ends raw
          case isFalse => exact ⟨some raw, rfl⟩

/-- The buffer of an encoder, or of the conversion before it, fits. -/
def EncoderFits (format : ImageFormat) (shape : Shape) : Prop :=
  match format with
  | .webp | .avif => ConvertFits shape .rgba8
  | .jpg => ConvertFits shape .rgb8
  | .png => estimateOutputSize shape.size 4 ≤ isizeMax
  | .gif => estimateOutputSize shape.size 3 ≤ isizeMax
  | .auto => True

variable (image : Raster Content) (metadata : Metadata)

/-- The search only repeats an encode that returns at every quality. -/
theorem searchLoop_returns (maxBytes : Nat) {encodeAt : Nat → Stage (List UInt8)}
    (returns : ∀ quality, Returns (encodeAt quality)) (attempts : Nat) (search : Search) :
    Returns (searchLoop maxBytes encodeAt attempts search) := by
  induction attempts generalizing search with
  | zero => exact Outcome.returns_pure _
  | succ attempts ih =>
      unfold searchLoop
      split
      case isTrue => exact Outcome.returns_pure _
      case isFalse =>
          refine (Outcome.returns_bind_iff ..).mpr ⟨returns _, fun candidate _ => ?_⟩
          dsimp only
          split
          case isTrue => exact ih _
          case isFalse => exact Outcome.returns_pure _

theorem encodeWithMaxBytes_returns_iff (maxBytes initialQuality : Nat)
    {encodeAt : Nat → Stage (List UInt8)} {p : Prop}
    (returns : ∀ quality, Returns (encodeAt quality) ↔ p) :
    Returns (encodeWithMaxBytes maxBytes initialQuality encodeAt) ↔ p := by
  constructor
  · intro whole
    exact (returns initialQuality).mp ((Outcome.returns_bind_iff ..).mp whole).1
  · intro holds
    have every (quality : Nat) : Returns (encodeAt quality) := (returns quality).mpr holds
    refine (Outcome.returns_bind_iff ..).mpr ⟨every _, fun first _ => ?_⟩
    dsimp only
    split
    case isTrue => exact Outcome.returns_pure _
    case isFalse => exact searchLoop_returns maxBytes every _ _

theorem newBuffer_returns_iff (bytes : Nat) : Returns (newBuffer bytes) ↔ bytes ≤ isizeMax :=
  Outcome.returns_assert_iff _

theorem encodePng_returns_iff :
    Returns (encodePng encoders image metadata) ↔ EncoderFits .png image.shape :=
  Outcome.returns_bind_of_returns (newBuffer_returns_iff _) fun _ _ => Outcome.returns_lift _

theorem encodeJpeg_returns_iff (settings : JpegSettings) :
    Returns (encodeJpeg lib encoders image metadata settings) ↔ EncoderFits .jpg image.shape := by
  refine Outcome.returns_bind_of_returns (toColor_endsWhen ..).returns_iff fun rgb _ => ?_
  split
  case isTrue => exact Outcome.returns_fail _
  case isFalse =>
      split
      case isTrue => exact Outcome.returns_fail _
      case isFalse => exact Outcome.returns_lift _

theorem encodeWebp_returns_iff (quality : Nat) (lossless : Bool) :
    Returns (encodeWebp lib encoders image metadata quality lossless) ↔
      EncoderFits .webp image.shape :=
  Outcome.returns_bind_of_returns (toColor_endsWhen ..).returns_iff fun _ _ =>
    Outcome.returns_lift _

theorem encodeAvif_returns_iff (quality speed : Nat) :
    Returns (encodeAvif lib encoders image metadata quality speed) ↔
      EncoderFits .avif image.shape := by
  refine Outcome.returns_bind_of_returns (toColor_endsWhen ..).returns_iff fun rgba _ => ?_
  split
  case h_1 => exact Outcome.returns_pure _
  case h_2 => exact Outcome.returns_fail _

theorem encodeFormat_returns_iff :
    Returns (encodeFormat lib encoders image metadata query config) ↔
      EncoderFits query.format image.shape := by
  have named {text mime : String} {stage : Stage (List UInt8)} {p : Prop}
      (stageIff : Returns stage ↔ p) :
      Returns (Stage.context text stage >>= fun bytes => pure (bytes, mime)) ↔ p :=
    Outcome.returns_bind_of_returns ((returns_context_iff ..).trans stageIff)
      fun _ _ => Outcome.returns_pure _
  unfold encodeFormat
  cases query.format with
  | webp => exact named (encodeWebp_returns_iff ..)
  | avif => exact named (encodeAvif_returns_iff ..)
  | png => exact named (encodePng_returns_iff ..)
  | gif =>
      refine Outcome.returns_bind_of_returns (newBuffer_returns_iff _) fun _ _ => ?_
      exact (Outcome.returns_lift_bind_iff ..).mpr fun _ _ => Outcome.returns_pure _
  | auto => exact iff_true_intro (Outcome.returns_fail _)
  | jpg =>
      cases query.maxBytes with
      | none => exact named (encodeJpeg_returns_iff ..)
      | some maxBytes =>
          exact named (encodeWithMaxBytes_returns_iff _ _ fun _ => encodeJpeg_returns_iff ..)

/-- The buffers of the alpha stage fit. -/
def AlphaFits (shape : Shape) : Prop :=
  shape.hasAlpha = true →
    ConvertFits shape .rgba8 ∧ (query.format = .jpg → CanvasFits shape.size .rgb8)

/-- The colour type after the alpha stage. -/
def flattenedColor (shape : Shape) : ColorType :=
  if shape.hasAlpha then if query.format = .jpg then .rgb8 else .rgba8 else shape.color

theorem alphaStage_endsWhen :
    EndsWhen (alphaStage lib query image) (AlphaFits query image.shape)
      fun flattened => flattened.shape = ⟨image.size, flattenedColor query image.shape⟩ := by
  have same : image.shape.hasAlpha = image.hasAlpha := rfl
  unfold alphaStage AlphaFits flattenedColor
  rw [same]
  cases image.hasAlpha with
  | false => exact .congr (Outcome.endsWhen_pure rfl) (by simp)
  | true =>
      simp only [if_true, true_imp_iff]
      split
      case isTrue jpg =>
          refine .congr (p := ConvertFits image.shape .rgba8 ∧ CanvasFits image.size .rgb8)
            (.bind (toColor_endsWhen ..) fun rgba converted => ?_) (by simp [jpg])
          have size : rgba.size = image.size :=
            congrArg Shape.size (converted ▸ image.inColor_shape lib .rgba8)
          rw [← size]
          exact .bind_pure (newCanvas_endsWhen ..) fun _ _ => rfl
      case isFalse other =>
          refine .congr (.bind_pure (toColor_endsWhen ..) fun rgba converted => ?_)
            (by simp [other])
          exact converted ▸ image.inColor_shape lib .rgba8

/-- The buffers between the last stage and the output fit. -/
@[mk_iff]
structure FinishFits (shape : Shape) : Prop where
  alpha : AlphaFits query shape
  encoded : EncoderFits query.format ⟨shape.size, flattenedColor query shape⟩

theorem finishSingle_returns_iff :
    Returns (finishSingle lib encoders query config metadata image) ↔
      (query.format ≠ .auto → FinishFits query image.shape) := by
  unfold finishSingle
  split
  case isTrue auto => simp [auto]
  case isFalse concrete =>
      simp only [ne_eq, concrete, not_false_eq_true, true_imp_iff, finishFits_iff]
      refine (alphaStage_endsWhen lib query image).bind_returns_iff fun flattened shape => ?_
      rw [Raster.shape_size, ← shape]
      exact encodeFormat_returns_iff ..

end Encode

section Single

variable (query : ResizeQuery) (config : PerformanceConfig)
variable (watermarkBytes : Option (List UInt8))

/-- What the stages from the watermark on need of an image: a watermark that decodes fits on
it, and the output buffers fit. -/
def MarkedFits (shape : Shape) : Prop :=
  match watermarkBytes, query.watermark with
  | some bytes, some watermark =>
      ∀ layer, codecs.loadFromMemory bytes = .ok layer →
        WatermarkFits lib watermark shape layer.shape ∧
          (query.format ≠ .auto → FinishFits query ⟨shape.size, .rgba8⟩)
  | _, _ => query.format ≠ .auto → FinishFits query shape

theorem markedStages_returns_iff (steady : lib.Steady) (metadata : Metadata)
    (image : Raster Content) :
    Returns (watermarkStage lib codecs query watermarkBytes image >>=
        finishSingle lib encoders query config metadata) ↔
      MarkedFits lib codecs query watermarkBytes image.shape := by
  unfold watermarkStage MarkedFits
  cases watermarkBytes with
  | none => exact finishSingle_returns_iff ..
  | some bytes =>
      cases query.watermark with
      | none => exact finishSingle_returns_iff ..
      | some watermark =>
          simp only [bind_assoc]
          rw [Outcome.returns_lift_bind_iff]
          simp only [Failure.withContext_ok_iff]
          refine forall_congr' fun layer => imp_congr_right fun _ => ?_
          refine (applyWatermark_endsWhen lib watermark steady image layer).bind_returns_iff
            fun marked shape => ?_
          rw [Raster.shape_size, ← shape]
          exact finishSingle_returns_iff ..

/-- The resize of a still image, or of a frame that has no others. -/
def stillResized (shape : Shape) : Shape :=
  shape.resized lib query (frameStep query false shape.size)

/-- What the single-image pipeline needs of an image: its raster, its canvases, and, for a
final size within the maximum, what comes after them. -/
@[mk_iff]
structure SingleFits (shape : Shape) : Prop where
  resized : ScaledFits (frameStep query false shape.size) shape.color
  grown : GrowthFits query shape.size (stillResized lib query shape)
  marked : WithinMaximum config (paddedSize query shape.size (stillResized lib query shape).size) →
    MarkedFits lib codecs query watermarkBytes
      ((stillResized lib query shape).padded query shape.size)

theorem encodeSingleImage_returns_iff (steady : lib.Steady) (metadata : SourceMetadata)
    (image : Raster Content) :
    Returns (encodeSingleImage lib codecs encoders query config watermarkBytes metadata image.size
      image) ↔ SingleFits lib codecs query config watermarkBytes image.shape := by
  obtain ⟨exif, resolved⟩ :=
    resolveExif_ends query metadata.exifMetadata metadata.exifOrientationApplied
  unfold encodeSingleImage
  rw [resolved, Outcome.ok_bind, transformSingle_eq_growthStage, singleFits_iff]
  simp only [bind_assoc]
  refine (resizeAndFilter_endsWhen steady _ _ _ image).bind_returns_iff fun resized shape => ?_
  have shapeIs : stillResized lib query image.shape = resized.shape := shape.symm
  rw [shapeIs]
  exact growthStage_bind_returns_iff lib query config image.size resized fun padded paddedShape =>
    paddedShape ▸ markedStages_returns_iff lib codecs encoders query config watermarkBytes steady _
      padded

/-- The upright image of a decode in the colour type that a trim compares. -/
def scannedImage (decoded : DecodedImage Content) : Raster Content :=
  (autorotate lib query decoded).inColor lib .rgba8

/-- What is left of a decoded image after trim and crop. -/
def preparedShape (decoded : DecodedImage Content) : Shape where
  size := (keptWindow lib query (scannedImage lib query decoded)).size
  color := decoded.image.color

/-- What the still path needs once its source is decoded. -/
@[mk_iff]
structure StillFits (decoded : DecodedImage Content) : Prop where
  scanned : query.trim.isSome = true → ConvertFits (autorotate lib query decoded).shape .rgba8
  single : SingleFits lib codecs query config watermarkBytes (preparedShape lib query decoded)

theorem trimStage_endsWhen (image : Raster Content) :
    EndsWhen (trimStage lib query image)
      (query.trim.isSome = true → ConvertFits image.shape .rgba8)
      fun trimmed =>
        trimmed.shape = ⟨(trimKeeps lib query (image.inColor lib .rgba8)).size, image.color⟩ := by
  have size : (image.inColor lib .rgba8).size = image.size :=
    congrArg Shape.size (image.inColor_shape lib .rgba8)
  unfold trimStage trimKeeps
  rw [size]
  cases query.trim with
  | none => exact .congr (Outcome.endsWhen_pure rfl) (by simp)
  | some trim =>
      constructor
      · intro returns _
        exact (toColor_endsWhen lib image .rgba8).needs ((Outcome.returns_bind_iff ..).mp returns).1
      · intro fits
        refine ⟨_, applyTrim_ok (toColor_ends lib (fits rfl)), ?_⟩
        dsimp only
        split
        case isTrue => rfl
        case isFalse => rfl

theorem prepareStill_endsWhen (decoded : DecodedImage Content) :
    EndsWhen (prepareStill lib query decoded)
      (query.trim.isSome = true → ConvertFits (autorotate lib query decoded).shape .rgba8)
      fun prepared => prepared.shape = preparedShape lib query decoded := by
  have color : (autorotate lib query decoded).color = decoded.image.color := by
    unfold autorotate
    split
    case isTrue => exact turn_color ..
    case isFalse => rfl
  refine .bind_pure (trimStage_endsWhen ..) fun trimmed shape => ?_
  obtain ⟨sizeIs, colorIs⟩ := Shape.mk.inj shape
  unfold cropStage preparedShape keptWindow scannedImage
  cases query.crop with
  | none => exact congrArg₂ Shape.mk sizeIs (colorIs.trans color)
  | some crop =>
      have cropped : (applyCropTo lib trimmed crop).size = (applyCrop trimmed.size crop).size := rfl
      rw [sizeIs] at cropped
      exact congrArg₂ Shape.mk cropped (colorIs.trans color)

theorem encodeStill_returns_iff (steady : lib.Steady) (decoded : DecodedImage Content) :
    Returns (encodeStill lib codecs encoders query config watermarkBytes decoded) ↔
      StillFits lib codecs query config watermarkBytes decoded := by
  rw [stillFits_iff]
  refine (prepareStill_endsWhen lib query decoded).bind_returns_iff fun prepared shape => ?_
  rw [← shape]
  exact encodeSingleImage_returns_iff lib codecs encoders query config watermarkBytes steady _
    prepared

end Single

section Animation

variable (query : ResizeQuery) (config : PerformanceConfig)
variable (watermarkBytes : Option (List UInt8))

/-- What one frame of several needs: its resize, and the conversion of the result. -/
def FrameFits (shape : Shape) : Prop :=
  ScaledFits (frameStep query true shape.size) shape.color ∧
    ConvertFits (shape.resized lib query (frameStep query true shape.size)) .rgba8

theorem animateFrame_endsWhen (steady : lib.Steady) (frame : Frame Content) :
    EndsWhen (animateFrame lib query frame.image.size frame)
      (FrameFits lib query frame.image.shape) fun _ => True := by
  refine .bind (resizeAndFilter_endsWhen steady _ _ _ frame.image) fun resized shape => ?_
  have shapeIs : frame.image.shape.resized lib query (frameStep query true frame.image.size) =
      resized.shape := shape.symm
  rw [Raster.shape_size, shapeIs]
  exact .bind_pure (toColor_endsWhen ..) fun _ _ => trivial

/-- What an animated source needs, by how many frames it has: that there is one, and that it
fits as a still image, or each of several as a frame of an animation. -/
def AnimationFits (count : Nat) (shape : Shape) : Prop :=
  match count with
  | 0 => False
  | 1 => SingleFits lib codecs query config watermarkBytes shape
  | _ => FrameFits lib query shape

theorem encodeFrames_returns_iff (steady : lib.Steady) (frames : List (Frame Content))
    {source : Size} (shapes : ∀ frame ∈ frames, frame.image.shape = ⟨source, .rgba8⟩) :
    Returns (encodeFrames lib codecs encoders query config watermarkBytes frames source) ↔
      AnimationFits lib codecs query config watermarkBytes frames.length ⟨source, .rgba8⟩ := by
  match frames, shapes with
  | [], _ => exact iff_of_false Outcome.not_returns_panic id
  | [frame], shapes =>
      have shape := shapes frame (List.mem_singleton_self _)
      have size : frame.image.size = source := congrArg Shape.size shape
      rw [← shape, ← size]
      exact encodeSingleImage_returns_iff lib codecs encoders query config watermarkBytes steady _
        frame.image
  | first :: second :: rest, shapes =>
      have each : ∀ frame ∈ first :: second :: rest, EndsWhen (animateFrame lib query source frame)
          (FrameFits lib query ⟨source, .rgba8⟩) fun _ => True := by
        intro frame member
        have shape := shapes frame member
        have size : frame.image.size = source := congrArg Shape.size shape
        rw [← shape, ← size]
        exact animateFrame_endsWhen lib query steady frame
      refine (Outcome.returns_bind_of_returns (Outcome.EndsWhen.mapM each).returns_iff
        fun output _ => ?_).trans (by simp [AnimationFits])
      split
      case h_1 => exact Outcome.returns_lift _
      case h_2 => exact Outcome.returns_lift _
      case h_3 => exact Outcome.returns_fail _

/-- What a frame of an animated WebP needs: its buffer, and, for one without alpha, the copy of
its pixels to RGBA. -/
def WebpFrameFits (source : WebpSource Content) (bufferSize index : Nat) : Prop :=
  bufferSize ≤ isizeMax ∧
    ∀ frame, source.frame index = .ok frame → source.bufferFits bufferSize = true →
      source.hasAlpha = true ∨ CanvasFits source.size .rgba8

theorem decodeWebpFrame_returns_iff (source : WebpSource Content) (bufferSize index : Nat) :
    Returns (decodeWebpFrame lib source bufferSize index) ↔
      WebpFrameFits source bufferSize index := by
  refine (EndsWhen.bind_returns_iff (Outcome.endsWhen_assert _) fun _ _ => ?_)
  unfold readWebpFrame
  rw [Outcome.returns_lift_bind_iff]
  simp only [Failure.withContext_ok_iff]
  refine forall_congr' fun frame => imp_congr_right fun _ => ?_
  split
  case isFalse short => simp [short]
  case isTrue enough =>
      refine (Outcome.returns_bind_of_returns (toColor_endsWhen ..).returns_iff fun _ _ =>
        Outcome.returns_pure _).trans ?_
      unfold ConvertFits Raster.shape WebpSource.color
      cases source.hasAlpha <;> simp [enough]

theorem decodeWebpFrame_ok {source : WebpSource Content} {bufferSize index : Nat}
    {frame : Frame Content} (ended : decodeWebpFrame lib source bufferSize index = .ok frame) :
    (∃ read, source.frame index = .ok read) ∧ source.bufferFits bufferSize = true ∧
      frame.image.shape = ⟨source.size, .rgba8⟩ := by
  obtain ⟨_, -, ended⟩ := (Outcome.bind_ok_iff ..).mp ended
  obtain ⟨read, reads, ended⟩ := (Outcome.bind_ok_iff ..).mp ended
  rw [Outcome.lift_ok_iff, Failure.withContext_ok_iff] at reads
  dsimp only at ended
  split at ended
  case isFalse => cases ended
  case isTrue enough =>
      obtain ⟨image, converts, made⟩ := (Outcome.bind_ok_iff ..).mp ended
      cases made
      refine ⟨⟨read, reads⟩, enough, ?_⟩
      rw [(toColor_ok lib converts).2]
      exact Raster.inColor_shape ..

/-- The frames of an animated WebP, if there are any, need what the first needs. -/
theorem decodeWebpFrames_returns_iff (source : WebpSource Content) :
    Returns (decodeWebpFrames config lib source) ↔
      ∀ bufferSize, webpFrameBuffer config source = .ok bufferSize → 0 < source.numFrames →
        WebpFrameFits source bufferSize 0 := by
  unfold decodeWebpFrames
  rw [Outcome.returns_lift_bind_iff]
  refine forall_congr' fun bufferSize => imp_congr_right fun _ => ?_
  refine (Outcome.returns_bind_of_returns
    (Outcome.returns_mapM_iff (decodeWebpFrame_returns_iff lib source bufferSize) _)
    fun _ _ => Outcome.returns_pure _).trans ?_
  cases source.numFrames with
  | zero => simp [Outcome.Reached]
  | succ count =>
      rw [List.range_succ_eq_map, Outcome.reached_iff_head]
      · simp
      · intro first value ended element _
        obtain ⟨⟨read, reads⟩, enough, -⟩ := decodeWebpFrame_ok lib ended
        exact ⟨first.1, fun _ _ _ => first.2 read reads enough⟩

/-- The frames of an animated source are RGBA canvases of its size. -/
def RgbaCanvases (animation : List (Frame Content) × Size) : Prop :=
  ∀ frame ∈ animation.1, frame.image.shape = ⟨animation.2, .rgba8⟩

theorem collectFramesCapped_shapes {size : Size} {maxFrames index : Nat}
    {read : List (Except String (Content × Delay))} {frames : List (Frame Content)}
    (ended : collectFramesCapped size maxFrames index read = .ok frames) :
    RgbaCanvases (frames, size) := by
  induction read generalizing index frames with
  | nil =>
      cases ended
      simp [RgbaCanvases]
  | cons frame rest ih =>
      unfold collectFramesCapped at ended
      split at ended
      case isTrue => cases ended
      case isFalse =>
          obtain ⟨first, -, ended⟩ := (Outcome.bind_ok_iff ..).mp ended
          obtain ⟨others, collects, made⟩ := (Outcome.bind_ok_iff ..).mp ended
          cases made
          exact List.forall_mem_cons.mpr ⟨rfl, ih collects⟩

theorem decodeWebpFrames_shapes {source : WebpSource Content}
    {animation : List (Frame Content) × Size}
    (ended : decodeWebpFrames config lib source = .ok animation) : RgbaCanvases animation := by
  obtain ⟨bufferSize, -, ended⟩ := (Outcome.bind_ok_iff ..).mp ended
  obtain ⟨frames, reads, made⟩ := (Outcome.bind_ok_iff ..).mp ended
  cases made
  exact Outcome.after_mapM (fun _ _ decodes => (decodeWebpFrame_ok lib decodes).2.2) _ frames reads

end Animation

section Process

variable (query : ResizeQuery) (config : PerformanceConfig)
variable (bytes : List UInt8) (watermarkBytes : Option (List UInt8))

/-- What the decode of a source needs: the frames of an animated WebP, for an output that can
carry them. -/
def DecodeFits : Prop :=
  wantsAnimatableOutput query = true → detectFormatFromBytes bytes = some .webp →
    ∀ source, codecs.openWebp bytes = .ok source → source.animated = true →
      ∀ bufferSize, webpFrameBuffer config source = .ok bufferSize → 0 < source.numFrames →
        WebpFrameFits source bufferSize 0

theorem decodeAnimated_returns_iff :
    Returns (decodeAnimated lib codecs query config bytes (detectFormatFromBytes bytes)) ↔
      DecodeFits codecs query config bytes := by
  unfold decodeAnimated DecodeFits
  cases detectFormatFromBytes bytes with
  | none => simp
  | some format =>
      cases wantsAnimatableOutput query with
      | false => simp
      | true =>
          cases format with
          | webp =>
              simp only [if_true, true_imp_iff, decodeAnimationSource]
              rw [Outcome.returns_lift_bind_iff]
              simp only [Failure.withContext_ok_iff]
              refine forall_congr' fun source => imp_congr_right fun _ => ?_
              cases source.animated with
              | false => simp
              | true => simp [Outcome.returns_map_iff, decodeWebpFrames_returns_iff]
          | gif => simp [decodeAnimationSource, Outcome.returns_map_iff]
          | jpeg | png | avif => simp [decodeAnimationSource]

theorem decodeAnimated_shapes (format : Option SourceFormat)
    {animation : List (Frame Content) × Size}
    (ended : decodeAnimated lib codecs query config bytes format = .ok (some animation)) :
    RgbaCanvases animation := by
  unfold decodeAnimated at ended
  split at ended
  case h_2 => cases ended
  case h_1 format =>
      split at ended
      case isFalse => cases ended
      case isTrue =>
          cases format with
          | jpeg | png | avif => cases ended
          | gif =>
              obtain ⟨found, decodes, same⟩ := (Outcome.map_ok_iff ..).mp ended
              cases same
              rw [Outcome.lift_ok_iff] at decodes
              obtain ⟨source, -, ended⟩ := (Outcome.bind_ok_iff ..).mp decodes
              obtain ⟨_, -, ended⟩ := (Outcome.bind_ok_iff ..).mp ended
              obtain ⟨_, -, ended⟩ := (Outcome.bind_ok_iff ..).mp ended
              obtain ⟨frames, collects, made⟩ := (Outcome.bind_ok_iff ..).mp ended
              cases made
              exact collectFramesCapped_shapes collects
          | webp =>
              obtain ⟨source, -, ended⟩ := (Outcome.bind_ok_iff ..).mp ended
              split at ended
              case isFalse => cases ended
              case isTrue =>
                  obtain ⟨found, decodes, same⟩ := (Outcome.map_ok_iff ..).mp ended
                  cases same
                  exact decodeWebpFrames_shapes lib config decodes

/-- What a decoded source needs. -/
def SourceFits : (List (Frame Content) × Size) ⊕ DecodedImage Content → Prop
  | .inl (frames, size) =>
      AnimationFits lib codecs query config watermarkBytes frames.length ⟨size, .rgba8⟩
  | .inr decoded => StillFits lib codecs query config watermarkBytes decoded

/-- What a request needs that passes the check on its output dimensions. -/
def ProcessFits : Prop :=
  checkOutputDimensions query config = .ok () →
    DecodeFits codecs query config bytes ∧
      ∀ found, decodeSource lib codecs query config bytes = .ok found →
        SourceFits lib codecs query config watermarkBytes found

theorem decodeSource_returns_iff :
    Returns (decodeSource lib codecs query config bytes) ↔
      DecodeFits codecs query config bytes := by
  refine Outcome.returns_bind_of_returns (decodeAnimated_returns_iff ..) fun found _ => ?_
  cases found with
  | some animation => exact Outcome.returns_pure _
  | none => exact (Outcome.returns_lift_bind_iff ..).mpr fun _ _ => Outcome.returns_pure _

/-- The CPU stage ends in a result or in a reported error exactly when every buffer it
builds can be allocated, the coordinates of its watermark are an `i64`, and its animated
source has a frame. -/
theorem processImageBlocking_returns_iff (steady : lib.Steady) :
    Returns (processImageBlocking lib codecs encoders query config bytes watermarkBytes) ↔
      ProcessFits lib codecs query config bytes watermarkBytes := by
  rw [processImageBlocking_decodeSource, Outcome.returns_lift_bind_iff, ProcessFits]
  refine (forall_congr' fun _ => imp_congr_right fun _ => ?_).trans
    ⟨fun every => every (), fun once _ => once⟩
  refine Outcome.returns_bind (decodeSource_returns_iff ..) fun found decodes => ?_
  obtain ⟨animation, animates, ended⟩ := (Outcome.bind_ok_iff ..).mp decodes
  cases animation with
  | some animation =>
      cases ended
      exact encodeFrames_returns_iff lib codecs encoders query config watermarkBytes steady _
        (decodeAnimated_shapes lib codecs query config bytes _ animates)
  | none =>
      obtain ⟨decoded, -, made⟩ := (Outcome.bind_ok_iff ..).mp ended
      cases made
      exact encodeStill_returns_iff lib codecs encoders query config watermarkBytes steady decoded

/-- A JPEG of a pixel. -/
theorem onePixelPng_fits : ProcessFits .blank .png .default .default onePixelPng none :=
  have ends : processImageBlocking .blank .png .blank .default .default onePixelPng none =
      .ok ([], "image/jpeg") := by rfl
  (processImageBlocking_returns_iff .blank .png .blank .default .default onePixelPng none
    blank_steady).mp (ends ▸ Outcome.returns_ok _)

/-- A border of four billion pixels around a pixel panics. -/
theorem widestPadding_process :
    ProcessingOptions.parse .urlSafeNoPad ["pd:4294967295".toList] =
        .ok { ProcessingOptions.default with padding := widestPadding.padding } ∧
      ¬ Returns (processImageBlocking .blank .png .blank widestPadding .default onePixelPng
        none) := by
  refine ⟨by decide +kernel, fun returns => returns ?_⟩
  rfl

end Process

end ImageResizer
