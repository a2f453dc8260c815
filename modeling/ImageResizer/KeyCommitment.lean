import ImageResizer.Foundation.TwoRuns
import ImageResizer.Service

/-!
# What the cache key leaves out

The key is computed from the request alone, so two deployments that share a cache share
the bytes stored under it.  This module follows two runs of one request under two
configurations.  Most of a configuration only rejects: limits on the source, on the
output, on the number of frames and on the size of a download change no byte of a result.
Four of its values do: the default watermark, the two JPEG defaults, and the memory limit
under which a WebP decoder reads its metadata.
-/

namespace ImageResizer

open SourceGuard (UrlLibrary)

variable {Content : Type} (lib : Imaging Content) (codecs : Codecs Content)
variable (encoders : Encoders Content) (query : ResizeQuery)

section Formats

/-- The formats whose encoder is given the colour profile. -/
def ImageFormat.writesIcc : ImageFormat → Bool
  | .webp | .png | .jpg => true
  | .avif | .gif | .auto => false

/-- The formats whose encoder is given the EXIF block. -/
def ImageFormat.writesExif : ImageFormat → Bool
  | .webp | .png | .jpg | .avif => true
  | .gif | .auto => false

/-- The settings of the JPEG encoder that a configuration decides agree. -/
def DefaultsAgree (first second : PerformanceConfig) : Prop :=
  query.format = .jpg →
    query.jpegProgressive.getD first.jpegProgressiveDefault =
        query.jpegProgressive.getD second.jpegProgressiveDefault ∧
      query.jpegNoSubsampling.getD first.jpegNoSubsamplingDefault =
        query.jpegNoSubsampling.getD second.jpegNoSubsamplingDefault

end Formats

section Encode

variable (image : Raster Content) {first second : PerformanceConfig}

/-- The metadata of two runs, as far as the encoder of the format reads it. -/
structure MetadataAlike (one other : Metadata) : Prop where
  icc : query.format.writesIcc = true → one.iccProfile = other.iccProfile
  exif : query.format.writesExif = true → one.exif = other.exif

theorem MetadataAlike.eq {one other : Metadata} (alike : MetadataAlike query one other)
    (icc : query.format.writesIcc = true) (exif : query.format.writesExif = true) :
    one = other := by
  obtain ⟨iccSame, exifSame⟩ := alike
  cases one
  cases other
  rw [Metadata.mk.injEq]
  exact ⟨iccSame icc, exifSame exif⟩

theorem encodeFormat_agree {one other : Metadata} (alike : MetadataAlike query one other)
    (defaults : DefaultsAgree query first second) :
    encodeFormat lib encoders image one query first =
      encodeFormat lib encoders image other query second := by
  have same := alike.eq query
  have exif := alike.exif
  unfold DefaultsAgree at defaults
  unfold encodeFormat
  cases format : query.format with
  | webp | png =>
      rw [format] at same
      rw [same rfl rfl]
  | jpg =>
      rw [format] at same
      obtain ⟨progressive, noSubsampling⟩ := defaults format
      rw [same rfl rfl, progressive, noSubsampling]
  | avif =>
      rw [format] at exif
      simp only [encodeAvif, Metadata.nonempty, exif rfl]
  | gif | auto => rfl

theorem finishSingle_agree {one other : Metadata} (alike : MetadataAlike query one other)
    (defaults : DefaultsAgree query first second) :
    finishSingle lib encoders query first one image =
      finishSingle lib encoders query second other image := by
  unfold finishSingle
  simp only [encodeFormat_agree lib encoders query _ alike defaults]

theorem transformSingle_agree (source : Size) :
    BothOk Eq (transformSingle lib query first source image)
      (transformSingle lib query second source image) :=
  (BothOk.refl _).bind_eq fun _ => (BothOk.refl _).bind_eq fun _ =>
    (BothOk.refl _).bind_eq fun _ => (BothOk.unit _ _).bind_eq fun _ => BothOk.refl _

/-- What two runs read beside the pixels, as far as the encoder of the format reads it. -/
structure SourceMetadataAlike (one other : SourceMetadata) : Prop where
  icc : query.format.writesIcc = true → one.iccProfile = other.iccProfile
  exif : query.format.writesExif = true →
    resolveExif query one.exifMetadata one.exifOrientationApplied =
      resolveExif query other.exifMetadata other.exifOrientationApplied

/-- A watermark leaves a mark: it is visible itself, or its shadow is. -/
def WatermarkQuery.Drawn (watermark : WatermarkQuery) : Prop :=
  watermark.opacity.value.clampUnit.nonpositive = false ∨
    ∃ sigma, watermark.shadow = some sigma ∧ sigma.value.isPositive = true

/-- Two downloads of the watermark, as far as a still image shows it. -/
def WatermarksAlike (one other : Option (List UInt8)) : Prop :=
  one.isSome = other.isSome ∧
    ∀ watermark, query.watermark = some watermark → watermark.Drawn → one = other

theorem WatermarksAlike.of_eq {one other : Option (List UInt8)} (same : one = other) :
    WatermarksAlike query one other := ⟨congrArg Option.isSome same, fun _ _ _ => same⟩

/-- A watermark that leaves no mark only converts its base. -/
theorem applyWatermark_undrawn {watermark : WatermarkQuery} (undrawn : ¬ watermark.Drawn)
    (base layer other : Raster Content) :
    BothOk Eq (applyWatermark lib watermark base layer)
      (applyWatermark lib watermark base other) := by
  obtain ⟨invisible, unshadowed⟩ := not_or.mp undrawn
  have shadow (canvas turned : Raster Content) (position : Int × Int) :
      drawShadow lib watermark canvas turned position = .ok canvas := by
    unfold drawShadow
    cases asked : watermark.shadow with
    | none => rfl
    | some sigma =>
        have zero : sigma.value.isPositive = false := by
          simpa using fun positive => unshadowed ⟨sigma, asked, positive⟩
        simp only [zero, Bool.false_eq_true, if_false]
        rfl
  have composite (canvas turned : Raster Content) (position : Int × Int) :
      compositeOver lib canvas turned position (.ofFloat watermark.opacity.value) = .ok canvas := by
    have invisible : (Opacity.ofFloat watermark.opacity.value).value.nonpositive = true :=
      eq_true_of_ne_false invisible
    simp only [compositeOver, invisible, if_true]
    rfl
  unfold applyWatermark
  refine (BothOk.any _ _).bind fun scaled otherScaled _ _ _ => ?_
  refine (BothOk.any _ _).bind fun rgba otherRgba _ _ _ => ?_
  refine (BothOk.any _ _).bind fun turned otherTurned _ _ _ => ?_
  refine (BothOk.any _ _).bind fun position otherPosition _ _ _ => ?_
  refine (BothOk.refl _).bind_eq fun canvas => ?_
  rw [shadow, shadow]
  exact BothOk.of_eq ((composite ..).trans (composite ..).symm)

theorem watermarkStage_agree {one other : Option (List UInt8)}
    (alike : WatermarksAlike query one other) :
    BothOk Eq (watermarkStage lib codecs query one image)
      (watermarkStage lib codecs query other image) := by
  obtain ⟨present, same⟩ := alike
  match one, other with
  | none, none => exact BothOk.refl _
  | some bytes, some others =>
      unfold watermarkStage
      cases asked : query.watermark with
      | none => exact BothOk.refl _
      | some watermark =>
          by_cases drawn : watermark.Drawn
          case pos => rw [same watermark asked drawn]; exact BothOk.refl _
          case neg =>
              refine (BothOk.any _ _).bind fun layer otherLayer _ _ _ => ?_
              exact applyWatermark_undrawn lib drawn image layer otherLayer
  | none, some _ => cases present
  | some _, none => cases present

theorem encodeSingleImage_agree {watermarkBytes otherWatermark : Option (List UInt8)}
    (watermarks : WatermarksAlike query watermarkBytes otherWatermark) (source : Size)
    {one other : SourceMetadata} (alike : SourceMetadataAlike query one other)
    (defaults : DefaultsAgree query first second) :
    BothOk Eq
      (encodeSingleImage lib codecs encoders query first watermarkBytes one source image)
      (encodeSingleImage lib codecs encoders query second otherWatermark other source image) := by
  have exifs : BothOk (fun exif otherExif => query.format.writesExif = true → exif = otherExif)
      (resolveExif query one.exifMetadata one.exifOrientationApplied)
      (resolveExif query other.exifMetadata other.exifOrientationApplied) :=
    fun exif otherExif exifOk otherOk written =>
      Except.ok.inj (exifOk.symm.trans ((alike.exif written).trans otherOk))
  refine exifs.bind fun exif otherExif _ _ exifSame => ?_
  refine (transformSingle_agree lib query image source).bind_eq fun transformed => ?_
  refine (watermarkStage_agree lib codecs query transformed watermarks).bind_eq fun marked => ?_
  exact BothOk.of_eq (finishSingle_agree lib encoders query marked ⟨alike.icc, exifSame⟩ defaults)

end Encode

section Decode

variable (bytes : List UInt8) (format : Option SourceFormat) (limit otherLimit : Nat)

theorem openLimited_agree (text otherText : String) :
    BothOk Eq (openLimited codecs bytes format limit text)
      (openLimited codecs bytes format otherLimit otherText) := by
  intro source other sourceOk otherOk
  have opened := ((openLimited_ok_iff ..).mp sourceOk).2.1
  have otherOpened := ((openLimited_ok_iff ..).mp otherOk).2.1
  exact Except.ok.inj (opened.symm.trans otherOpened)

theorem decodeWithImageCrate_agree (wantMetadata : Bool) :
    BothOk Eq (decodeWithImageCrate codecs bytes format limit wantMetadata)
      (decodeWithImageCrate codecs bytes format otherLimit wantMetadata) :=
  (openLimited_agree codecs bytes _ _ _ _ _).bind_eq fun _ => BothOk.refl _

theorem decodeJpegScaled_agree :
    BothOk Eq (decodeJpegScaled codecs bytes limit query)
      (decodeJpegScaled codecs bytes otherLimit query) :=
  (openLimited_agree codecs bytes _ _ _ _ _).bind_eq fun _ => BothOk.refl _

/-- A scaled decode that succeeds under one limit succeeds with the same result under any
limit that the decoder passes. -/
theorem decodeJpegScaled_of_open {text : String} {source : StillSource Content}
    {decoded : DecodedImage Content}
    (ok : decodeJpegScaled codecs bytes limit query = .ok decoded)
    (opens : openLimited codecs bytes (some .jpeg) otherLimit text = .ok source) :
    decodeJpegScaled codecs bytes otherLimit query = .ok decoded := by
  obtain ⟨header, headerOk, pixels⟩ := (Outcome.bind_ok_iff ..).mp ok
  have same : header = source := openLimited_agree codecs bytes _ _ _ _ _ _ _ headerOk opens
  subst same
  refine (Outcome.bind_ok_iff ..).mpr ⟨header, ?_, pixels⟩
  exact (openLimited_ok_iff ..).mpr ((openLimited_ok_iff ..).mp opens)

/-- The two decodes of a JPEG take the same branch: what makes one scaled decode fail and
not the other also makes its fallback fail. -/
theorem decodeWithLimits_jpeg_agree :
    BothOk Eq (decodeWithLimits codecs bytes (some .jpeg) limit query)
      (decodeWithLimits codecs bytes (some .jpeg) otherLimit query) := by
  have falls (one other : Nat) {decoded : DecodedImage Content} {failure : Failure}
      (scaled : decodeJpegScaled codecs bytes one query = .ok decoded)
      (fails : decodeJpegScaled codecs bytes other query = .error failure)
      (result : DecodedImage Content)
      (fallback : decodeUnscaled codecs bytes (some .jpeg) other query = .ok result) : False := by
    obtain ⟨source, opens, -⟩ := (Outcome.bind_ok_iff ..).mp fallback
    rw [decodeJpegScaled_of_open codecs query bytes one other scaled opens] at fails
    cases fails
  intro a b aOk bOk
  unfold decodeWithLimits at aOk bOk
  simp only [if_true] at aOk bOk
  cases scaled : decodeJpegScaled codecs bytes limit query with
  | ok decoded =>
      cases otherScaled : decodeJpegScaled codecs bytes otherLimit query with
      | ok otherDecoded =>
          simp only [scaled, otherScaled] at aOk bOk
          cases aOk
          cases bOk
          exact decodeJpegScaled_agree codecs query bytes _ _ _ _ scaled otherScaled
      | error failure =>
          simp only [otherScaled] at bOk
          exact (falls _ _ scaled otherScaled _ bOk).elim
  | error failure =>
      simp only [scaled] at aOk
      cases otherScaled : decodeJpegScaled codecs bytes otherLimit query with
      | ok otherDecoded => exact (falls _ _ otherScaled scaled _ aOk).elim
      | error otherFailure =>
          simp only [otherScaled] at bOk
          exact decodeWithImageCrate_agree codecs bytes _ _ _ _ _ _ aOk bOk

/-- Two still decodes, as far as the rest of the pipeline reads them. -/
structure DecodedAlike (one other : DecodedImage Content) : Prop where
  image : one.image = other.image
  orientation : query.autorotate = true → one.orientation = other.orientation
  icc : query.format.writesIcc = true → one.iccProfile = other.iccProfile
  exif : query.format.writesExif = true → query.stripMetadata = false →
    one.exifMetadata = other.exifMetadata

theorem DecodedAlike.of_eq {one other : DecodedImage Content} (same : one = other) :
    DecodedAlike query one other := by
  subst same
  exact ⟨rfl, fun _ => rfl, fun _ => rfl, fun _ _ => rfl⟩

/-- The orientation of a WebP source under a memory limit. -/
def WebpSource.orientation (source : WebpSource Content) (memoryLimit : Nat) : Orientation :=
  ((source.exifMetadata memoryLimit).bind codecs.orientationFromExif).getD .noTransforms

/-- The metadata chunks of a WebP source that a request makes use of are read alike under the
memory limits of two maximal source resolutions. -/
structure WebpSource.ReadAlike (source : WebpSource Content) : Prop where
  orientation : query.autorotate = true →
    source.orientation codecs (buildDecodeLimits limit).maxAlloc =
      source.orientation codecs (buildDecodeLimits otherLimit).maxAlloc
  icc : query.format.writesIcc = true →
    source.iccProfile (buildDecodeLimits limit).maxAlloc =
      source.iccProfile (buildDecodeLimits otherLimit).maxAlloc
  exif : query.format.writesExif = true → query.stripMetadata = false →
    source.exifMetadata (buildDecodeLimits limit).maxAlloc =
      source.exifMetadata (buildDecodeLimits otherLimit).maxAlloc

theorem decodeWebp_agree
    (alike : ∀ source, codecs.openWebp bytes = .ok source →
      source.ReadAlike codecs query limit otherLimit) :
    BothOk (DecodedAlike query) (decodeWebp codecs bytes limit)
      (decodeWebp codecs bytes otherLimit) := by
  refine (BothOk.refl _).bind fun source other sourceOk _ same => ?_
  subst same
  obtain ⟨orientation, icc, exif⟩ := alike source (Failure.withContext_ok sourceOk)
  refine (BothOk.unit _ _).bind fun _ _ _ _ _ => ?_
  refine (BothOk.refl _).bind fun image otherImage _ _ imageSame => ?_
  exact BothOk.pure_pure ⟨imageSame, orientation, icc, exif⟩

theorem decodeAvif_agree :
    BothOk Eq (decodeAvif codecs bytes limit) (decodeAvif codecs bytes otherLimit) :=
  (BothOk.refl _).bind_eq fun _ => (BothOk.unit _ _).bind_eq fun _ => BothOk.refl _

theorem decodeWithLimits_agree
    (alike : format = some .webp → ∀ source, codecs.openWebp bytes = .ok source →
      source.ReadAlike codecs query limit otherLimit) :
    BothOk (DecodedAlike query) (decodeWithLimits codecs bytes format limit query)
      (decodeWithLimits codecs bytes format otherLimit query) := by
  have equal {one other : Except Failure (DecodedImage Content)} (same : BothOk Eq one other) :
      BothOk (DecodedAlike query) one other := same.mono fun _ _ => DecodedAlike.of_eq query
  match format with
  | some .jpeg => exact equal (decodeWithLimits_jpeg_agree codecs query bytes limit otherLimit)
  | some .webp => exact decodeWebp_agree codecs query bytes limit otherLimit (alike rfl)
  | some .avif => exact equal (decodeAvif_agree codecs bytes limit otherLimit)
  | none | some .png | some .gif =>
      exact equal (decodeWithImageCrate_agree codecs bytes _ limit otherLimit _)

end Decode

section Process

variable {first second : PerformanceConfig} (bytes : List UInt8)
variable {watermarkBytes otherWatermark : Option (List UInt8)}

theorem prepareStill_agree {one other : DecodedImage Content}
    (alike : DecodedAlike query one other) :
    prepareStill lib query one = prepareStill lib query other := by
  have turned : autorotate lib query one = autorotate lib query other := by
    unfold autorotate
    split
    case isTrue autorotates => rw [alike.image, alike.orientation autorotates]
    case isFalse => exact alike.image
  simp only [prepareStill, turned]

theorem sourceMetadata_alike {one other : DecodedImage Content}
    (alike : DecodedAlike query one other) :
    SourceMetadataAlike query (one.sourceMetadata query) (other.sourceMetadata query) := by
  constructor
  case icc => exact alike.icc
  case exif =>
      intro written
      cases stripped : query.stripMetadata with
      | true => simp only [resolveExif, stripped, if_true]
      | false =>
          have applied : (query.autorotate && decide (one.orientation ≠ .noTransforms)) =
              (query.autorotate && decide (other.orientation ≠ .noTransforms)) := by
            cases autorotates : query.autorotate with
            | false => rfl
            | true => rw [alike.orientation autorotates]
          simp only [DecodedImage.sourceMetadata, alike.exif written stripped, applied]

theorem encodeStill_agree (watermarks : WatermarksAlike query watermarkBytes otherWatermark)
    {one other : DecodedImage Content} (alike : DecodedAlike query one other)
    (defaults : DefaultsAgree query first second) :
    BothOk Eq (encodeStill lib codecs encoders query first watermarkBytes one)
      (encodeStill lib codecs encoders query second otherWatermark other) := by
  refine (BothOk.of_eq (prepareStill_agree lib query alike)).bind_eq fun image => ?_
  exact encodeSingleImage_agree lib codecs encoders query image watermarks image.size
    (sourceMetadata_alike query alike) defaults

/-- The limit on the number of frames only rejects. -/
theorem collectFramesCapped_agree (size : Size) (maxFrames otherMax index : Nat)
    (frames : List (Except String (Content × Delay))) :
    BothOk Eq (collectFramesCapped size maxFrames index frames)
      (collectFramesCapped size otherMax index frames) := by
  induction frames generalizing index with
  | nil => exact BothOk.refl _
  | cons frame rest ih =>
      unfold collectFramesCapped
      split
      case isTrue => exact BothOk.error_left _ _
      case isFalse =>
          split
          case isTrue => exact BothOk.error_right _ _
          case isFalse =>
              exact (BothOk.refl _).bind_eq fun _ => (ih (index + 1)).bind_eq fun _ => BothOk.refl _

theorem decodeGifFrames_agree :
    BothOk Eq (decodeGifFrames codecs bytes first) (decodeGifFrames codecs bytes second) := by
  refine (BothOk.refl _).bind_eq fun source => ?_
  refine (BothOk.unit _ _).bind_eq fun _ => ?_
  refine (BothOk.unit _ _).bind_eq fun _ => ?_
  exact (collectFramesCapped_agree source.size _ _ 0 source.frames).bind_eq fun _ => BothOk.refl _

theorem webpFrameBuffer_agree (source : WebpSource Content) :
    BothOk Eq (webpFrameBuffer first source) (webpFrameBuffer second source) := by
  refine (BothOk.unit _ _).bind_eq fun _ => ?_
  split
  case isTrue => exact BothOk.error_left _ _
  case isFalse =>
      split
      case isTrue => exact BothOk.error_right _ _
      case isFalse => exact BothOk.refl _

theorem decodeAnimated_agree (format : Option SourceFormat) :
    BothOk Eq (decodeAnimated lib codecs query first bytes format)
      (decodeAnimated lib codecs query second bytes format) := by
  unfold decodeAnimated
  match format with
  | none => exact BothOk.refl _
  | some format =>
      dsimp only
      split
      case isFalse => exact BothOk.refl _
      case isTrue =>
          cases format with
          | jpeg | png | avif => exact BothOk.refl _
          | gif =>
              exact (decodeGifFrames_agree codecs bytes).lift.map fun _ _ same => congrArg some same
          | webp =>
              refine (BothOk.refl _).bind_eq fun source => ?_
              split
              case isFalse => exact BothOk.refl _
              case isTrue =>
                  refine BothOk.map ?_ fun _ _ same => congrArg some same
                  exact (webpFrameBuffer_agree source).lift.bind_eq fun _ => BothOk.refl _

/-- A WebP source that the animated branch leaves to the still one is not animated. -/
theorem decodeAnimated_still {format : Option SourceFormat} {config : PerformanceConfig}
    (ok : decodeAnimated lib codecs query config bytes format = .ok none)
    (isWebp : format = some .webp) (wanted : wantsAnimatableOutput query = true)
    {source : WebpSource Content} (opened : codecs.openWebp bytes = .ok source) :
    source.animated = false := by
  subst isWebp
  simp only [decodeAnimated, wanted, if_true] at ok
  obtain ⟨header, headerOk, rest⟩ := (Outcome.bind_ok_iff ..).mp ok
  have same : header = source := by
    have headerOpened := Failure.withContext_ok ((Outcome.lift_ok_iff ..).mp headerOk)
    exact Except.ok.inj (headerOpened.symm.trans opened)
  subst same
  cases animated : header.animated with
  | false => rfl
  | true =>
      simp only [animated, if_true] at rest
      cases frames : decodeWebpFrames config lib header with
      | ok value => simp [frames, Functor.map, Except.map] at rest
      | error stop => simp [frames, Functor.map, Except.map] at rest

/-- The metadata of a still WebP source is read alike by two deployments. -/
def MetadataAgrees (first second : PerformanceConfig) : Prop :=
  detectFormatFromBytes bytes = some .webp →
    ∀ source, codecs.openWebp bytes = .ok source →
      (wantsAnimatableOutput query = true → source.animated = false) →
        source.ReadAlike codecs query first.maxSrcResolutionMp.toNat
          second.maxSrcResolutionMp.toNat

/-- The source is animated frame by frame, which draws no watermark. -/
def Animates (config : PerformanceConfig) : Prop :=
  ∃ first second rest size, decodeAnimated lib codecs query config bytes
    (detectFormatFromBytes bytes) = .ok (some (first :: second :: rest, size))

/-- The CPU stage on the same source. -/
theorem processImageBlocking_agree
    (watermarks : ¬ Animates lib codecs query bytes first →
      WatermarksAlike query watermarkBytes otherWatermark)
    (metadata : MetadataAgrees codecs query bytes first second)
    (defaults : DefaultsAgree query first second) :
    BothOk Eq (processImageBlocking lib codecs encoders query first bytes watermarkBytes)
      (processImageBlocking lib codecs encoders query second bytes otherWatermark) := by
  refine (BothOk.unit _ _).bind_eq fun _ => ?_
  refine (decodeAnimated_agree lib codecs query bytes _).bind fun found other foundOk _ same => ?_
  subst same
  match found with
  | some ([], source) => exact BothOk.refl _
  | some ([frame], source) =>
      have single : ¬ Animates lib codecs query bytes first := by
        rintro ⟨_, _, _, _, animates⟩
        cases foundOk.symm.trans animates
      exact encodeSingleImage_agree lib codecs encoders query frame.image (watermarks single)
        source ⟨fun _ => rfl, fun _ => rfl⟩ defaults
  | some (frame :: next :: rest, source) => exact BothOk.refl _
  | none =>
      have still : ¬ Animates lib codecs query bytes first := by
        rintro ⟨_, _, _, _, animates⟩
        cases foundOk.symm.trans animates
      have alike (isWebp : detectFormatFromBytes bytes = some .webp) (source : WebpSource Content)
          (opened : codecs.openWebp bytes = .ok source) :=
        metadata isWebp source opened fun wanted =>
          decodeAnimated_still lib codecs query bytes foundOk isWebp wanted opened
      have decodes : BothOk (DecodedAlike query)
          (decodeStill codecs query first bytes (detectFormatFromBytes bytes))
          (decodeStill codecs query second bytes (detectFormatFromBytes bytes)) := by
        refine (BothOk.refl _).bind fun _ _ _ _ _ => ?_
        refine (BothOk.unit _ _).bind fun _ _ _ _ _ => ?_
        exact decodeWithLimits_agree codecs query bytes _ _ _ alike
      exact decodes.lift.bind fun _ _ _ _ decodedAlike =>
        encodeStill_agree lib codecs encoders query (watermarks still) decodedAlike defaults

end Process

section Settings

variable (config : PerformanceConfig)

/-- What an encoder writes that records the settings a configuration decides. -/
def settingsBytes (noSubsampling progressive : Bool) : List UInt8 :=
  [if noSubsampling then 1 else 0, if progressive then 1 else 0]

/-- Encoders whose JPEG output is their settings. -/
def Encoders.settings : Encoders Content :=
  { Encoders.blank with
    jpeg := fun settings _ _ => .ok (settingsBytes settings.noSubsampling settings.progressive) }

end Settings

section Work

variable (urls : UrlLibrary) (statusText : Nat → String) (origin : String → List UInt8)
variable {first second : Deployment urls}

/-- Every download of a deployment that succeeds gives what the origin holds at the URL. -/
structure Deployment.ServedBy (deployment : Deployment urls) : Prop where
  source : ∀ url bytes, (Fetch.downloadImage urls deployment.config deployment.source statusText
    url).result = .ok bytes → bytes = origin url
  watermark : ∀ url bytes, (Fetch.downloadImage urls deployment.config deployment.watermark
    statusText url).result = .ok bytes → bytes = origin url

/-- The watermark a request falls back to is the same at two deployments, or not drawn. -/
def FallbacksAgree (first second : PerformanceConfig) : Prop :=
  ∀ watermark, query.watermark = some watermark → watermark.Drawn → watermark.url = none →
    ∀ url other, first.watermarkUrl = some url → second.watermarkUrl = some other →
      origin url = origin other

theorem downloadWatermark_ok {deployment : Deployment urls}
    (served : deployment.ServedBy urls statusText origin) {bytes : Option (List UInt8)}
    (ok : (Fetch.downloadWatermarkIfNeeded urls deployment.config deployment.watermark statusText
      query).result = .ok bytes) :
    (query.watermark = none ∧ bytes = none) ∨
      ∃ watermark url, query.watermark = some watermark ∧
        (watermark.url <|> deployment.config.watermarkUrl) = some url ∧
          bytes = some (origin url) := by
  unfold Fetch.downloadWatermarkIfNeeded Fetch.watermarkUrl at ok
  cases asked : query.watermark with
  | none =>
      simp only [asked] at ok
      cases ok
      exact .inl ⟨rfl, rfl⟩
  | some watermark =>
      simp only [asked] at ok
      cases resolved : (watermark.url <|> deployment.config.watermarkUrl) with
      | none => simp [resolved, Traced.fail] at ok
      | some url =>
          simp only [resolved] at ok
          split at ok
          case h_1 => cases ok
          case h_2 downloaded downloads =>
              cases ok
              have same := served.watermark url downloaded downloads
              exact .inr ⟨watermark, url, rfl, resolved, congrArg some same⟩

theorem downloadWatermark_alike (firstServed : first.ServedBy urls statusText origin)
    (secondServed : second.ServedBy urls statusText origin) :
    BothOk (fun one other => FallbacksAgree query origin first.config second.config →
        WatermarksAlike query one other)
      (Fetch.downloadWatermarkIfNeeded urls first.config first.watermark statusText query).result
      (Fetch.downloadWatermarkIfNeeded urls second.config second.watermark statusText
        query).result := by
  intro one other oneOk otherOk fallbacks
  rcases downloadWatermark_ok query urls statusText origin firstServed oneOk with
    ⟨absent, rfl⟩ | ⟨watermark, url, asked, resolved, rfl⟩
  case inl =>
      rcases downloadWatermark_ok query urls statusText origin secondServed otherOk with
        ⟨-, rfl⟩ | ⟨watermark, url, asked, -, -⟩
      case inl => exact .of_eq query rfl
      case inr => cases absent.symm.trans asked
  case inr =>
      rcases downloadWatermark_ok query urls statusText origin secondServed otherOk with
        ⟨absent, rfl⟩ | ⟨other, otherUrl, otherAsked, otherResolved, rfl⟩
      case inl => cases absent.symm.trans asked
      case inr =>
          cases asked.symm.trans otherAsked
          refine ⟨rfl, fun same sameAsked drawn => ?_⟩
          cases asked.symm.trans sameAsked
          cases own : watermark.url with
          | some ownUrl =>
              rw [own] at resolved otherResolved
              cases resolved
              cases otherResolved
              rfl
          | none =>
              rw [own] at resolved otherResolved
              exact congrArg some
                (fallbacks watermark asked drawn own url otherUrl resolved otherResolved)

/-- Two deployments on one origin, whose configurations agree where a result depends on
them, make the same bytes and content type of one request. -/
theorem doResizeWork_agree (firstServed : first.ServedBy urls statusText origin)
    (secondServed : second.ServedBy urls statusText origin)
    (fallbacks : ¬ Animates lib codecs query (origin query.url) first.config →
      FallbacksAgree query origin first.config second.config)
    (metadata : MetadataAgrees codecs query (origin query.url) first.config second.config)
    (defaults : DefaultsAgree query first.config second.config) :
    BothOk Eq (doResizeWork lib codecs encoders urls statusText first query)
      (doResizeWork lib codecs encoders urls statusText second query) := by
  have sources : BothOk (fun bytes other => bytes = origin query.url ∧ other = origin query.url)
      (Fetch.downloadImage urls first.config first.source statusText query.url).result
      (Fetch.downloadImage urls second.config second.source statusText query.url).result :=
    fun bytes other bytesOk otherOk =>
      ⟨firstServed.source _ _ bytesOk, secondServed.source _ _ otherOk⟩
  refine sources.lift.bind ?_
  rintro bytes other - - ⟨rfl, rfl⟩
  refine (downloadWatermark_alike query urls statusText origin firstServed secondServed).lift.bind
    fun one otherOne _ _ alike => ?_
  exact processImageBlocking_agree lib codecs encoders query (origin query.url)
    (fun still => alike (fallbacks still)) metadata defaults

end Work

section Photo

/-- URLs that are their own text, all on one public address. -/
def plainUrls : UrlLibrary where
  Url := String
  parse text := .ok text
  join _ text := .ok text
  scheme _ := "https"
  hostStr _ := some "8.8.8.8"
  portOrKnownDefault _ := some 443
  path _ := "/"
  toString text := text

/-- The first bytes of a JPEG file. -/
def photo : List UInt8 :=
  [0xFF, 0xD8, 0xFF, 0xE0, 0x00, 0x10, 0x4A, 0x46, 0x49, 0x46, 0x00, 0x01]

/-- An origin that answers every request with one photo. -/
def photoNetwork : Network plainUrls where
  lookupHost _ _ _ := .error "not asked"
  buildClient _ _ _ := .ok ()
  send _ _ _ :=
    .ok { status := 200, location := none, contentLength := none, body := [.ok photo] }

def photoDeployment (progressive : Bool) : Deployment plainUrls :=
  ⟨{ PerformanceConfig.default with jpegProgressiveDefault := progressive }, photoNetwork,
    photoNetwork⟩

/-- Decoders that find an opaque image of one pixel. -/
def pixelCodecs : Codecs Unit :=
  { Codecs.blank with
    dimensions := fun _ _ => .ok (.floored 1 1)
    openStill := fun _ _ => .ok
      { size := .floored 1 1, totalBytes := 3, orientation := none, iccProfile := none
        exifMetadata := none, pixels := .ok (.rgb8, ()) }
    jpegScaled := fun _ _ => .ok ⟨.floored 1 1, .rgb8, ()⟩ }

theorem photo_served (progressive : Bool) :
    (photoDeployment progressive).ServedBy plainUrls toString fun _ => photo :=
  ⟨fun _ _ ok => (Except.ok.inj ok).symm, fun _ _ ok => (Except.ok.inj ok).symm⟩

end Photo

end ImageResizer
