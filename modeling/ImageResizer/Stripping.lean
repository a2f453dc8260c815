import ImageResizer.Foundation.Lockstep
import ImageResizer.Pipeline

/-!
# Stripped metadata

With metadata stripped, nothing of a source's EXIF but the orientation it asks for reaches
what is written: two sources that the decoders read alike but for their EXIF end alike.
-/

namespace ImageResizer

variable {Content : Type}

/-! ## Sources that differ in their EXIF -/

def StillSource.SameButExif (source other : StillSource Content) : Prop :=
  ∃ exifMetadata, other = { source with exifMetadata }

/-- The EXIF of a WebP is where its orientation comes from. -/
def WebpSource.SameButExif (codecs : Codecs Content) (source other : WebpSource Content) : Prop :=
  ∃ exifMetadata, other = { source with exifMetadata } ∧
    ∀ limit, (exifMetadata limit).bind codecs.orientationFromExif =
      (source.exifMetadata limit).bind codecs.orientationFromExif

def DecodedImage.SameButExif (decoded other : DecodedImage Content) : Prop :=
  ∃ exifMetadata, other = { decoded with exifMetadata }

/-- Decode limits are about sizes. -/
def Codecs.LimitsIgnoreExif (codecs : Codecs Content) : Prop :=
  ∀ limits source exifMetadata,
    codecs.stillAdmits limits { source with exifMetadata } = codecs.stillAdmits limits source

/-- Two files that every decoder reads alike but for their EXIF. -/
structure SameButExif (codecs : Codecs Content) (bytes bytes' : List UInt8) : Prop where
  format : detectFormatFromBytes bytes = detectFormatFromBytes bytes'
  guessed : codecs.guessFormat bytes = codecs.guessFormat bytes'
  dimensions : ∀ format, codecs.dimensions format bytes = codecs.dimensions format bytes'
  still : ∀ format, Lockstep StillSource.SameButExif (codecs.openStill format bytes)
    (codecs.openStill format bytes')
  jpegScaled : codecs.jpegScaled bytes = codecs.jpegScaled bytes'
  gif : codecs.openGif bytes = codecs.openGif bytes'
  webp : Lockstep (WebpSource.SameButExif codecs) (codecs.openWebp bytes) (codecs.openWebp bytes')
  avifContainer : codecs.avifContainer bytes = codecs.avifContainer bytes'
  avifSequenceHeader : codecs.avifSequenceHeader bytes = codecs.avifSequenceHeader bytes'
  avifDecoder : codecs.avifDecoder bytes = codecs.avifDecoder bytes'
  avifPixels : codecs.avifPixels bytes = codecs.avifPixels bytes'
  avifOrientation : (AvifMeta.parse bytes).orientation = (AvifMeta.parse bytes').orientation

/-! ## The decoders -/

section Decode

variable {codecs : Codecs Content} {bytes bytes' : List UInt8} {format : Option SourceFormat}
variable {maxSrcResolutionMp : Nat} {query : ResizeQuery}

theorem lockstep_withContext {α β : Type} {related : α → β → Prop} {first : Except String α}
    {second : Except String β} (text : String) (steps : Lockstep related first second) :
    Lockstep related (Failure.withContext text first) (Failure.withContext text second) := by
  cases steps with
  | ok holds => exact .ok holds
  | error _ => exact .error _

theorem SameButExif.makeReader (same : SameButExif codecs bytes bytes') :
    makeReader codecs bytes format = makeReader codecs bytes' format := by
  unfold ImageResizer.makeReader
  rw [same.guessed]

theorem SameButExif.avifHeader (same : SameButExif codecs bytes bytes') :
    avifHeader codecs bytes = avifHeader codecs bytes' := by
  unfold ImageResizer.avifHeader
  rw [same.avifContainer, same.avifSequenceHeader]

theorem SameButExif.peekDimensions (same : SameButExif codecs bytes bytes') :
    peekDimensions codecs bytes format = peekDimensions codecs bytes' format := by
  unfold ImageResizer.peekDimensions
  rw [same.avifHeader, same.makeReader, same.dimensions]
  split
  case h_1 => rfl
  case h_2 =>
      refine (lockstep_withContext _ same.webp).bind_eq ?_
      rintro source _ ⟨exif, rfl, -⟩
      rfl
  case h_3 => rfl

theorem SameButExif.openLimited (ignores : codecs.LimitsIgnoreExif)
    (same : SameButExif codecs bytes bytes') (text : String) :
    Lockstep StillSource.SameButExif (openLimited codecs bytes format maxSrcResolutionMp text)
      (openLimited codecs bytes' format maxSrcResolutionMp text) := by
  unfold ImageResizer.openLimited
  rw [same.makeReader]
  refine (Lockstep.of_eq rfl).bind fun _ _ _ => ?_
  refine (lockstep_withContext _ (same.still format)).bind ?_
  rintro source _ ⟨exif, rfl⟩
  have reserves : reserveAlloc codecs maxSrcResolutionMp { source with exifMetadata := exif } =
      reserveAlloc codecs maxSrcResolutionMp source := by
    unfold reserveAlloc
    congr 1
    funext reserved
    rw [ignores reserved source exif]
  rw [ignores _ source exif, reserves]
  refine (Lockstep.of_eq rfl).bind fun _ _ _ => (Lockstep.of_eq rfl).bind fun _ _ _ => ?_
  exact .ok ⟨exif, rfl⟩

/-- What is made of two such decoders and one image. -/
theorem StillSource.SameButExif.decoded {source other : StillSource Content} (wantMetadata : Bool)
    (image : Raster Content) (same : source.SameButExif other) :
    (source.decoded wantMetadata image).SameButExif (other.decoded wantMetadata image) := by
  obtain ⟨exif, rfl⟩ := same
  exact ⟨_, rfl⟩

theorem SameButExif.decodeWithImageCrate (ignores : codecs.LimitsIgnoreExif)
    (same : SameButExif codecs bytes bytes') (wantMetadata : Bool) :
    Lockstep DecodedImage.SameButExif
      (decodeWithImageCrate codecs bytes format maxSrcResolutionMp wantMetadata)
      (decodeWithImageCrate codecs bytes' format maxSrcResolutionMp wantMetadata) := by
  refine (same.openLimited ignores _).bind fun source other alike => ?_
  have pixels : fromDecoder source = fromDecoder other := by
    obtain ⟨exif, rfl⟩ := alike
    rfl
  refine (Lockstep.of_eq pixels).bind ?_
  rintro image _ rfl
  exact .ok (alike.decoded wantMetadata image)

theorem SameButExif.decodeJpegScaled (ignores : codecs.LimitsIgnoreExif)
    (same : SameButExif codecs bytes bytes') :
    Lockstep DecodedImage.SameButExif (decodeJpegScaled codecs bytes maxSrcResolutionMp query)
      (decodeJpegScaled codecs bytes' maxSrcResolutionMp query) := by
  refine (same.openLimited ignores _).bind fun source other alike => ?_
  have pixels : jpegPixels codecs bytes source (plannedScale query source.size
        (source.orientation.getD .noTransforms)) =
      jpegPixels codecs bytes' other (plannedScale query other.size
        (other.orientation.getD .noTransforms)) := by
    obtain ⟨exif, rfl⟩ := alike
    unfold jpegPixels
    rw [same.jpegScaled]
    rfl
  refine (Lockstep.of_eq pixels).bind ?_
  rintro image _ rfl
  exact .ok (alike.decoded _ image)

theorem SameButExif.decodeWebp (same : SameButExif codecs bytes bytes') :
    Lockstep DecodedImage.SameButExif (decodeWebp codecs bytes maxSrcResolutionMp)
      (decodeWebp codecs bytes' maxSrcResolutionMp) := by
  refine (lockstep_withContext _ same.webp).bind ?_
  rintro source _ ⟨exif, rfl, orientation⟩
  refine (Lockstep.of_eq rfl).bind fun _ _ _ => (Lockstep.of_eq rfl).bind ?_
  rintro image _ rfl
  refine .ok ⟨exif (buildDecodeLimits maxSrcResolutionMp).maxAlloc, ?_⟩
  simp only [orientation]

theorem SameButExif.decodeAvif (same : SameButExif codecs bytes bytes') :
    Lockstep DecodedImage.SameButExif (decodeAvif codecs bytes maxSrcResolutionMp)
      (decodeAvif codecs bytes' maxSrcResolutionMp) := by
  unfold ImageResizer.decodeAvif
  rw [same.avifHeader, same.avifDecoder, same.avifPixels]
  refine (Lockstep.of_eq rfl).bind ?_
  rintro size _ rfl
  refine (Lockstep.of_eq rfl).bind fun _ _ _ => (Lockstep.of_eq rfl).bind fun _ _ _ => ?_
  refine (Lockstep.of_eq rfl).bind ?_
  rintro image _ rfl
  refine .ok ⟨(AvifMeta.parse bytes').exif, ?_⟩
  rw [same.avifOrientation]

theorem SameButExif.decodeUnscaled (ignores : codecs.LimitsIgnoreExif)
    (same : SameButExif codecs bytes bytes') :
    Lockstep DecodedImage.SameButExif
      (decodeUnscaled codecs bytes format maxSrcResolutionMp query)
      (decodeUnscaled codecs bytes' format maxSrcResolutionMp query) := by
  unfold ImageResizer.decodeUnscaled
  split
  case h_1 => exact same.decodeWebp
  case h_2 => exact same.decodeAvif
  case h_3 => exact same.decodeWithImageCrate ignores _

theorem SameButExif.decodeWithLimits (ignores : codecs.LimitsIgnoreExif)
    (same : SameButExif codecs bytes bytes') :
    Lockstep DecodedImage.SameButExif
      (decodeWithLimits codecs bytes format maxSrcResolutionMp query)
      (decodeWithLimits codecs bytes' format maxSrcResolutionMp query) := by
  unfold ImageResizer.decodeWithLimits
  split
  case isTrue =>
      have steps : Lockstep DecodedImage.SameButExif
          (ImageResizer.decodeJpegScaled codecs bytes maxSrcResolutionMp query)
          (ImageResizer.decodeJpegScaled codecs bytes' maxSrcResolutionMp query) :=
        same.decodeJpegScaled ignores
      obtain ⟨decoded, other, scaled, scaled', alike⟩ | ⟨_, failed, failed'⟩ := steps.ok_or_error
      · rw [scaled, scaled']
        exact .ok alike
      · rw [failed, failed']
        exact same.decodeUnscaled ignores
  case isFalse => exact same.decodeUnscaled ignores

theorem SameButExif.decodeStill (ignores : codecs.LimitsIgnoreExif)
    (same : SameButExif codecs bytes bytes') (config : PerformanceConfig) :
    Lockstep DecodedImage.SameButExif (decodeStill codecs query config bytes format)
      (decodeStill codecs query config bytes' format) := by
  unfold ImageResizer.decodeStill
  rw [same.peekDimensions]
  refine (Lockstep.of_eq rfl).bind ?_
  rintro size _ rfl
  exact (Lockstep.of_eq rfl).bind fun _ _ _ => same.decodeWithLimits ignores

/-- No animation decoder reads EXIF. -/
theorem SameButExif.decodeAnimated (same : SameButExif codecs bytes bytes')
    (lib : Imaging Content) (config : PerformanceConfig) :
    decodeAnimated lib codecs query config bytes format =
      decodeAnimated lib codecs query config bytes' format := by
  unfold ImageResizer.decodeAnimated
  cases format with
  | none => rfl
  | some format =>
      dsimp only
      split
      case isTrue =>
          cases format with
          | gif =>
              unfold decodeAnimationSource decodeGifFrames
              rw [same.gif]
          | webp =>
              refine (lockstep_withContext _ same.webp).lift.bind_eq ?_
              rintro source _ ⟨exif, rfl, -⟩
              rfl
          | jpeg | png | avif => rfl
      case isFalse => rfl

end Decode

/-! ## The pipeline -/

variable (lib : Imaging Content) {codecs : Codecs Content} (encoders : Encoders Content)
variable {query : ResizeQuery} (config : PerformanceConfig) {bytes bytes' : List UInt8}
variable (watermarkBytes : Option (List UInt8))

/-- A stripped still image is encoded from its pixels, its orientation and its profile. -/
theorem encodeStill_stripped (strips : query.stripMetadata = true)
    {decoded other : DecodedImage Content} (same : decoded.SameButExif other) :
    encodeStill lib codecs encoders query config watermarkBytes decoded =
      encodeStill lib codecs encoders query config watermarkBytes other := by
  obtain ⟨exif, rfl⟩ := same
  unfold encodeStill encodeSingleImage resolveExif
  simp only [strips, if_true]
  rfl

/-- **Stripped metadata leaves no trace.**  Two sources that the decoders read alike but for
their EXIF are answered alike, with the same bytes or the same error, by every request that
strips metadata: nothing that is written depends on it, except for the orientation. -/
theorem stripped_leaves_no_trace (ignores : codecs.LimitsIgnoreExif)
    (same : SameButExif codecs bytes bytes') (strips : query.stripMetadata = true) :
    processImageBlocking lib codecs encoders query config bytes watermarkBytes =
      processImageBlocking lib codecs encoders query config bytes' watermarkBytes := by
  unfold processImageBlocking
  rw [same.format]
  congr 1
  funext _
  dsimp only
  rw [same.decodeAnimated lib config]
  congr 1
  funext animation
  cases animation with
  | some animation => rfl
  | none =>
      refine (same.decodeStill ignores config).lift.bind_eq fun decoded other alike => ?_
      exact encodeStill_stripped lib encoders config watermarkBytes strips alike

section Tagged

/-- Decoders that find an opaque image of one pixel, and take the whole file for its EXIF. -/
def taggedCodecs : Codecs Unit :=
  { Codecs.blank with
    dimensions := fun _ _ => .ok (.floored 1 1)
    openStill := fun _ bytes => .ok
      { size := .floored 1 1, totalBytes := 3, orientation := none, iccProfile := none
        exifMetadata := some bytes, pixels := .ok (.rgb8, ()) }
    jpegScaled := fun _ _ => .ok ⟨.floored 1 1, .rgb8, ()⟩ }

/-- A JPEG file, but for its EXIF. -/
def taggedPhoto (exif : UInt8) : List UInt8 :=
  [0xFF, 0xD8, 0xFF, 0xE1, 0x00, 0x10, 0x45, 0x78, 0x69, 0x66, 0x00, exif]

theorem taggedPhoto_sameButExif :
    SameButExif taggedCodecs (taggedPhoto 1) (taggedPhoto 2) where
  format := by decide
  guessed := rfl
  dimensions _ := rfl
  still _ := .ok ⟨some (taggedPhoto 2), rfl⟩
  jpegScaled := rfl
  gif := rfl
  webp := .error _
  avifContainer := rfl
  avifSequenceHeader := rfl
  avifDecoder := rfl
  avifPixels := rfl
  avifOrientation := by decide

/-- An encoder that writes the EXIF it is given. -/
def taggedEncoders : Encoders Unit :=
  { Encoders.blank with jpeg := fun _ metadata _ => .ok (metadata.exif.getD []) }

/-- Two files with different EXIF, resized with metadata stripped. -/
theorem stripped_leaves_no_trace_tagged :
    processImageBlocking .blank taggedCodecs taggedEncoders
        { ResizeQuery.default with stripMetadata := true } .default (taggedPhoto 1) none =
      processImageBlocking .blank taggedCodecs taggedEncoders
        { ResizeQuery.default with stripMetadata := true } .default (taggedPhoto 2) none :=
  stripped_leaves_no_trace .blank taggedEncoders .default none (fun _ _ _ => rfl)
    taggedPhoto_sameButExif rfl

end Tagged

end ImageResizer
