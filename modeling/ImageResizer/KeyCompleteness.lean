import ImageResizer.KeyCommitment
import ImageResizer.Storage.KeyGrammar

/-!
# The key is enough

Two requests under one key are answered with the same bytes by any one deployment and
network: what the key leaves out of a request, no stage reads.
-/

namespace ImageResizer

open SourceGuard (UrlLibrary)
open CacheKey (canonicalBlur)
open Text

variable {Content : Type} (lib : Imaging Content) (codecs : Codecs Content)
variable (encoders : Encoders Content) (query : ResizeQuery) (config : PerformanceConfig)

/-! ## The blur sigma -/

section Blur

/-- Only a positive sigma blurs. -/
theorem applyFilters_canonicalBlur (image : Raster Content) :
    applyFilters lib (canonicalBlur query) image = applyFilters lib query image := by
  cases asked : query.blurSigma with
  | none => simp [applyFilters, canonicalBlur, CacheKey.canonicalBlurSigma, asked]
  | some sigma =>
      by_cases positive : sigma.value.isPositive
      · simp [applyFilters, canonicalBlur, CacheKey.canonicalBlurSigma, asked, positive, Option.filter]
      · simp [applyFilters, canonicalBlur, CacheKey.canonicalBlurSigma, asked, positive, Option.filter]

theorem resizeAndFilter_canonicalBlur :
    resizeAndFilter lib (canonicalBlur query) = resizeAndFilter lib query := by
  funext box filter source image
  unfold resizeAndFilter
  simp only [applyFilters_canonicalBlur]
  rfl

theorem encodeSingleImage_canonicalBlur :
    encodeSingleImage lib codecs encoders (canonicalBlur query) =
      encodeSingleImage lib codecs encoders query := by
  funext config watermarkBytes metadata source image
  unfold encodeSingleImage transformSingle
  simp only [resizeAndFilter_canonicalBlur]
  rfl

theorem encodeAnimation_canonicalBlur :
    encodeAnimation lib encoders (canonicalBlur query) = encodeAnimation lib encoders query := by
  have frames : animateFrame lib (canonicalBlur query) = animateFrame lib query := by
    funext source frame
    unfold animateFrame
    simp only [resizeAndFilter_canonicalBlur]
    rfl
  funext decoded source
  unfold encodeAnimation
  simp only [frames]
  rfl

theorem encodeFrames_canonicalBlur :
    encodeFrames lib codecs encoders (canonicalBlur query) =
      encodeFrames lib codecs encoders query := by
  funext config watermarkBytes frames source
  unfold encodeFrames
  simp only [encodeSingleImage_canonicalBlur, encodeAnimation_canonicalBlur]

theorem encodeStill_canonicalBlur :
    encodeStill lib codecs encoders (canonicalBlur query) =
      encodeStill lib codecs encoders query := by
  funext config watermarkBytes decoded
  unfold encodeStill
  simp only [encodeSingleImage_canonicalBlur]
  rfl

theorem processImageBlocking_canonicalBlur :
    processImageBlocking lib codecs encoders (canonicalBlur query) =
      processImageBlocking lib codecs encoders query := by
  funext config bytes watermarkBytes
  unfold processImageBlocking
  simp only [encodeFrames_canonicalBlur, encodeStill_canonicalBlur]
  rfl

theorem doResizeWork_canonicalBlur (urls : UrlLibrary) (statusText : Nat → String)
    (deployment : Deployment urls) :
    doResizeWork lib codecs encoders urls statusText deployment (canonicalBlur query) =
      doResizeWork lib codecs encoders urls statusText deployment query := by
  unfold doResizeWork
  simp only [processImageBlocking_canonicalBlur]
  rfl

end Blur

/-! ## Equal keys -/

theorem lowerHexDigit_injective :
    ∀ m < 16, ∀ n < 16, lowerHexDigit m = lowerHexDigit n → m = n := by
  decide

theorem lowerHex_injective {one other : List UInt8} (same : lowerHex one = lowerHex other) :
    one = other := by
  have digits := congrArg String.toList same
  simp only [lowerHex, String.toList_ofList] at digits
  induction one generalizing other with
  | nil =>
      cases other with
      | nil => rfl
      | cons byte bytes => simp at digits
  | cons byte bytes ih =>
      cases other with
      | nil => simp at digits
      | cons byte' bytes' =>
          simp only [List.flatMap_cons, List.cons_append, List.nil_append, List.cons.injEq]
            at digits
          obtain ⟨highs, lows, rest⟩ := digits
          have small := byte.toNat_lt
          have small' := byte'.toNat_lt
          have high := lowerHexDigit_injective _ (by omega) _ (by omega) highs
          have low := lowerHexDigit_injective _ (by omega) _ (by omega) lows
          have bytes_eq : byte = byte' := UInt8.toNat_inj.mp (by omega)
          rw [bytes_eq, ih (String.toList_inj.mp (by simpa [lowerHex] using rest)) rest]

variable (display : FloatDisplay) (sha256 : List UInt8 → Vector UInt8 32) (minioSubPath : String)

/-- What may be asked of everybody who writes under one sub-path of a storage: each field fits
its length prefix, no two streams collide under SHA-256, and no two requests differ just in an
absent watermark URL against one that reads `None`. -/
structure Distinguished (asked : ResizeQuery → Prop) : Prop where
  sized : ∀ {query}, asked query → CacheKey.Sized display query
  collisionFree : ∀ {query other}, asked query → asked other →
    sha256 (CacheKey.stream display query) = sha256 (CacheKey.stream display other) →
      CacheKey.stream display query = CacheKey.stream display other
  named : ∀ {query other}, asked query → asked other → ¬ CacheKey.UrlNamedNone query other

variable {display sha256 minioSubPath}

/-- The digests are as long as each other, so equal keys have equal ones. -/
theorem digest_of_key {query other : ResizeQuery}
    (same : CacheKey.generateKey display (digestText sha256) minioSubPath query =
      CacheKey.generateKey display (digestText sha256) minioSubPath other) :
    sha256 (CacheKey.stream display query) = sha256 (CacheKey.stream display other) := by
  have chars := congrArg String.toList same
  simp only [CacheKey.generateKey, String.toList_append, List.append_assoc] at chars
  have lengths : (digestText sha256 (CacheKey.stream display query)).toList.length =
      (digestText sha256 (CacheKey.stream display other)).toList.length := by
    simp only [digestText, length_lowerHex, Vector.length_toList]
  obtain ⟨digests, -⟩ := List.append_inj (List.append_cancel_left chars) lengths
  have bytes := lowerHex_injective (String.toList_inj.mp digests)
  exact Vector.toList_inj.mp bytes

theorem canonicalBlur_of_key {asked : ResizeQuery → Prop}
    (distinguished : Distinguished display sha256 asked) {query other : ResizeQuery}
    (first : asked query) (second : asked other)
    (same : CacheKey.generateKey display (digestText sha256) minioSubPath query =
      CacheKey.generateKey display (digestText sha256) minioSubPath other) :
    canonicalBlur query = canonicalBlur other := by
  have streams := distinguished.collisionFree first second (digest_of_key same)
  rcases CacheKey.keyed_eq_iff.mp ((CacheKey.stream_eq_iff display (distinguished.sized first)
    (distinguished.sized second)).mp streams) with equal | named | named
  · exact equal
  · exact absurd named (distinguished.named first second)
  · exact absurd named (distinguished.named second first)

/-- Two requests under one key are the same work: at every deployment, and whatever its
network answers, they succeed with the same bytes and content type or fail alike. -/
theorem doResizeWork_of_key {asked : ResizeQuery → Prop}
    (distinguished : Distinguished display sha256 asked) {query other : ResizeQuery}
    (first : asked query) (second : asked other)
    (same : CacheKey.generateKey display (digestText sha256) minioSubPath query =
      CacheKey.generateKey display (digestText sha256) minioSubPath other)
    (urls : UrlLibrary) (statusText : Nat → String) (deployment : Deployment urls) :
    doResizeWork lib codecs encoders urls statusText deployment query =
      doResizeWork lib codecs encoders urls statusText deployment other := by
  rw [← doResizeWork_canonicalBlur, ← doResizeWork_canonicalBlur lib codecs encoders other,
    canonicalBlur_of_key distinguished first second same]

/-- A request for `a.jpg` with a sigma. -/
def blurredPhoto (blurSigma : Option F32) : ResizeQuery :=
  { ResizeQuery.default with url := "a.jpg", blurSigma }

/-- Without a sigma and with a sigma of zero, the photo is the same work. -/
theorem doResizeWork_of_key_blurredPhoto :
    doResizeWork .blank pixelCodecs .settings plainUrls toString (photoDeployment false)
        (blurredPhoto none) =
      doResizeWork .blank pixelCodecs .settings plainUrls toString (photoDeployment false)
        (blurredPhoto (some F32.zero)) := by
  have canonical : ∀ query, query = blurredPhoto none ∨ query = blurredPhoto (some F32.zero) →
      canonicalBlur query = blurredPhoto none := by
    rintro query (rfl | rfl) <;> decide
  have distinguished : Distinguished FloatDisplay.plain (fun _ => Vector.replicate 32 0)
      fun query => query = blurredPhoto none ∨ query = blurredPhoto (some F32.zero) := by
    refine ⟨?_, ?_, fun first second named => named.ne ?_⟩
    · rintro query (rfl | rfl) <;> unfold CacheKey.Sized Framing.Fits <;> decide +kernel
    · rintro query other (rfl | rfl) (rfl | rfl) _ <;> rfl
    · rw [canonical _ first, canonical _ second]
  have same : CacheKey.generateKey FloatDisplay.plain (digestText fun _ => Vector.replicate 32 0)
      "" (blurredPhoto none) =
        CacheKey.generateKey FloatDisplay.plain (digestText fun _ => Vector.replicate 32 0)
          "" (blurredPhoto (some F32.zero)) := rfl
  exact doResizeWork_of_key .blank pixelCodecs .settings distinguished (.inl rfl) (.inr rfl) same
    plainUrls toString (photoDeployment false)

theorem dot_not_mem_format (format : ImageFormat) : '.' ∉ format.toString.toList := by
  cases format <;> decide

/-- The content type that a key announces is the one of the requested format. -/
theorem contentTypeForKey_generateKey (query : ResizeQuery) :
    contentTypeForKey
        (CacheKey.generateKey display (digestText sha256) minioSubPath query).toList =
      query.format.contentType := by
  have atDot : rsplitOnce '.'
      (CacheKey.generateKey display (digestText sha256) minioSubPath query).toList =
        some ((minioSubPath ++ digestText sha256 (CacheKey.stream display query)).toList,
          query.format.toString.toList) := by
    refine rsplitOnce_eq_some_iff.mpr ⟨?_, dot_not_mem_format query.format⟩
    simp only [CacheKey.generateKey, String.toList_append, List.append_assoc]
    rfl
  have alone : rsplitOnce '.' ('.' :: query.format.toString.toList) =
      some ([], query.format.toString.toList) :=
    rsplitOnce_eq_some_iff.mpr ⟨rfl, dot_not_mem_format query.format⟩
  rw [ImageFormat.contentType, contentTypeForKey, contentTypeForKey, atDot, alone]
  rfl

end ImageResizer
