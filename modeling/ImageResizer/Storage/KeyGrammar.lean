import ImageResizer.CacheKey
import ImageResizer.Pipeline
import ImageResizer.Storage.Key

/-!
# One grammar of keys

The cache writes a key from a request, the storage checks one and takes it apart, and the
download derives a content type from it.  All four agree on its parts, and the content
type of a key is that of the output it was written for.
-/

namespace ImageResizer

open Text

/-- `FromStr` of the format, without the text of its error. -/
def ImageFormat.fromStr (s : List Char) : Option ImageFormat :=
  if s = "jpg".toList ∨ s = "jpeg".toList then some .jpg
  else if s = "png".toList then some .png
  else if s = "webp".toList then some .webp
  else if s = "avif".toList then some .avif
  else if s = "gif".toList then some .gif
  else if s = "auto".toList then some .auto
  else none

/-- `content_type_for_key`, from what follows the last dot. -/
def contentTypeForKey (key : List Char) : String :=
  let ext := ((rsplitOnce '.' key).map Prod.snd).getD key
  match ImageFormat.fromStr ext with
  | some .jpg => "image/jpeg"
  | some .png => "image/png"
  | some .webp => "image/webp"
  | some .avif => "image/avif"
  | some .gif => "image/gif"
  | some .auto => "application/octet-stream"
  | none => "application/octet-stream"

/-! ## The digest in a key -/

/-- The lower-case hexadecimal digit of a number. -/
def lowerHexDigit (n : Nat) : Char :=
  if n < 10 then Char.ofNat (48 + n) else Char.ofNat (87 + n)

/-- `LowerHex` of a byte array: two digits a byte. -/
def lowerHex (bytes : List UInt8) : String :=
  String.ofList (bytes.flatMap fun byte =>
    [lowerHexDigit (byte.toNat / 16), lowerHexDigit (byte.toNat % 16)])

/-- The digest of a key: `sha256` gives 32 bytes. -/
def digestText (sha256 : List UInt8 → Vector UInt8 32) (stream : List UInt8) : String :=
  lowerHex (sha256 stream).toList

theorem isLowerHex_lowerHexDigit : ∀ n < 16, Storage.isLowerHex (lowerHexDigit n) := by
  decide

theorem lowerHex_hex (bytes : List UInt8) : (lowerHex bytes).toList.all Storage.isLowerHex := by
  simp only [lowerHex, String.toList_ofList, List.all_flatMap, List.all_eq_true, List.mem_cons,
    List.not_mem_nil, or_false]
  intro byte _ c member
  have small := byte.toNat_lt
  obtain rfl | rfl := member
  · exact isLowerHex_lowerHexDigit _ (by omega)
  · exact isLowerHex_lowerHexDigit _ (by omega)

theorem length_lowerHex (bytes : List UInt8) :
    (lowerHex bytes).toList.length = 2 * bytes.length := by
  rw [lowerHex, String.toList_ofList]
  induction bytes with
  | nil => rfl
  | cons byte bytes ih =>
      rw [List.flatMap_cons, List.length_append, ih, List.length_cons]
      simp only [List.length_cons, List.length_nil]
      omega

/-! ## What the pipeline reports -/

section Pipeline

open Outcome (After after_bind)

/-- The content type of a format. -/
def ImageFormat.contentType (format : ImageFormat) : String :=
  contentTypeForKey ('.' :: format.toString.toList)

variable {Content : Type} (lib : Imaging Content) (codecs : Codecs Content)
variable (encoders : Encoders Content) (query : ResizeQuery) (config : PerformanceConfig)

/-- An output comes with the content type of the requested format. -/
abbrev Reports (stage : Stage (List UInt8 × String)) : Prop :=
  After stage fun output => output.2 = query.format.contentType

theorem encodeFormat_reports (image : Raster Content) (metadata : Metadata) :
    Reports query (encodeFormat lib encoders image metadata query config) := by
  unfold encodeFormat
  cases format : query.format with
  | auto => exact Outcome.after_fail _ _
  | jpg | png | webp | avif =>
      apply after_bind
      intro bytes
      rw [Outcome.after_pure, format]
      rfl
  | gif =>
      apply after_bind
      intro _
      apply after_bind
      intro bytes
      rw [Outcome.after_pure, format]
      rfl

theorem encodeSingleImage_reports (watermarkBytes : Option (List UInt8))
    (metadata : SourceMetadata) (source : Size) (image : Raster Content) :
    Reports query (encodeSingleImage lib codecs encoders query config watermarkBytes metadata
      source image) := by
  apply after_bind
  intro exif
  apply after_bind
  intro transformed
  apply after_bind
  intro marked
  unfold finishSingle
  split
  case isTrue => exact Outcome.after_fail _ _
  case isFalse =>
      apply after_bind
      intro flattened
      exact encodeFormat_reports lib encoders query config flattened _

theorem encodeAnimation_reports (frames : List (Frame Content)) (source : Size) :
    Reports query (encodeAnimation lib encoders query frames source) := by
  apply after_bind
  intro output
  cases format : query.format with
  | gif =>
      rw [Outcome.after_lift]
      intro result ended
      obtain ⟨_, -, encoded⟩ := Failure.bind_ok ended
      obtain ⟨_, -, made⟩ := Failure.bind_ok encoded
      cases made
      rfl
  | webp =>
      rw [Outcome.after_lift]
      intro result ended
      unfold encodeAnimatedWebp at ended
      split at ended
      case h_1 => cases ended
      case h_2 =>
          simp only at ended
          split at ended
          case isTrue => cases ended
          case isFalse =>
              split at ended
              case isTrue => cases ended
              case isFalse =>
                  obtain ⟨_, -, made⟩ := Failure.bind_ok ended
                  cases made
                  rfl
  | auto | jpg | png | avif => exact Outcome.after_fail _ _

theorem encodeFrames_reports (watermarkBytes : Option (List UInt8)) (frames : List (Frame Content))
    (source : Size) :
    Reports query (encodeFrames lib codecs encoders query config watermarkBytes frames source) := by
  match frames with
  | [] => exact Outcome.after_panic _
  | [frame] => exact encodeSingleImage_reports lib codecs encoders query config _ _ _ _
  | first :: second :: rest => exact encodeAnimation_reports lib encoders query _ _

/-- The content type of an output is that of the format it was requested in. -/
theorem processImageBlocking_reports (bytes : List UInt8) (watermarkBytes : Option (List UInt8)) :
    Reports query (processImageBlocking lib codecs encoders query config bytes watermarkBytes) := by
  rw [processImageBlocking_decodeSource]
  apply after_bind
  intro _
  apply after_bind
  intro source
  cases source with
  | inl animation => exact encodeFrames_reports lib codecs encoders query config _ _ _
  | inr decoded =>
      apply after_bind
      intro image
      exact encodeSingleImage_reports lib codecs encoders query config _ _ _ _

end Pipeline

namespace Storage

variable {subPath : List Char}

/-- The content type of a key is that of the format its extension names. -/
theorem contentTypeForKey_text {parts : KeyParts subPath} {format : ImageFormat}
    (named : parts.ext = format.toString.toList) :
    contentTypeForKey parts.text = format.contentType := by
  have atDot : rsplitOnce '.' parts.text = some (subPath ++ parts.hash, parts.ext) :=
    rsplitOnce_eq_some_iff.mpr
      ⟨by rw [KeyParts.text, List.append_assoc], dot_not_allowed parts.ext_known⟩
  have alone :
      rsplitOnce '.' ('.' :: format.toString.toList) = some ([], format.toString.toList) := by
    rw [← named]
    exact rsplitOnce_eq_some_iff.mpr ⟨rfl, dot_not_allowed parts.ext_known⟩
  rw [ImageFormat.contentType, contentTypeForKey, contentTypeForKey, atDot, alone, ← named]
  rfl

/-- The known extensions are the names of the formats that can be written. -/
theorem allowed_iff {ext : List Char} :
    ext ∈ allowedExtensions ↔ ∃ format : ImageFormat, format ≠ .auto ∧
      ext = format.toString.toList := by
  constructor
  · intro known
    simp only [allowedExtensions, List.mem_cons, List.not_mem_nil, or_false] at known
    obtain rfl | rfl | rfl | rfl | rfl := known
    · exact ⟨.jpg, by decide, rfl⟩
    · exact ⟨.png, by decide, rfl⟩
    · exact ⟨.webp, by decide, rfl⟩
    · exact ⟨.avif, by decide, rfl⟩
    · exact ⟨.gif, by decide, rfl⟩
  · rintro ⟨format, concrete, rfl⟩
    revert concrete
    cases format <;> decide

variable (display : FloatDisplay) (sha256 : List UInt8 → Vector UInt8 32) (minioSubPath : String)
variable (params : ResizeQuery)

/-- The parts of a generated key. -/
def generatedParts (concrete : params.format ≠ .auto) : KeyParts minioSubPath.toList where
  hash := (digestText sha256 (CacheKey.stream display params)).toList
  ext := params.format.toString.toList
  hash_length := by
    rw [digestText, length_lowerHex, Vector.length_toList]
    rfl
  hash_hex := lowerHex_hex _
  ext_known := allowed_iff.mpr ⟨params.format, concrete, rfl⟩

theorem generateKey_text (concrete : params.format ≠ .auto) :
    (CacheKey.generateKey display (digestText sha256) minioSubPath params).toList =
      (generatedParts display sha256 minioSubPath params concrete).text := by
  simp only [CacheKey.generateKey, KeyParts.text, generatedParts, String.toList_append]
  simp

/-- The characters of a key that do not come from its sub-path are none of control. -/
theorem text_clean (clean : ∀ c ∈ subPath, isControl c = false) (parts : KeyParts subPath) :
    ∀ c ∈ parts.text, isControl c = false := by
  intro c member
  have extClean : ∀ ext ∈ allowedExtensions, ext.any isControl = false := by decide
  simp only [KeyParts.text, List.mem_append, List.mem_cons] at member
  obtain fromPath | fromHash | rfl | fromExt := member
  · exact clean c fromPath
  · have bounds := isLowerHex_bounds (List.all_eq_true.mp parts.hash_hex c fromHash)
    simp only [isControl, Bool.or_eq_false_iff, decide_eq_false_iff_not, beq_eq_false_iff_ne]
    omega
  · decide
  · exact Bool.eq_false_iff.mpr
      (List.any_eq_false.mp (extClean parts.ext parts.ext_known) c fromExt)

/-- **One grammar of keys.**  A key generated for a concrete format, under a sub-path
without control characters, is accepted; what is accepted is exactly the sub-path, 64
lower-case hexadecimal digits, a dot and a known extension, without control characters;
splitting an accepted key recovers its parts; and its content type is the one the pipeline
reports for the format its extension names, which for a generated key is the requested
one. -/
theorem key_grammar :
    (∀ params : ResizeQuery, (∀ c ∈ minioSubPath.toList, isControl c = false) →
      params.format ≠ .auto →
        ∃ parts : KeyParts minioSubPath.toList,
          (CacheKey.generateKey display (digestText sha256) minioSubPath params).toList =
            parts.text ∧
          parts.ext = params.format.toString.toList ∧
          validateCacheKey parts.text minioSubPath.toList = .ok ()) ∧
    (∀ key : List Char, validateCacheKey key minioSubPath.toList = .ok () ↔
      (∃ parts : KeyParts minioSubPath.toList, parts.text = key) ∧
        ∀ c ∈ key, isControl c = false) ∧
    (∀ parts : KeyParts minioSubPath.toList,
      (splitKey parts.text : Outcome Empty _) =
        .ok (some (minioSubPath.toList, parts.hash, parts.ext))) ∧
    ∀ {Content : Type} (lib : Imaging Content) (codecs : Codecs Content)
      (encoders : Encoders Content) (config : PerformanceConfig) (source : List UInt8)
      (watermark : Option (List UInt8)) (params : ResizeQuery)
      (parts : KeyParts minioSubPath.toList) (output : List UInt8) (contentType : String),
      parts.ext = params.format.toString.toList →
      processImageBlocking lib codecs encoders params config source watermark =
          .ok (output, contentType) →
        contentTypeForKey parts.text = contentType := by
  refine ⟨?generated, fun _ => validateCacheKey_ok_iff, fun parts => splitKey_text parts,
    ?contentType⟩
  case generated =>
      intro params clean concrete
      refine ⟨generatedParts display sha256 minioSubPath params concrete,
        generateKey_text display sha256 minioSubPath params concrete, rfl, ?_⟩
      exact validateCacheKey_ok_iff.mpr ⟨⟨_, rfl⟩, text_clean clean _⟩
  case contentType =>
      intro Content lib codecs encoders config source watermark params parts output contentType
        named ran
      rw [contentTypeForKey_text named]
      exact (processImageBlocking_reports lib codecs encoders params config source watermark
        (output, contentType) ran).symm

/-- The digest of the plain request for `a.jpg`. -/
def sampleDigest : Vector UInt8 32 :=
  #v[0x8a, 0x6f, 0x0a, 0xd4, 0x7d, 0x53, 0xa7, 0xe4, 0x64, 0x6e, 0x2d, 0x39, 0x11, 0x98, 0xf9, 0x55,
    0x09, 0x7e, 0xb7, 0x30, 0x29, 0xa6, 0x61, 0xc3, 0x6c, 0x1b, 0x74, 0x6e, 0x46, 0x43, 0xe7, 0xf0]

theorem key_grammar_sample :
    ∃ parts : KeyParts "images.v2/".toList,
      (CacheKey.generateKey FloatDisplay.plain (digestText fun _ => sampleDigest) "images.v2/"
        { ResizeQuery.default with url := "a.jpg" }).toList = parts.text ∧
      parts.ext = "jpg".toList ∧ validateCacheKey parts.text "images.v2/".toList = .ok () :=
  (key_grammar FloatDisplay.plain (fun _ => sampleDigest) "images.v2/").1
    { ResizeQuery.default with url := "a.jpg" } (by simp [isControl]) (by decide)

end Storage

end ImageResizer
