import ImageResizer.ErrorStatus
import ImageResizer.Foundation.FailingSide
import ImageResizer.Pipeline

/-!
# Sources that are the client's fault

The errors with which the decode paths of `services/image/handler.rs` and
`services/image/avif_codec.rs` turn a source away, and which of them are answered `400`.
The status goes by words of the outermost message, so each check is a client's fault
exactly when the text it fails with says so.
-/

namespace ImageResizer

open FailingSide Text
open Failure (withContext withContext_ok_iff required)
open Storage (containsText containsText_iff)

/-! ## The words of a message -/

theorem mentions_iff {text : String} {word : List Char} :
    mentions text word = true ↔ word <:+: text.toList.map Char.toLower := containsText_iff

theorem blamesCaller_append {text : String} (blames : blamesCaller text = true) (back : String) :
    blamesCaller (text ++ back) = true := by
  have extended : ∀ word, mentions text word = true → mentions (text ++ back) word = true := by
    intro word inText
    rw [mentions_iff] at inText
    rw [mentions_iff, String.toList_append, List.map_append]
    exact inText.trans (List.prefix_append ..).isInfix
  rw [blamesCaller, Bool.or_eq_true] at blames ⊢
  exact blames.imp (extended _) (extended _)

theorem toLower_of_isDigit {c : Char} (digit : c.isDigit) : c.toLower = c := by
  obtain ⟨_, high⟩ := isDigit_bounds digit
  apply Char.toLower_eq_of_not_isUpper
  intro upper
  simp only [Char.isUpper, ge_iff_le, decide_eq_true_eq, UInt32.le_iff_toNat_le] at upper
  exact absurd (upper.1.trans high) (by decide)

/-- A numeral inside a message adds no word to it. -/
theorem mentions_numeral_iff {word : List Char} (nonempty : word ≠ [])
    (letters : ∀ c ∈ word, c.isDigit = false) (front back : String) (n : Nat) :
    mentions (front ++ toString n ++ back) word = true ↔
      mentions front word = true ∨ mentions back word = true := by
  have digits : ∀ c ∈ (Nat.toDigits 10 n).map Char.toLower, c ∉ word := by
    intro c member inWord
    obtain ⟨digit, isMember, rfl⟩ := List.mem_map.mp member
    have isDigit := isDigit_of_mem_decimal isMember
    rw [toLower_of_isDigit isDigit] at inWord
    simp [letters digit inWord] at isDigit
  cases numeral : (Nat.toDigits 10 n).map Char.toLower with
  | nil => exact absurd (List.map_eq_nil_iff.mp numeral) Nat.toDigits_ne_nil
  | cons c rest =>
      rw [numeral] at digits
      rw [mentions_iff, mentions_iff, mentions_iff, String.toList_append, String.toList_append,
        List.map_append, List.map_append, Nat.toString_eq_repr, Nat.toList_repr, numeral,
        List.append_assoc, List.cons_append, infix_append_cons_iff (digits c (by simp)),
        infix_of_clean_start nonempty fun d member => digits d (List.mem_cons_of_mem _ member)]

/-! ## The checks -/

/-- The failure is answered `400`. -/
def ClientFault (failure : Failure) : Prop := (classifyResizeError failure).statusCode = 400

/-- A failure that is not a rejection is a client's fault when its text says so. -/
theorem clientFault_iff {failure : Failure} (unrejected : failure.sourceRejected = none) :
    ClientFault failure ↔ blamesCaller failure.toString = true := by
  rw [ClientFault, statusCode_eq, if_neg (by simp [unrejected]), statusOfText_eq_iff]

theorem clientFault_message_iff (text : String) :
    ClientFault (.message text) ↔ blamesCaller text = true := clientFault_iff rfl

section Checks

variable {α : Type} {text : String}

theorem fails_withContext (blames : blamesCaller text = true) (outcome : Except String α) :
    Fails (withContext text outcome) ClientFault := by
  cases outcome with
  | ok value => exact fails_ok value
  | error cause => exact (fails_error_iff _).mpr ((clientFault_iff rfl).mpr blames)

theorem fails_withContext_iff (silent : blamesCaller text = false) (outcome : Except String α) :
    Fails (withContext text outcome) ClientFault ↔ ∃ value, outcome = .ok value := by
  cases outcome with
  | ok value => exact iff_of_true (fails_ok value) ⟨value, rfl⟩
  | error cause =>
      apply iff_of_false
      · intro fails
        have blames := (clientFault_iff rfl).mp ((fails_error_iff _).mp fails)
        exact absurd (silent.symm.trans blames) (by decide)
      · simp

theorem fails_required (blames : blamesCaller text = true) (found : Option α) :
    Fails (required text found) ClientFault := by
  cases found with
  | some value => exact fails_ok value
  | none => exact (fails_error_iff _).mpr ((clientFault_iff rfl).mpr blames)

theorem fails_required_iff (silent : blamesCaller text = false) (found : Option α) :
    Fails (required text found) ClientFault ↔ found.isSome := by
  cases found with
  | some value => exact iff_of_true (fails_ok value) rfl
  | none =>
      apply iff_of_false
      · intro fails
        have blames := (clientFault_iff rfl).mp ((fails_error_iff _).mp fails)
        exact absurd (silent.symm.trans blames) (by decide)
      · simp

theorem fails_message (blames : blamesCaller text = true) :
    Fails (.error (.message text) : Except Failure α) ClientFault :=
  (fails_error_iff _).mpr ((clientFault_message_iff text).mpr blames)

end Checks

/-- The pixel count of a header is a `u64`, as that of any two `u32` sides is. -/
def Countable (size : Size) : Prop := size.width * size.height ≤ u64Max

/-- The header is within the cap on source resolutions. -/
def WithinSourceCap (size : Size) (maxSrcResolutionMp : Nat) : Prop :=
  size.width * size.height / 1000000 ≤ maxSrcResolutionMp

theorem fails_checkSourceResolution_iff (size : Size) (maxSrcResolutionMp : Nat) :
    Fails (checkSourceResolution size.width size.height maxSrcResolutionMp) ClientFault ↔
      Countable size := by
  rw [checkSourceResolution, Countable]
  by_cases overflows : u64Max < size.width * size.height
  · rw [if_pos overflows, fails_error_iff, clientFault_message_iff]
    exact iff_of_false (by decide) (by omega)
  · rw [if_neg overflows]
    refine iff_of_true ?_ (by omega)
    by_cases large : maxSrcResolutionMp < size.width * size.height / 1000000
    · rw [if_pos large]
      apply fails_message
      have words : blamesCaller "Source image resolution too large: " = true := by decide
      simp only [String.append_assoc]
      exact blamesCaller_append words _
    · rw [if_neg large]
      exact fails_ok ()

theorem checkSourceResolution_ok_iff (size : Size) (maxSrcResolutionMp : Nat) (result : Unit) :
    checkSourceResolution size.width size.height maxSrcResolutionMp = .ok result ↔
      Countable size ∧ WithinSourceCap size maxSrcResolutionMp := by
  rw [checkSourceResolution, Countable, WithinSourceCap]
  by_cases overflows : u64Max < size.width * size.height
  · simp [overflows]
  · by_cases large : maxSrcResolutionMp < size.width * size.height / 1000000
    · simp [overflows, large]
    · simp [overflows, large, Nat.le_of_not_lt overflows, Nat.le_of_not_lt large]

theorem not_clientFault_tooManyFrames (limit : Nat) : ¬ ClientFault (tooManyFrames limit) := by
  rw [tooManyFrames, clientFault_message_iff, blamesCaller, Bool.or_eq_true]
  rintro (large | decode)
  · have beside := (mentions_numeral_iff (by simp) (by simp) _ _ _).mp large
    exact absurd beside (by decide)
  · have beside := (mentions_numeral_iff (by simp) (by simp) _ _ _).mp decode
    exact absurd beside (by decide)

/-! ## The animated paths -/

/-- An animation has more frames than the cap, and those before the one too many decode. -/
def OverFrameCap {α : Type} (limit : Nat) (frames : List (Except String α)) : Prop :=
  limit < frames.length ∧ ∀ frame ∈ frames.take limit, ∃ value, frame = .ok value

theorem overFrameCap_cons_iff {α : Type} (limit : Nat) (frame : Except String α)
    (frames : List (Except String α)) :
    OverFrameCap (limit + 1) (frame :: frames) ↔
      (∃ value, frame = .ok value) ∧ OverFrameCap limit frames := by
  simp only [OverFrameCap, List.length_cons, Nat.add_lt_add_iff_right, List.take_succ_cons,
    List.forall_mem_cons]
  exact and_left_comm

section Paths

variable {Content : Type} (codecs : Codecs Content) (bytes : List UInt8)
variable (config : PerformanceConfig)

/-- The one error of the frame loop that is not blamed on the client is that of the frame
after the last one allowed. -/
theorem fails_collectFramesCapped_iff (size : Size) {maxFrames index : Nat}
    (inRange : index ≤ maxFrames) (frames : List (Except String (Content × Delay))) :
    Fails (collectFramesCapped size maxFrames index frames) ClientFault ↔
      ¬ OverFrameCap (maxFrames - index) frames := by
  induction frames generalizing index with
  | nil => exact iff_of_true (fails_pure []) fun exceeds => absurd exceeds.1 (by simp)
  | cons frame rest ih =>
      rw [collectFramesCapped]
      by_cases last : maxFrames ≤ index
      · rw [if_pos last, fails_error_iff, Nat.sub_eq_zero_of_le last]
        refine iff_of_false (not_clientFault_tooManyFrames maxFrames) (not_not_intro ⟨?_, ?_⟩)
        · exact Nat.zero_lt_succ _
        · simp
      · have remaining : maxFrames - index = maxFrames - (index + 1) + 1 := by omega
        rw [if_neg last, remaining, overFrameCap_cons_iff,
          fails_bind_of (fails_withContext (by decide) frame)]
        cases frame with
        | error cause => simp [withContext]
        | ok pixels =>
            have tail := ih (Nat.lt_of_not_le last)
            simpa [withContext, fails_map_iff] using tail

/-- What the GIF arm does not reject as the service's own failure: the header can be read,
its pixels can be counted, and the frame cap is not what stops it. -/
def GifBlamed : Prop :=
  ∃ source, codecs.openGif bytes = .ok source ∧
    (codecs.gifAdmits (buildDecodeLimits config.maxSrcResolutionMp.toNat) source = .ok () →
      Countable source.size ∧
        (WithinSourceCap source.size config.maxSrcResolutionMp.toNat →
          ¬ OverFrameCap config.maxAnimationFrames source.frames))

theorem fails_decodeGifFrames_iff :
    Fails (decodeGifFrames codecs bytes config) ClientFault ↔ GifBlamed codecs bytes config := by
  simp (disch := decide) only [decodeGifFrames, fails_bind_iff, fails_withContext,
    fails_withContext_iff, fails_checkSourceResolution_iff, checkSourceResolution_ok_iff,
    fails_collectFramesCapped_iff _ (Nat.zero_le _), Nat.sub_zero, fails_pure,
    withContext_ok_iff, implies_true, and_true, true_and, ends_and_iff]
  refine exists_congr fun source => and_congr_right fun _ => ?_
  constructor
  · intro passes admitted
    obtain ⟨countable, frames⟩ := passes () admitted
    exact ⟨countable, fun within => frames () ⟨countable, within⟩⟩
  · intro passes _ admitted
    obtain ⟨countable, frames⟩ := passes admitted
    exact ⟨countable, fun _ both => frames both.2⟩

/-- What the WebP arm does not reject as the service's own failure, of a source that is
animated. -/
def WebpFramesBlamed (source : WebpSource Content) : Prop :=
  Countable source.size ∧
    (WithinSourceCap source.size config.maxSrcResolutionMp.toNat →
      source.numFrames ≤ config.maxAnimationFrames)

theorem fails_toRgba8 (lib : Imaging Content) (image : Raster Content) :
    Fails (image.toRgba8 lib) (OnFailure ClientFault) := by
  rw [Raster.toRgba8, Raster.toColor]
  by_cases already : image.color = .rgba8
  · rw [if_pos already]
    exact fails_pure _
  · rw [if_neg already, newCanvas, newBuffer, fails_bind_of (fails_assert _)]
    intro _ _
    exact fails_pure _

theorem fails_decodeWebpFrame (lib : Imaging Content) (source : WebpSource Content)
    (bufferSize index : Nat) :
    Fails (decodeWebpFrame lib source bufferSize index) (OnFailure ClientFault) := by
  rw [decodeWebpFrame, newBuffer, fails_bind_of (fails_assert _)]
  intro _ _
  rw [readWebpFrame, fails_bind_of ((fails_lift_iff _).mpr (fails_withContext (by decide) _))]
  intro pixels _
  by_cases fits : source.bufferFits bufferSize
  · simp only [fits, if_true]
    rw [fails_bind_of (fails_toRgba8 lib _)]
    intro image _
    exact fails_pure _
  · simp only [fits]
    exact (fails_fail_iff _).mpr ((clientFault_message_iff _).mpr (by decide))

theorem fails_decodeWebpFrames_iff (lib : Imaging Content) (source : WebpSource Content) :
    Fails (decodeWebpFrames config lib source) (OnFailure ClientFault) ↔
      WebpFramesBlamed config source := by
  have frames : ∀ bufferSize, Fails ((List.range source.numFrames).mapM
      (decodeWebpFrame lib source bufferSize)) (OnFailure ClientFault) :=
    fun bufferSize => fails_mapM _ fun index _ => fails_decodeWebpFrame lib source bufferSize index
  simp only [decodeWebpFrames, fails_bind_iff, fails_lift_iff, frames, fails_pure, implies_true,
    and_true, webpFrameBuffer, fails_checkSourceResolution_iff, checkSourceResolution_ok_iff,
    WebpFramesBlamed]
  refine and_congr_right fun countable => ?_
  by_cases capped : config.maxAnimationFrames < source.numFrames
  · have stopped : ¬ source.numFrames ≤ config.maxAnimationFrames := Nat.not_le_of_lt capped
    simp [capped, stopped, not_clientFault_tooManyFrames, countable]
  · have allowed : source.numFrames ≤ config.maxAnimationFrames := Nat.le_of_not_lt capped
    simp (disch := decide) [capped, allowed, fails_required]

/-! ## The still path -/

/-- The header of a source can be read, and gives its size. -/
def HeaderReads (size : Size) : Option SourceFormat → Prop
  | some .avif =>
      codecs.avifContainer bytes = .ok () ∧ codecs.avifSequenceHeader bytes = .ok size
  | some .webp => ∃ source, codecs.openWebp bytes = .ok source ∧ source.size = size
  | some format => codecs.dimensions (some format) bytes = .ok size
  | none => codecs.guessFormat bytes = .ok () ∧ codecs.dimensions none bytes = .ok size

/-- What the still path does not reject as the service's own failure: the header can be
read, its pixels can be counted, and so can the bytes of a WebP decode. -/
def StillBlamed (format : Option SourceFormat) : Prop :=
  ∃ size, HeaderReads codecs bytes size format ∧ Countable size ∧
    (WithinSourceCap size config.maxSrcResolutionMp.toNat → format = some .webp →
      ∀ source, codecs.openWebp bytes = .ok source → source.outputBufferSize.isSome)

theorem avifHeader_ok_iff (size : Size) :
    avifHeader codecs bytes = .ok size ↔ HeaderReads codecs bytes size (some .avif) := by
  rw [avifHeader, Outcome.bind_ok_iff]
  simp only [withContext_ok_iff, HeaderReads]
  exact ⟨fun ⟨(), container, header⟩ => ⟨container, header⟩,
    fun ⟨container, header⟩ => ⟨(), container, header⟩⟩

theorem fails_avifHeader_iff :
    Fails (avifHeader codecs bytes) ClientFault ↔
      ∃ size, HeaderReads codecs bytes size (some .avif) := by
  simp (disch := decide) only [avifHeader, fails_bind_iff, fails_withContext_iff,
    withContext_ok_iff, HeaderReads, ends_and_iff, exists_and_left]
  exact ⟨fun ⟨(), container, header⟩ => ⟨container, header⟩,
    fun ⟨container, header⟩ => ⟨(), container, header⟩⟩

theorem peekDimensions_ok_iff (format : Option SourceFormat) (size : Size) :
    peekDimensions codecs bytes format = .ok size ↔ HeaderReads codecs bytes size format := by
  cases format with
  | none =>
      simp only [peekDimensions, makeReader, Outcome.bind_ok_iff, withContext_ok_iff, HeaderReads]
      exact ⟨fun ⟨(), guessed, read⟩ => ⟨guessed, read⟩, fun ⟨guessed, read⟩ => ⟨(), guessed, read⟩⟩
  | some format =>
      cases format with
      | avif => exact avifHeader_ok_iff codecs bytes size
      | webp =>
          simp [peekDimensions, Outcome.bind_ok_iff, withContext_ok_iff, HeaderReads, pure,
            Except.pure]
      | jpeg | png | gif =>
          simp [peekDimensions, makeReader, Outcome.bind_ok_iff, withContext_ok_iff, HeaderReads]

theorem fails_peekDimensions_iff (format : Option SourceFormat) :
    Fails (peekDimensions codecs bytes format) ClientFault ↔
      ∃ size, HeaderReads codecs bytes size format := by
  cases format with
  | none =>
      simp (disch := decide) only [peekDimensions, makeReader, fails_bind_iff,
        fails_withContext_iff, withContext_ok_iff, HeaderReads, ends_and_iff, exists_and_left]
      exact ⟨fun ⟨(), guessed, read⟩ => ⟨guessed, read⟩, fun ⟨guessed, read⟩ => ⟨(), guessed, read⟩⟩
  | some format =>
      cases format with
      | avif => exact fails_avifHeader_iff codecs bytes
      | webp =>
          simp (disch := decide) [peekDimensions, fails_map_iff, fails_withContext_iff,
            HeaderReads]
      | jpeg | png | gif =>
          simp (disch := decide) [peekDimensions, makeReader, fails_bind_iff,
            fails_withContext_iff, HeaderReads]

/-- The decoders of the `image` crate reject a source as the client's fault. -/
theorem fails_decodeWithImageCrate (format : Option SourceFormat) (wantMetadata : Bool)
    (maxSrcResolutionMp : Nat) (guessed : makeReader codecs bytes format = .ok ()) :
    Fails (decodeWithImageCrate codecs bytes format maxSrcResolutionMp wantMetadata)
      ClientFault := by
  simp (disch := decide) only [decodeWithImageCrate, openLimited, reserveAlloc, fromDecoder,
    guessed, fails_bind_iff, fails_withContext, fails_ok, fails_pure, implies_true, and_true]

/-- Once its header was read, counted and found within the cap, an AVIF source is rejected as
the client's fault. -/
theorem fails_decodeAvif {size : Size} {maxSrcResolutionMp : Nat}
    (reads : HeaderReads codecs bytes size (some .avif)) (countable : Countable size) :
    Fails (decodeAvif codecs bytes maxSrcResolutionMp) ClientFault := by
  have header := (avifHeader_ok_iff codecs bytes size).mpr reads
  rw [decodeAvif, header]
  simp (disch := decide) only [fails_bind_iff, fails_ok, Except.ok.injEq, forall_eq',
    fails_checkSourceResolution_iff, countable, fails_withContext, fails_pure, implies_true,
    and_true]

theorem fails_webpPixelBuffer_iff (source : WebpSource Content) :
    Fails (webpPixelBuffer source) ClientFault ↔ source.outputBufferSize.isSome := by
  rw [webpPixelBuffer, fails_bind_iff, fails_required_iff (by decide)]
  refine and_iff_left ?_
  intro bufferSize _
  -- the caught panic says "decode", as the error it becomes is a failed decode
  split
  case isTrue => exact fails_message (by decide)
  case isFalse => exact fails_pure _

theorem fails_readWebpPixels_iff (source : WebpSource Content) :
    Fails (readWebpPixels source) ClientFault ↔ source.outputBufferSize.isSome := by
  simp (disch := decide) only [readWebpPixels, fails_bind_iff, fails_webpPixelBuffer_iff,
    fails_withContext, true_and]
  refine and_iff_left ?_
  intro bufferSize _ content _
  by_cases fits : source.bufferFits bufferSize
  · simp only [fits, if_true]
    exact fails_pure _
  · simp only [fits]
    cases source.hasAlpha with
    | true => exact fails_message (by decide)
    | false => exact fails_message (by decide)

theorem fails_decodeWebp_iff {source : WebpSource Content} {maxSrcResolutionMp : Nat}
    (opened : codecs.openWebp bytes = .ok source) (countable : Countable source.size)
    (within : WithinSourceCap source.size maxSrcResolutionMp) :
    Fails (decodeWebp codecs bytes maxSrcResolutionMp) ClientFault ↔
      source.outputBufferSize.isSome := by
  have passes := (checkSourceResolution_ok_iff source.size maxSrcResolutionMp ()).mpr
    ⟨countable, within⟩
  rw [decodeWebp, opened, withContext]
  simp only [fails_bind_iff, fails_ok, Except.ok.injEq, forall_eq', passes,
    fails_readWebpPixels_iff, fails_pure, implies_true, and_true, true_and,
    forall_const]

/-- A source whose header was read, counted and found within the cap is rejected as the
client's fault, unless its WebP decode is too long to be counted. -/
theorem fails_decodeUnscaled_iff (query : ResizeQuery) (format : Option SourceFormat) {size : Size}
    {maxSrcResolutionMp : Nat} (reads : HeaderReads codecs bytes size format)
    (countable : Countable size) (within : WithinSourceCap size maxSrcResolutionMp) :
    Fails (decodeUnscaled codecs bytes format maxSrcResolutionMp query) ClientFault ↔
      (format = some .webp → ∀ source, codecs.openWebp bytes = .ok source →
        source.outputBufferSize.isSome) := by
  cases format with
  | none =>
      have guessed : makeReader codecs bytes none = .ok () := by
        rw [makeReader, reads.1]
        rfl
      exact iff_of_true (fails_decodeWithImageCrate codecs bytes _ _ _ guessed) (by simp)
  | some format =>
      cases format with
      | webp =>
          obtain ⟨source, opened, rfl⟩ := reads
          rw [decodeUnscaled, fails_decodeWebp_iff codecs bytes opened countable within]
          simp [opened]
      | avif => exact iff_of_true (fails_decodeAvif codecs bytes reads countable) (by simp)
      | jpeg | png | gif =>
          exact iff_of_true (fails_decodeWithImageCrate codecs bytes _ _ _ rfl) (by simp)

/-- A scaled decode that fails is made up for by the full one. -/
theorem fails_decodeWithLimits_iff (query : ResizeQuery) (format : Option SourceFormat)
    {size : Size} {maxSrcResolutionMp : Nat} (reads : HeaderReads codecs bytes size format)
    (countable : Countable size) (within : WithinSourceCap size maxSrcResolutionMp) :
    Fails (decodeWithLimits codecs bytes format maxSrcResolutionMp query) ClientFault ↔
      (format = some .webp → ∀ source, codecs.openWebp bytes = .ok source →
        source.outputBufferSize.isSome) := by
  have unscaled := fails_decodeUnscaled_iff codecs bytes query format reads countable within
  rw [decodeWithLimits]
  by_cases scaled : format = some .jpeg
  · rw [if_pos scaled]
    cases decodeJpegScaled codecs bytes maxSrcResolutionMp query with
    | ok decoded => exact iff_of_true (fails_ok decoded) (by simp [scaled])
    | error failure => exact unscaled
  · rw [if_neg scaled]
    exact unscaled

theorem headerReads_unique {format : Option SourceFormat} {first second : Size}
    (one : HeaderReads codecs bytes first format) (other : HeaderReads codecs bytes second format) :
    first = second := by
  rw [← peekDimensions_ok_iff] at one other
  exact Except.ok.inj (one.symm.trans other)

theorem fails_decodeStill_iff (query : ResizeQuery) (format : Option SourceFormat) :
    Fails (decodeStill codecs query config bytes format) ClientFault ↔
      StillBlamed codecs bytes config format := by
  simp only [decodeStill, fails_bind_iff, fails_peekDimensions_iff, peekDimensions_ok_iff,
    fails_checkSourceResolution_iff, checkSourceResolution_ok_iff]
  constructor
  · rintro ⟨⟨size, reads⟩, rest⟩
    obtain ⟨countable, decodes⟩ := rest size reads
    refine ⟨size, reads, countable, fun within => ?_⟩
    exact (fails_decodeWithLimits_iff codecs bytes query format reads countable within).mp
      (decodes () ⟨countable, within⟩)
  · rintro ⟨size, reads, countable, buffer⟩
    refine ⟨⟨size, reads⟩, fun other otherReads => ?_⟩
    obtain rfl := headerReads_unique codecs bytes reads otherReads
    refine ⟨countable, fun _ both => ?_⟩
    exact (fails_decodeWithLimits_iff codecs bytes query format reads countable both.2).mpr
      (buffer both.2)

end Paths

/-! ## Every path -/

section Source

variable {Content : Type} (lib : Imaging Content) (codecs : Codecs Content)
variable (encoders : Encoders Content) (query : ResizeQuery) (config : PerformanceConfig)
variable (bytes : List UInt8)

/-- What the decode paths do not reject as the service's own failure. -/
def SourceBlamed : Prop :=
  match detectFormatFromBytes bytes with
  | some .gif =>
      if wantsAnimatableOutput query then GifBlamed codecs bytes config
      else StillBlamed codecs bytes config (some .gif)
  | some .webp =>
      if wantsAnimatableOutput query then
        ∃ source, codecs.openWebp bytes = .ok source ∧
          if source.animated then WebpFramesBlamed config source
          else StillBlamed codecs bytes config (some .webp)
      else StillBlamed codecs bytes config (some .webp)
  | format => StillBlamed codecs bytes config format

section Branches

variable {format : Option SourceFormat}

/-- Without an animated branch the still path decides. -/
theorem fails_decodeSource_still (detected : detectFormatFromBytes bytes = format)
    (still : decodeAnimated lib codecs query config bytes format = pure none) :
    Fails (decodeSource lib codecs query config bytes) (OnFailure ClientFault) ↔
      StillBlamed codecs bytes config format := by
  rw [decodeSource, detected, still, pure_bind, fails_bind_iff, fails_lift_iff,
    fails_decodeStill_iff]
  exact and_iff_left fun decoded _ => fails_pure _

/-- With one, the animated branch does. -/
theorem fails_decodeSource_animated (detected : detectFormatFromBytes bytes = format)
    {frames : Stage (List (Frame Content) × Size)}
    (animated : decodeAnimated lib codecs query config bytes format = some <$> frames) :
    Fails (decodeSource lib codecs query config bytes) (OnFailure ClientFault) ↔
      Fails frames (OnFailure ClientFault) := by
  rw [decodeSource, detected, animated, fails_bind_iff, fails_map_iff]
  refine and_iff_left ?_
  intro animation decoded
  cases frames with
  | error stop => cases decoded
  | ok value =>
      cases decoded
      exact fails_pure _

end Branches

theorem fails_decodeSource_webp (detected : detectFormatFromBytes bytes = some .webp)
    (wanted : wantsAnimatableOutput query = true) :
    Fails (decodeSource lib codecs query config bytes) (OnFailure ClientFault) ↔
      ∃ source, codecs.openWebp bytes = .ok source ∧
        if source.animated then WebpFramesBlamed config source
        else StillBlamed codecs bytes config (some .webp) := by
  have branch : decodeAnimated lib codecs query config bytes (some .webp) =
      decodeAnimationSource codecs bytes config lib .webp := by
    rw [decodeAnimated]
    exact if_pos wanted
  cases opened : codecs.openWebp bytes with
  | error cause =>
      apply iff_of_false
      · intro fails
        have failed : decodeSource lib codecs query config bytes =
            Outcome.fail ((Failure.message cause).context "Failed to read WebP header") := by
          rw [decodeSource, detected, branch, decodeAnimationSource, opened]
          rfl
        rw [failed, fails_fail_iff, clientFault_iff rfl] at fails
        have text : blamesCaller "Failed to read WebP header" = true := fails
        exact absurd text (by decide)
      · simp
  | ok source =>
      simp only [Except.ok.injEq, exists_eq_left']
      by_cases animated : source.animated
      · have frames : decodeAnimated lib codecs query config bytes (some .webp) =
            some <$> decodeWebpFrames config lib source := by
          rw [branch, decodeAnimationSource, opened]
          exact if_pos animated
        rw [if_pos animated, fails_decodeSource_animated lib codecs query config bytes detected
          frames, fails_decodeWebpFrames_iff]
      · have still : decodeAnimated lib codecs query config bytes (some .webp) = pure none := by
          rw [branch, decodeAnimationSource, opened]
          exact if_neg animated
        rw [if_neg animated, fails_decodeSource_still lib codecs query config bytes detected still]

/-- Every error with which a source is turned away is answered `400` exactly when no check
fails whose message does not say so: the header can be read and counted, a WebP decode has
a countable length, and the frame cap is not what stops the source. -/
theorem decodeSource_clientFault_iff :
    (∀ failure, decodeSource lib codecs query config bytes = Outcome.fail failure →
        (classifyResizeError failure).statusCode = 400) ↔
      SourceBlamed codecs query config bytes := by
  have errors := @fails_onFailure_iff _ _ ClientFault
    (decodeSource lib codecs query config bytes)
  refine errors.symm.trans ?_
  rw [SourceBlamed]
  cases detected : detectFormatFromBytes bytes with
  | none => exact fails_decodeSource_still lib codecs query config bytes detected rfl
  | some format =>
      have ignored (unwanted : ¬ wantsAnimatableOutput query) :
          decodeAnimated lib codecs query config bytes (some format) = pure none := by
        rw [decodeAnimated]
        exact if_neg unwanted
      cases format with
      | jpeg | png | avif =>
          apply fails_decodeSource_still lib codecs query config bytes detected
          simp only [decodeAnimated, decodeAnimationSource, ite_self]
      | gif =>
          by_cases wanted : wantsAnimatableOutput query
          · simp only [wanted, if_true]
            rw [← fails_decodeGifFrames_iff]
            refine Iff.trans ?_ (fails_lift_iff _)
            apply fails_decodeSource_animated lib codecs query config bytes detected
            rw [decodeAnimated]
            exact if_pos wanted
          · simp only [wanted]
            exact fails_decodeSource_still lib codecs query config bytes detected (ignored wanted)
      | webp =>
          by_cases wanted : wantsAnimatableOutput query
          · simp only [wanted, if_true]
            exact fails_decodeSource_webp lib codecs query config bytes detected wanted
          · simp only [wanted]
            exact fails_decodeSource_still lib codecs query config bytes detected (ignored wanted)

end Source

/-- A page served where an image was asked for. -/
def webPage : List UInt8 := Text.encodeUtf8 "<html></html>".toList

/-- Decoders that recognise no format. -/
def unrecognising : Codecs Unit :=
  { Codecs.blank with
    guessFormat := fun _ => .ok ()
    dimensions := fun _ _ => .error "The image format could not be determined" }

/-- A source that is no image is answered `502`. -/
theorem webPage_badGateway :
    ∃ failure, processImageBlocking .blank unrecognising .blank .default .default webPage none =
        Outcome.fail failure ∧ (classifyResizeError failure).statusCode = 502 :=
  ⟨(Failure.message "The image format could not be determined").context
    "Failed to read image dimensions", rfl, by decide⟩

end ImageResizer
