import ImageResizer.Encode
import ImageResizer.Foundation.Riff
import ImageResizer.Foundation.TwoRuns

/-!
# Animated WebP

`encode_animated_webp` assembles its container by hand.  Read back as a RIFF file it is a
canvas header, an animation header and one frame chunk for each frame, in order, whose
payload ends in the image chunk the still encoder wrote.
-/

namespace ImageResizer

open Reader Riff Failure

section Container

/-- The digits of `to_le_bytes`. -/
theorem littleEndian_eq (width value : Nat) : littleEndian width value = uintBytesLE width value := by
  induction width generalizing value with
  | zero => rfl
  | succ width ih =>
      rw [littleEndian, ih, uintBytesLE, uintBytesLE, uintBytes, List.reverse_append]
      congr 1
      rw [← UInt8.toNat_inj, UInt8.toNat_ofNat', UInt8.toNat_ofNat']
      omega

theorem writeRiffChunk_eq (fourcc payload : List UInt8) :
    writeRiffChunk fourcc payload = Chunk.written ⟨fourcc, payload⟩ := by
  rw [writeRiffChunk, littleEndian_eq, List.append_assoc, List.append_assoc]
  rfl

/-- A value in little-endian bytes, alone. -/
def readWhole {α : Type} (reader : Reader α) (data : List UInt8) : Option α :=
  match reader.run data with
  | some (value, []) => some value
  | _ => none

theorem readWhole_written {α : Type} {reader : Reader α} {written : List UInt8} {value : α}
    (reads : Reads reader written value) : readWhole reader written = some value := by
  have whole := reads []
  rw [List.append_nil] at whole
  rw [readWhole, whole]

/-- What a `VP8X` chunk says of the canvas. -/
structure CanvasHeader where
  flags : Nat
  width : Nat
  height : Nat
  deriving DecidableEq

/-- The flag that announces an animation. -/
def CanvasHeader.animated (header : CanvasHeader) : Bool := header.flags / 2 % 2 == 1

/-- A `VP8X` payload: flags, three reserved bytes, and the canvas size less one. -/
def readCanvas : Reader CanvasHeader := do
  let flags ← uintLE 1
  let _ ← bytes 3
  let width ← uintLE 3
  let height ← uintLE 3
  pure { flags, width := width + 1, height := height + 1 }

/-- What an `ANMF` chunk says of one frame. -/
structure FrameHeader where
  x : Nat
  y : Nat
  width : Nat
  height : Nat
  durationMs : Nat
  flags : Nat
  deriving DecidableEq

/-- The front of an `ANMF` payload: halved offsets, the frame size less one, the duration and
the flags. -/
def readFrameHeader : Reader FrameHeader := do
  let x ← uintLE 3
  let y ← uintLE 3
  let width ← uintLE 3
  let height ← uintLE 3
  let durationMs ← uintLE 3
  let flags ← uintLE 1
  pure { x := 2 * x, y := 2 * y, width := width + 1, height := height + 1, durationMs, flags }

/-- An `ANMF` payload: its header, and the chunk of its image behind it. -/
def readFrame (payload : List UInt8) : Option (FrameHeader × Chunk) := do
  let (header, rest) ← readFrameHeader.run payload
  let image ← readWhole Chunk.read rest
  pure (header, image)

variable {size : Size}

theorem reads_canvas (width : size.width ≤ 2 ^ 24) (height : size.height ≤ 2 ^ 24) :
    Reads readCanvas ([0x12, 0, 0, 0] ++ uintBytesLE 3 (size.width - 1) ++
      uintBytesLE 3 (size.height - 1)) ⟨0x12, size.width, size.height⟩ := by
  have widthPos := size.widthPos
  have heightPos := size.heightPos
  have back : size.width - 1 + 1 = size.width := by omega
  have backHeight : size.height - 1 + 1 = size.height := by omega
  have widths := @reads_uintLE 3 (size.width - 1) (by omega)
  have heights := @reads_uintLE 3 (size.height - 1) (by omega)
  have flags : Reads (uintLE 1) [0x12] 0x12 := @reads_uintLE 1 0x12 (by decide)
  have reserved : Reads (bytes 3) [0, 0, 0] [0, 0, 0] := Reads.bytes [0, 0, 0]
  rw [List.append_assoc]
  apply flags.bind
  apply reserved.bind
  apply widths.bind
  apply heights.done
  rw [back, backHeight]
  exact Reads.pure _

theorem reads_frameHeader {duration : Nat} (width : size.width ≤ 2 ^ 24)
    (height : size.height ≤ 2 ^ 24) (short : duration < 2 ^ 24) :
    Reads readFrameHeader (uintBytesLE 3 0 ++ (uintBytesLE 3 0 ++
      (uintBytesLE 3 (size.width - 1) ++ (uintBytesLE 3 (size.height - 1) ++
        (uintBytesLE 3 duration ++ [0x02])))))
      ⟨0, 0, size.width, size.height, duration, 2⟩ := by
  have widthPos := size.widthPos
  have heightPos := size.heightPos
  have back : size.width - 1 + 1 = size.width := by omega
  have backHeight : size.height - 1 + 1 = size.height := by omega
  have zero := @reads_uintLE 3 0 (by decide)
  have widths := @reads_uintLE 3 (size.width - 1) (by omega)
  have heights := @reads_uintLE 3 (size.height - 1) (by omega)
  have durations := @reads_uintLE 3 duration (by omega)
  have flags : Reads (uintLE 1) [0x02] 0x02 := @reads_uintLE 1 0x02 (by decide)
  apply zero.bind
  apply zero.bind
  apply widths.bind
  apply heights.bind
  apply durations.bind
  apply flags.done
  rw [back, backHeight]
  exact Reads.pure _

theorem readFrame_anmfPayload {image : Chunk} (width : size.width ≤ 2 ^ 24)
    (height : size.height ≤ 2 ^ 24) (durationMs : Nat) (fits : image.Fits) :
    readFrame (anmfPayload size durationMs image.written) =
      some (⟨0, 0, size.width, size.height, min durationMs (2 ^ 24 - 1), 2⟩, image) := by
  have short : min durationMs (2 ^ 24 - 1) < 2 ^ 24 := by omega
  have header := reads_frameHeader width height short image.written
  have body := readWhole_written (Chunk.reads_written fits)
  have payload : anmfPayload size durationMs image.written =
      (uintBytesLE 3 0 ++ (uintBytesLE 3 0 ++ (uintBytesLE 3 (size.width - 1) ++
        (uintBytesLE 3 (size.height - 1) ++
          (uintBytesLE 3 (min durationMs (2 ^ 24 - 1)) ++ [0x02]))))) ++ image.written := by
    unfold anmfPayload
    simp only [littleEndian_eq, List.append_assoc]
  rw [readFrame, payload, header]
  simp only [Option.bind_eq_bind, Option.bind_some, body]
  rfl

end Container

section Frames

variable {Content : Type} {encoders : Encoders Content} {size : Size}

/-- The still encoder writes a header of twelve bytes and one padded chunk. -/
def Encoders.StillChunks (encoders : Encoders Content) : Prop :=
  ∀ image encoded, encoders.webpPlain image = .ok encoded →
    ∃ (header : List UInt8) (chunk : Chunk),
      header.length = 12 ∧ chunk.fourcc.length = 4 ∧ encoded = header ++ chunk.written

/-- The chunk of one frame, around the chunk of its image. -/
def frameChunk (size : Size) (frame : Frame Content) (image : Chunk) : Chunk where
  fourcc := AvifMeta.fourCC 'A' 'N' 'M' 'F'
  payload := anmfPayload size (delayMs frame.delay) image.written

/-- The chunk holds the frame as the still encoder wrote it. -/
def Wraps (encoders : Encoders Content) (size : Size) (frame : Frame Content) (chunk : Chunk) :
    Prop :=
  ∃ (header : List UInt8) (image : Chunk),
    encoders.webpPlain frame.image = .ok (header ++ image.written) ∧ header.length = 12 ∧
      image.fourcc.length = 4 ∧ chunk = frameChunk size frame image

theorem anmfChunk_ok_iff (emits : encoders.StillChunks) {frame : Frame Content}
    {written : List UInt8} : anmfChunk encoders size frame = .ok written ↔
      frame.image.size = size ∧ ∃ chunk, Wraps encoders size frame chunk ∧
        written = chunk.written := by
  have stripped (header : List UInt8) (image : Chunk) (twelve : header.length = 12) :
      (header ++ image.written).drop 12 = image.written := List.drop_left' twelve
  have long (header : List UInt8) (image : Chunk) (twelve : header.length = 12) :
      ¬ (header ++ image.written).length < 12 := by
    rw [List.length_append]
    omega
  unfold anmfChunk
  constructor
  · intro made
    split at made
    case isTrue differs => cases made
    case isFalse same =>
        obtain ⟨encoded, encodes, wrapped⟩ := (Outcome.bind_ok_iff ..).mp made
        rw [withContext_ok_iff] at encodes
        obtain ⟨header, image, twelve, code, rfl⟩ := emits _ _ encodes
        rw [if_neg (long header image twelve), stripped header image twelve] at wrapped
        cases wrapped
        exact ⟨not_not.mp same, frameChunk size frame image,
          ⟨header, image, encodes, twelve, code, rfl⟩, writeRiffChunk_eq _ _⟩
  · rintro ⟨same, chunk, ⟨header, image, encodes, twelve, code, rfl⟩, rfl⟩
    rw [if_neg (not_not.mpr same), encodes]
    change (if _ then _ else _) = _
    rw [if_neg (long header image twelve), stripped header image twelve, writeRiffChunk_eq]
    rfl

/-- The frame chunks of an animation, in order. -/
theorem anmfChunks_ok (emits : encoders.StillChunks) {frames : List (Frame Content)}
    {chunks : List (List UInt8)} (made : frames.mapM (anmfChunk encoders size) = .ok chunks) :
    ∃ anmfs : List Chunk, List.Forall₂ (Wraps encoders size) frames anmfs ∧
      chunks.flatten = anmfs.flatMap Chunk.written := by
  have pairs := (Outcome.mapM_ok_iff _ _ _).mp made
  induction pairs with
  | nil => exact ⟨[], .nil, rfl⟩
  | @cons frame written frames chunks first others ih =>
      obtain ⟨-, chunk, wraps, rfl⟩ := (anmfChunk_ok_iff emits).mp first
      obtain ⟨anmfs, rest, flat⟩ := ih ((Outcome.mapM_ok_iff _ _ _).mpr others)
      refine ⟨chunk :: anmfs, .cons wraps rest, ?_⟩
      rw [List.flatten_cons, List.flatMap_cons, flat]

end Frames

section Animation

variable {Content : Type} {encoders : Encoders Content} {size : Size}

def canvasChunk (size : Size) : Chunk where
  fourcc := AvifMeta.fourCC 'V' 'P' '8' 'X'
  payload := [0x12, 0, 0, 0] ++ uintBytesLE 3 (size.width - 1) ++ uintBytesLE 3 (size.height - 1)

def animationChunk : Chunk where
  fourcc := AvifMeta.fourCC 'A' 'N' 'I' 'M'
  payload := [0, 0, 0, 0, 0, 0]

/-- The file the container is. -/
def animatedForm (size : Size) (anmfs : List Chunk) : Form where
  formType := AvifMeta.fourCC 'W' 'E' 'B' 'P'
  chunks := canvasChunk size :: animationChunk :: anmfs

theorem animatedContainer_eq {chunks : List (List UInt8)} {anmfs : List Chunk}
    (flat : chunks.flatten = anmfs.flatMap Chunk.written) :
    animatedContainer size chunks = (animatedForm size anmfs).written := by
  have body : (animatedForm size anmfs).body =
      AvifMeta.fourCC 'W' 'E' 'B' 'P' ++ ((canvasChunk size).written ++
        (animationChunk.written ++ anmfs.flatMap Chunk.written)) := by
    unfold Form.body animatedForm
    rw [List.flatMap_cons, List.flatMap_cons]
  have magicIs : AvifMeta.fourCC 'R' 'I' 'F' 'F' = magic := by decide
  unfold animatedContainer Form.written
  simp only [writeRiffChunk_eq, littleEndian_eq, flat, magicIs, List.append_assoc, body]
  rfl

/-- What a reader finds in one frame chunk: the frame at the origin, as large as the canvas,
for its delay, and the image chunk the still encoder wrote. -/
def ShowsFrame (encoders : Encoders Content) (size : Size) (frame : Frame Content)
    (chunk : Chunk) : Prop :=
  chunk.fourcc = AvifMeta.fourCC 'A' 'N' 'M' 'F' ∧
    ∃ (header : List UInt8) (image : Chunk),
      encoders.webpPlain frame.image = .ok (header ++ image.written) ∧ header.length = 12 ∧
        readFrame chunk.payload =
          some (⟨0, 0, size.width, size.height, min (delayMs frame.delay) (2 ^ 24 - 1), 2⟩, image)

/-- What a reader finds in the file. -/
structure ParsesBack (encoders : Encoders Content) (frames : List (Frame Content)) (size : Size)
    (data : List UInt8) : Prop where
  parses : ∃ canvas animation anmfs,
    readForm data = some ⟨AvifMeta.fourCC 'W' 'E' 'B' 'P', canvas :: animation :: anmfs⟩ ∧
      canvas.fourcc = AvifMeta.fourCC 'V' 'P' '8' 'X' ∧
      (readWhole readCanvas canvas.payload = some ⟨0x12, size.width, size.height⟩ ∧
        CanvasHeader.animated ⟨0x12, size.width, size.height⟩ = true) ∧
      animation.fourcc = AvifMeta.fourCC 'A' 'N' 'I' 'M' ∧
      List.Forall₂ (ShowsFrame encoders size) frames anmfs

theorem Wraps.shows {frame : Frame Content} {chunk : Chunk} (wraps : Wraps encoders size frame chunk)
    (width : size.width ≤ 2 ^ 24) (height : size.height ≤ 2 ^ 24)
    (small : chunk.payload.length < 2 ^ 32) : ShowsFrame encoders size frame chunk := by
  obtain ⟨header, image, encodes, twelve, code, rfl⟩ := wraps
  refine ⟨rfl, header, image, encodes, twelve, ?_⟩
  apply readFrame_anmfPayload width height
  constructor
  · exact code
  · have payload := image.length_payload_le
    unfold frameChunk anmfPayload at small
    rw [List.length_append] at small
    omega

theorem fourcc_of_wraps {frames : List (Frame Content)} {anmfs : List Chunk}
    (wraps : List.Forall₂ (Wraps encoders size) frames anmfs) :
    ∀ chunk ∈ anmfs, chunk.fourcc = AvifMeta.fourCC 'A' 'N' 'M' 'F' := by
  induction wraps with
  | nil =>
      intro chunk member
      cases member
  | cons wrapped _ ih =>
      intro chunk member
      rcases List.mem_cons.mp member with rfl | later
      case inl =>
          obtain ⟨header, image, -, -, -, rfl⟩ := wrapped
          rfl
      case inr => exact ih chunk later

theorem canvasHeader_animated (width height : Nat) :
    CanvasHeader.animated ⟨0x12, width, height⟩ = true := by
  change ((0x12 : Nat) / 2 % 2 == 1) = true
  decide

theorem parsesBack_of_wraps {frames : List (Frame Content)} {anmfs : List Chunk}
    (wraps : List.Forall₂ (Wraps encoders size) frames anmfs) (width : size.width ≤ 2 ^ 24)
    (height : size.height ≤ 2 ^ 24) (small : (animatedForm size anmfs).written.length < 2 ^ 32) :
    ParsesBack encoders frames size (animatedForm size anmfs).written := by
  have counted : (animatedForm size anmfs).body.length < 2 ^ 32 := by
    rw [Form.written, List.length_append, List.length_append] at small
    omega
  have payloads : ∀ chunk ∈ (animatedForm size anmfs).chunks,
      chunk.payload.length < 2 ^ 32 := by
    intro chunk member
    have payload := length_payload_le_flatMap member
    rw [Form.body, List.length_append] at counted
    omega
  have anmfMember {chunk : Chunk} (member : chunk ∈ anmfs) :
      chunk ∈ (animatedForm size anmfs).chunks :=
    List.mem_cons_of_mem _ (List.mem_cons_of_mem _ member)
  have fits : ∀ chunk ∈ (animatedForm size anmfs).chunks, chunk.Fits := by
    intro chunk member
    refine ⟨?_, payloads chunk member⟩
    rcases List.mem_cons.mp member with rfl | member
    case inl => rfl
    case inr =>
        rcases List.mem_cons.mp member with rfl | member
        case inl => rfl
        case inr =>
            rw [fourcc_of_wraps wraps chunk member]
            rfl
  have form := readForm_written (show (animatedForm size anmfs).formType.length = 4 from rfl)
    fits counted
  refine ⟨canvasChunk size, animationChunk, anmfs, form, rfl,
    ⟨readWhole_written (reads_canvas width height), canvasHeader_animated _ _⟩, rfl, ?_⟩
  rw [List.forall₂_iff_zip]
  refine ⟨wraps.length_eq, fun {frame chunk} pair => ?_⟩
  have wrapped := List.forall₂_zip wraps pair
  exact wrapped.shows width height (payloads chunk (anmfMember (List.of_mem_zip pair).2))

/-- Frames that were all wrapped are all as large as the canvas. -/
theorem sizes_of_chunks {frames : List (Frame Content)} {chunks : List (List UInt8)}
    (made : frames.mapM (anmfChunk encoders size) = .ok chunks) :
    ∀ frame ∈ frames, frame.image.size = size := by
  have pairs := (Outcome.mapM_ok_iff _ _ _).mp made
  clear made
  induction pairs with
  | nil =>
      intro frame member
      cases member
  | @cons head written frames chunks first _ ih =>
      intro frame member
      rcases List.mem_cons.mp member with rfl | later
      case inl =>
          by_contra differs
          unfold anmfChunk at first
          rw [if_pos differs] at first
          cases first
      case inr => exact ih frame later

/-- Frames as large as the canvas that the encoder accepts are all wrapped. -/
theorem chunks_of_sizes (emits : encoders.StillChunks) {frames : List (Frame Content)}
    (same : ∀ frame ∈ frames, frame.image.size = size)
    (encodes : ∀ frame ∈ frames, ∃ encoded, encoders.webpPlain frame.image = .ok encoded) :
    ∃ chunks, frames.mapM (anmfChunk encoders size) = .ok chunks := by
  induction frames with
  | nil => exact ⟨[], rfl⟩
  | cons frame frames ih =>
      obtain ⟨encoded, ok⟩ := encodes frame (List.mem_cons_self ..)
      obtain ⟨header, image, twelve, code, rfl⟩ := emits _ _ ok
      have first := (anmfChunk_ok_iff emits).mpr ⟨same frame (List.mem_cons_self ..),
        frameChunk size frame image, ⟨header, image, ok, twelve, code, rfl⟩, rfl⟩
      obtain ⟨chunks, rest⟩ := ih (fun other member => same other (List.mem_cons_of_mem _ member))
        fun other member => encodes other (List.mem_cons_of_mem _ member)
      have others := (Outcome.mapM_ok_iff _ _ _).mp rest
      exact ⟨_ :: chunks, (Outcome.mapM_ok_iff _ _ _).mpr (.cons first others)⟩

/-- An animation is encoded when its frames have one size the container can name and the
still encoder accepts each; what is written reads back as those frames; and frames of
differing sizes are refused. -/
theorem encodeAnimatedWebp_parses (emits : encoders.StillChunks) (first : Frame Content)
    (frames : List (Frame Content)) :
    (first.image.size.width ≤ 2 ^ 24 → first.image.size.height ≤ 2 ^ 24 →
      (∀ frame ∈ first :: frames, frame.image.size = first.image.size) →
      (∀ frame ∈ first :: frames, ∃ encoded, encoders.webpPlain frame.image = .ok encoded) →
      ∃ data, encodeAnimatedWebp encoders (first :: frames) = .ok (data, "image/webp")) ∧
    (∀ data kind, encodeAnimatedWebp encoders (first :: frames) = .ok (data, kind) →
      data.length < 2 ^ 32 → ParsesBack encoders (first :: frames) first.image.size data) ∧
    ((∃ frame ∈ first :: frames, frame.image.size ≠ first.image.size) →
      ∃ failure, encodeAnimatedWebp encoders (first :: frames) = .error failure) := by
  unfold encodeAnimatedWebp
  dsimp only
  refine ⟨?_, ?_, ?_⟩
  · intro width height same encodes
    obtain ⟨chunks, made⟩ := chunks_of_sizes emits same encodes
    rw [if_neg (not_lt.mpr width), if_neg (not_lt.mpr height), made]
    exact ⟨_, rfl⟩
  · intro data kind ended small
    split at ended
    case isTrue wide => cases ended
    case isFalse width =>
        split at ended
        case isTrue high => cases ended
        case isFalse height =>
            obtain ⟨chunks, made, rest⟩ := (Outcome.bind_ok_iff ..).mp ended
            cases rest
            obtain ⟨anmfs, wraps, flat⟩ := anmfChunks_ok emits made
            rw [animatedContainer_eq flat] at small ⊢
            exact parsesBack_of_wraps wraps (not_lt.mp width) (not_lt.mp height) small
  · rintro ⟨frame, member, differs⟩
    split
    case isTrue wide => exact ⟨_, rfl⟩
    case isFalse width =>
        split
        case isTrue high => exact ⟨_, rfl⟩
        case isFalse height =>
            cases made : (first :: frames).mapM (anmfChunk encoders first.image.size) with
            | error failure => exact ⟨failure, rfl⟩
            | ok chunks => exact absurd (sizes_of_chunks made frame member) differs

/-- The header and the chunk of a lossless WebP of one transparent pixel. -/
def onePixelHeader : List UInt8 :=
  [0x52, 0x49, 0x46, 0x46, 0x1a, 0, 0, 0, 0x57, 0x45, 0x42, 0x50]

def onePixelChunk : Chunk where
  fourcc := [0x56, 0x50, 0x38, 0x4c]
  payload := [0x2f, 0, 0, 0, 0x10, 0x07, 0x10, 0x11, 0x11, 0x88, 0x88, 0xfe, 0x07]

/-- A still encoder for that pixel. -/
def onePixelEncoders : Encoders Unit :=
  { Encoders.blank with webpPlain := fun _ => .ok (onePixelHeader ++ onePixelChunk.written) }

def onePixelFrame : Frame Unit := ⟨⟨.floored 1 1, .rgba8, ()⟩, (40, 1)⟩

theorem encodeAnimatedWebp_parses_onePixel :
    ∃ data, encodeAnimatedWebp onePixelEncoders [onePixelFrame, onePixelFrame] =
      .ok (data, "image/webp") := by
  have emits : onePixelEncoders.StillChunks := by
    intro image encoded ok
    exact ⟨onePixelHeader, onePixelChunk, rfl, rfl, (Except.ok.inj ok).symm⟩
  obtain ⟨encodes, -, -⟩ := encodeAnimatedWebp_parses emits onePixelFrame [onePixelFrame]
  apply encodes
  · decide
  · decide
  · intro frame member
    rcases List.mem_cons.mp member with rfl | last
    · rfl
    · rw [List.mem_singleton.mp last]
  · intro frame _
    exact ⟨_, rfl⟩

end Animation

end ImageResizer
