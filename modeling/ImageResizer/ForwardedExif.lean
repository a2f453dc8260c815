import ImageResizer.AvifMeta.ExifItem
import ImageResizer.Exif.Entries
import ImageResizer.Pipeline

/-!
# The EXIF a response keeps

With metadata kept and autorotation on, the EXIF of a source goes to the encoder.  Where the
decoder takes its orientation from the same EXIF, what is forwarded asks for no turn:
the entry that turned the pixels is neutralised.  An AVIF is turned by its item properties;
its EXIF is neutralised when they turn it, and forwarded as it is when they do not.
-/

namespace ImageResizer

open Exif (AsksNoTurn DiffersInOrientation readOrientation)

/-- What is forwarded is the source's EXIF up to the value of its orientation, and asks for
no turn. -/
def Upright (source forwarded : Option (List UInt8)) : Prop :=
  ∀ kept, forwarded = some kept →
    ∃ raw, source = some raw ∧ DiffersInOrientation raw kept ∧ AsksNoTurn kept

/-- The decoders report the orientation that their EXIF asks for. -/
structure Codecs.FollowExif {Content : Type} (codecs : Codecs Content) : Prop where
  rule : codecs.orientationFromExif = readOrientation
  still : ∀ format bytes source, codecs.openStill format bytes = .ok source →
    source.orientation.getD .noTransforms =
      (source.exifMetadata.bind readOrientation).getD .noTransforms

/-- An AVIF that its item properties do not turn, with EXIF that asks for a turn. -/
def UnturnedAvif (bytes : List UInt8) : Prop :=
  detectFormatFromBytes bytes = some .avif ∧
    (AvifMeta.parse bytes).orientation = .noTransforms ∧
    ∃ raw, (AvifMeta.parse bytes).exif = some raw ∧ ¬ AsksNoTurn raw

variable {Content : Type} (lib : Imaging Content) (codecs : Codecs Content)
variable (query : ResizeQuery) (config : PerformanceConfig) (bytes : List UInt8)

/-- The EXIF of a source, and what of it the encoder is given.  Animations have none. -/
def forwardedExif : Stage (Option (List UInt8) × Option (List UInt8)) := do
  match ← decodeSource lib codecs query config bytes with
  | .inl _ => pure (none, none)
  | .inr decoded => do
      let exif ← resolveExif query decoded.exifMetadata
        (decoded.sourceMetadata query).exifOrientationApplied
      pure (decoded.exifMetadata, exif)

section Decode

variable {codecs query config bytes} {format : Option SourceFormat}
variable {decoded : DecodedImage Content}

/-- The orientation of a decode is the one its EXIF asks for. -/
def DecodedImage.FollowsExif (decoded : DecodedImage Content) : Prop :=
  decoded.orientation = (decoded.exifMetadata.bind readOrientation).getD .noTransforms

/-- A still decoder's pixels come with its orientation and, when wanted, its EXIF. -/
theorem decoded_followsExif (follows : codecs.FollowExif) {source : StillSource Content}
    (opened : codecs.openStill format bytes = .ok source) (image : Raster Content) :
    (source.decoded true image).FollowsExif :=
  follows.still format bytes source opened

theorem decodeWithImageCrate_followsExif (follows : codecs.FollowExif) {limit : Nat}
    (ran : decodeWithImageCrate codecs bytes format limit true = .ok decoded) :
    decoded.FollowsExif := by
  obtain ⟨source, opened, rest⟩ := (Outcome.bind_ok_iff ..).mp ran
  obtain ⟨image, _, made⟩ := (Outcome.bind_ok_iff ..).mp rest
  cases made
  exact decoded_followsExif follows ((openLimited_ok_iff ..).mp opened).2.1 image

theorem decodeJpegScaled_followsExif (follows : codecs.FollowExif) {limit : Nat}
    (kept : query.stripMetadata = false)
    (ran : decodeJpegScaled codecs bytes limit query = .ok decoded) : decoded.FollowsExif := by
  obtain ⟨source, opened, rest⟩ := (Outcome.bind_ok_iff ..).mp ran
  obtain ⟨image, _, made⟩ := (Outcome.bind_ok_iff ..).mp rest
  rw [kept] at made
  cases made
  exact decoded_followsExif follows ((openLimited_ok_iff ..).mp opened).2.1 image

theorem decodeWebp_followsExif (follows : codecs.FollowExif) {limit : Nat}
    (ran : decodeWebp codecs bytes limit = .ok decoded) : decoded.FollowsExif := by
  obtain ⟨source, _, rest⟩ := (Outcome.bind_ok_iff ..).mp ran
  obtain ⟨_, _, rest⟩ := (Outcome.bind_ok_iff ..).mp rest
  obtain ⟨image, _, made⟩ := (Outcome.bind_ok_iff ..).mp rest
  cases made
  rw [DecodedImage.FollowsExif, follows.rule]

/-- The orientation of a decode is the one its EXIF asks for, AVIF apart. -/
theorem decodeStill_followsExif (follows : codecs.FollowExif)
    (kept : query.stripMetadata = false) (other : format ≠ some .avif)
    (ran : decodeStill codecs query config bytes format = .ok decoded) : decoded.FollowsExif := by
  obtain ⟨_, _, rest⟩ := (Outcome.bind_ok_iff ..).mp ran
  obtain ⟨_, _, rest⟩ := (Outcome.bind_ok_iff ..).mp rest
  have unscaled (limit : Nat)
      (ran : decodeUnscaled codecs bytes format limit query = .ok decoded) :
      decoded.FollowsExif := by
    unfold decodeUnscaled at ran
    split at ran
    · exact decodeWebp_followsExif follows ran
    · exact absurd rfl other
    · rw [kept] at ran
      exact decodeWithImageCrate_followsExif follows ran
  rw [decodeWithLimits] at rest
  split at rest
  · split at rest
    · rename_i scaled
      cases rest
      exact decodeJpegScaled_followsExif follows kept scaled
    · exact unscaled _ rest
  · exact unscaled _ rest

/-- An AVIF decode has the orientation of its item properties. -/
theorem decodeStill_avif (ran : decodeStill codecs query config bytes (some .avif) = .ok decoded) :
    decoded.orientation = (AvifMeta.parse bytes).orientation ∧
      decoded.exifMetadata = (AvifMeta.parse bytes).exif := by
  obtain ⟨_, _, rest⟩ := (Outcome.bind_ok_iff ..).mp ran
  obtain ⟨_, _, rest⟩ := (Outcome.bind_ok_iff ..).mp rest
  change decodeAvif codecs bytes _ = .ok decoded at rest
  obtain ⟨_, _, rest⟩ := (Outcome.bind_ok_iff ..).mp rest
  obtain ⟨_, _, rest⟩ := (Outcome.bind_ok_iff ..).mp rest
  obtain ⟨_, _, rest⟩ := (Outcome.bind_ok_iff ..).mp rest
  obtain ⟨_, _, made⟩ := (Outcome.bind_ok_iff ..).mp rest
  cases made
  exact ⟨rfl, rfl⟩

end Decode

/-- EXIF that is forwarded for pixels that were turned. -/
theorem upright_of_turned {exif forwarded : Option (List UInt8)}
    (resolved : resolveExif query exif true = .ok forwarded) : Upright exif forwarded := by
  intro kept isKept
  subst isKept
  unfold resolveExif at resolved
  split at resolved
  · cases resolved
  · split at resolved
    · cases resolved
    · rename_i raw
      exact ⟨raw, rfl, Exif.neutralizeExifOrientation_some resolved⟩

theorem differsInOrientation_self (exif : List UInt8) : DiffersInOrientation exif exif :=
  ⟨rfl, fun _ differs => absurd rfl differs⟩

/-- EXIF that is forwarded for pixels that were not turned. -/
theorem upright_iff_of_unturned {exif forwarded : Option (List UInt8)}
    (keeps : query.stripMetadata = false)
    (resolved : resolveExif query exif false = .ok forwarded) :
    Upright exif forwarded ↔ ∀ raw, exif = some raw → AsksNoTurn raw := by
  have same : forwarded = exif := by
    unfold resolveExif at resolved
    rw [keeps] at resolved
    cases exif with
    | none =>
        cases resolved
        rfl
    | some raw =>
        cases resolved
        rfl
  subst same
  constructor
  · intro upright raw isRaw
    obtain ⟨_, _, _, asksNothing⟩ := upright raw isRaw
    exact asksNothing
  · intro asksNothing kept isKept
    exact ⟨kept, isKept, differsInOrientation_self kept, asksNothing kept isKept⟩

section Autorotated

variable {query}

/-- Autorotation counts as applied when there is an orientation to apply. -/
theorem orientationApplied_eq (turns : query.autorotate = true) (decoded : DecodedImage Content) :
    (decoded.sourceMetadata query).exifOrientationApplied =
      decide (decoded.orientation ≠ .noTransforms) := by
  rw [DecodedImage.sourceMetadata, turns, Bool.true_and]

/-- The EXIF forwarded for a decode asks for no turn, unless nothing was turned and it asks
for one. -/
theorem upright_decoded_iff (turns : query.autorotate = true) (keeps : query.stripMetadata = false)
    {decoded : DecodedImage Content} {forwarded : Option (List UInt8)}
    (resolved : resolveExif query decoded.exifMetadata
      (decoded.sourceMetadata query).exifOrientationApplied = .ok forwarded) :
    Upright decoded.exifMetadata forwarded ↔
      ¬ (decoded.orientation = .noTransforms ∧
        ∃ raw, decoded.exifMetadata = some raw ∧ ¬ AsksNoTurn raw) := by
  rw [orientationApplied_eq turns] at resolved
  by_cases unturned : decoded.orientation = .noTransforms
  · rw [decide_eq_false (not_not.mpr unturned)] at resolved
    rw [upright_iff_of_unturned query keeps resolved]
    constructor
    · rintro asksNothing ⟨_, raw, isRaw, asks⟩
      exact asks (asksNothing raw isRaw)
    · intro none raw isRaw
      by_contra asks
      exact none ⟨unturned, raw, isRaw, asks⟩
  · rw [decide_eq_true unturned] at resolved
    exact iff_of_true (upright_of_turned query resolved) fun asked => unturned asked.1

/-- A decode that follows its EXIF and turns nothing has EXIF that asks for no turn. -/
theorem DecodedImage.FollowsExif.asksNoTurn {decoded : DecodedImage Content}
    (follows : decoded.FollowsExif) :
    ¬ (decoded.orientation = .noTransforms ∧
      ∃ raw, decoded.exifMetadata = some raw ∧ ¬ AsksNoTurn raw) := by
  rintro ⟨unturned, raw, isRaw, asks⟩
  apply asks
  rw [FollowsExif, isRaw, unturned] at follows
  exact follows.symm

end Autorotated

section Source

variable {lib codecs query config bytes}

/-- A still decode is one of the format that was detected. -/
theorem decodeStill_of_decodeSource {decoded : DecodedImage Content}
    (ran : decodeSource lib codecs query config bytes = .ok (.inr decoded)) :
    decodeStill codecs query config bytes (detectFormatFromBytes bytes) = .ok decoded := by
  obtain ⟨animation, _, rest⟩ := (Outcome.bind_ok_iff ..).mp ran
  cases animation with
  | some animation => cases rest
  | none =>
      obtain ⟨still, isStill, made⟩ := (Outcome.bind_ok_iff ..).mp rest
      cases made
      exact (Outcome.lift_ok_iff _ _).mp isStill

/-- An AVIF is not decoded as an animation. -/
theorem not_animation_of_avif (avif : detectFormatFromBytes bytes = some .avif)
    {frames : List (Frame Content) × Size}
    (ran : decodeSource lib codecs query config bytes = .ok (.inl frames)) : False := by
  obtain ⟨animation, animated, rest⟩ := (Outcome.bind_ok_iff ..).mp ran
  have still : animation = none := by
    rw [avif, decodeAnimated] at animated
    split at animated
    · cases animated
      rfl
    · cases animated
      rfl
  subst still
  obtain ⟨_, _, made⟩ := (Outcome.bind_ok_iff ..).mp rest
  cases made

/-- With autorotation on and metadata kept, the EXIF given to the encoder is absent or the
source's up to its orientation value and asks for no turn, unless the source is an AVIF that
its item properties leave unturned and whose EXIF asks for a turn. -/
theorem forwardedExif_upright_iff (follows : codecs.FollowExif)
    (turns : query.autorotate = true) (keeps : query.stripMetadata = false)
    {source forwarded : Option (List UInt8)}
    (ran : forwardedExif lib codecs query config bytes = .ok (source, forwarded)) :
    Upright source forwarded ↔ ¬ UnturnedAvif bytes := by
  obtain ⟨result, decodes, rest⟩ := (Outcome.bind_ok_iff ..).mp ran
  cases result with
  | inl frames =>
      cases rest
      apply iff_of_true
      · intro kept isKept
        cases isKept
      · intro unturned
        exact not_animation_of_avif unturned.1 decodes
  | inr decoded =>
      obtain ⟨exif, resolved, made⟩ := (Outcome.bind_ok_iff ..).mp rest
      cases made
      have still := decodeStill_of_decodeSource decodes
      rw [upright_decoded_iff turns keeps resolved]
      by_cases avif : detectFormatFromBytes bytes = some .avif
      · rw [avif] at still
        obtain ⟨orientation, exif⟩ := decodeStill_avif still
        rw [orientation, exif, UnturnedAvif, avif, eq_self_iff_true, true_and]
      · apply iff_of_true
        · exact (decodeStill_followsExif follows keeps avif still).asksNoTurn
        · intro unturned
          exact avif unturned.1

end Source

/-! ## An AVIF with EXIF that turns -/

/-- A block whose only entry asks for a quarter turn. -/
def quarterTurnExif : List UInt8 :=
  [0x49, 0x49, 0x2a, 0, 8, 0, 0, 0, 1, 0, 0x12, 0x01, 3, 0, 1, 0, 0, 0, 6, 0, 0, 0, 0, 0, 0, 0]

def unturnedInfos : AvifMeta.Bytes :=
  [0, 0, 0, 0, 0, 1] ++ AvifMeta.placed
    [⟨AvifMeta.fourCC 'i' 'n' 'f' 'e', [2, 0, 0, 0, 0, 1, 0, 0] ++ AvifMeta.fourCC 'E' 'x' 'i' 'f'⟩]

/-- The EXIF item lies 24 bytes into the file, behind the header of the second box. -/
def unturnedLocations : AvifMeta.ItemLocations where
  version := 0
  flags := [0, 0, 0]
  offsetSize := 4
  lengthSize := 4
  baseOffsetSize := 0
  indexSize := 0
  entries := [⟨1, 0, 0, [0, 0], 0, [⟨0, 24, 30⟩]⟩]
  trailing := []

/-- An AVIF without item properties. -/
def unturnedAvif : List UInt8 :=
  AvifMeta.placed
    [⟨AvifMeta.fourCC 'f' 't' 'y' 'p', AvifMeta.fourCC 'a' 'v' 'i' 'f' ++ [0, 0, 0, 0]⟩,
      ⟨AvifMeta.fourCC 'm' 'd' 'a' 't', AvifMeta.payload [] quarterTurnExif⟩,
      ⟨AvifMeta.fourCC 'm' 'e' 't' 'a', [0, 0, 0, 0] ++ AvifMeta.placed
        [⟨AvifMeta.fourCC 'i' 'i' 'n' 'f', unturnedInfos⟩,
          ⟨AvifMeta.fourCC 'i' 'l' 'o' 'c', unturnedLocations.write⟩]⟩]

/-- Decoders that read every AVIF as one pixel. -/
def onePixelAvif : Codecs Unit :=
  { Codecs.blank with
    avifContainer := fun _ => .ok ()
    avifSequenceHeader := fun _ => .ok (.floored 1 1)
    avifDecoder := fun _ => .ok ()
    avifPixels := fun _ => .ok ⟨.floored 1 1, .rgb8, ()⟩
    orientationFromExif := readOrientation }

/-- Metadata kept, for a JPEG. -/
def keepsMetadata : ResizeQuery :=
  { ResizeQuery.default with format := .jpg, stripMetadata := false }

example : readOrientation quarterTurnExif = some .rotate90 := by decide +kernel

theorem unturnedAvif_parse :
    AvifMeta.parse unturnedAvif = ⟨.noTransforms, some quarterTurnExif⟩ := by
  decide +kernel

theorem onePixelAvif_follows : onePixelAvif.FollowExif where
  rule := rfl
  still _ _ _ opened := by cases opened

theorem unturnedAvif_forwarded :
    forwardedExif Imaging.blank onePixelAvif keepsMetadata .default unturnedAvif =
      .ok (some quarterTurnExif, some quarterTurnExif) := by
  have detected : detectFormatFromBytes unturnedAvif = some .avif := by decide +kernel
  have decodes : decodeStill onePixelAvif keepsMetadata .default unturnedAvif (some .avif) =
      .ok
        { image := ⟨.floored 1 1, .rgb8, ()⟩
          orientation := (AvifMeta.parse unturnedAvif).orientation
          iccProfile := none
          exifMetadata := (AvifMeta.parse unturnedAvif).exif } := rfl
  rw [unturnedAvif_parse] at decodes
  rw [forwardedExif, decodeSource, detected, decodes]
  rfl

/-- The condition for the forwarded EXIF, on this file. -/
theorem unturnedAvif_upright_iff :
    Upright (some quarterTurnExif) (some quarterTurnExif) ↔ ¬ UnturnedAvif unturnedAvif :=
  forwardedExif_upright_iff onePixelAvif_follows rfl rfl unturnedAvif_forwarded

/-- An AVIF without item properties keeps EXIF that turns its pixels. -/
theorem unturnedAvif_kept :
    onePixelAvif.FollowExif ∧ keepsMetadata.autorotate = true ∧
      keepsMetadata.stripMetadata = false ∧
      forwardedExif Imaging.blank onePixelAvif keepsMetadata .default unturnedAvif =
        .ok (some quarterTurnExif, some quarterTurnExif) ∧
      ¬ Upright (some quarterTurnExif) (some quarterTurnExif) := by
  refine ⟨onePixelAvif_follows, rfl, rfl, unturnedAvif_forwarded, ?_⟩
  intro upright
  obtain ⟨_, _, _, asksNothing⟩ := upright quarterTurnExif rfl
  exact absurd asksNothing (by decide +kernel)

end ImageResizer
