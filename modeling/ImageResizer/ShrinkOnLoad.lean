import ImageResizer.AnimationAgreement
import ImageResizer.Foundation.Nearness
import ImageResizer.Sizing.Prediction
import ImageResizer.Sizing.Reduced

/-!
# Shrink on load

A JPEG is decoded at the scale that a prediction of the resize picks, and trim, crop and the
sizing then run on the reduced raster.  What the pipeline makes of the reduced decode is
compared with what it makes of the full one, in the coordinates of the upright source.
-/

namespace ImageResizer

open Outcome (After)

/-! ## The part that is left, from any decode -/

namespace Placement

variable (placement : Placement)

theorem crop_whole (size : Size) : placement.crop (.whole size) = placement := by
  simp [crop, Window.whole]

theorem crop_crop (first second : Window) :
    (placement.crop first).crop second =
      placement.crop ⟨first.x + second.x, first.y + second.y, second.size⟩ := by
  simp only [crop, Nat.cast_add, add_mul, add_assoc]

/-- Pixels of the raster span some of the source. -/
def Positive : Prop := 0 < placement.across ∧ 0 < placement.down

variable {placement}

theorem Positive.crop (positive : placement.Positive) (window : Window) :
    (placement.crop window).Positive := positive

theorem Positive.resample (positive : placement.Positive) (size target : Size) :
    (placement.resample size target).Positive := by
  have ratio {length bound : Nat} (lengthPos : 0 < length) (boundPos : 0 < bound) :
      (0 : ℚ) < length / bound :=
    div_pos (Nat.cast_pos.mpr lengthPos) (Nat.cast_pos.mpr boundPos)
  constructor
  · exact mul_pos (ratio size.widthPos target.widthPos) positive.1
  · exact mul_pos (ratio size.heightPos target.heightPos) positive.2

theorem Positive.resize (positive : placement.Positive) (step : Resize) (size : Size) :
    (step.placement size placement).Positive := by
  have scaled : (step.scaled.elim placement (placement.resample size)).Positive := by
    cases step.scaled with
    | none => exact positive
    | some target => exact positive.resample size target
  rw [Resize.placement]
  cases step.window with
  | none => exact scaled
  | some window => exact scaled.crop window

theorem Positive.map_le_iff (positive : placement.Positive) (first second : Point) :
    placement.map first ≤ placement.map second ↔ first ≤ second := by
  obtain ⟨across, down⟩ := positive
  simp only [map, Prod.le_def, add_le_add_iff_left, mul_le_mul_iff_left₀ across,
    mul_le_mul_iff_left₀ down]

theorem Positive.point_injective (positive : placement.Positive) :
    Function.Injective placement.map := by
  intro first second same
  apply le_antisymm
  · exact (positive.map_le_iff first second).mp same.le
  · exact (positive.map_le_iff second first).mp same.ge

theorem Positive.point_surjective (positive : placement.Positive) :
    Function.Surjective placement.map := by
  intro point
  refine ⟨((point.1 - placement.left) / placement.across,
    (point.2 - placement.top) / placement.down), ?_⟩
  apply Prod.ext
  · simp [map, div_mul_cancel₀ _ positive.1.ne']
  · simp [map, div_mul_cancel₀ _ positive.2.ne']

/-- The points of a raster are mapped onto a rectangle of the source. -/
theorem Positive.image_area (positive : placement.Positive) (size : Size) :
    placement.map '' size.area =
      Set.Icc (placement.map (0, 0)) (placement.map (size.width, size.height)) := by
  ext point
  obtain ⟨inner, rfl⟩ := positive.point_surjective point
  rw [positive.point_injective.mem_set_image, Set.mem_Icc, positive.map_le_iff,
    positive.map_le_iff]
  rfl

end Placement

/-- The points of the source that a raster shows. -/
def Provenance.region (provenance : Provenance) : Set Point :=
  provenance.source '' provenance.drawn

theorem lying_region (query : ResizeQuery) {placement : Placement}
    (positive : placement.Positive) (size : Size) (corner : Nat × Nat) :
    (lying query placement size corner).region =
      Set.Icc (placement.map (0, 0)) (placement.map (size.width, size.height)) := by
  rw [← positive.image_area]
  ext point
  constructor
  · rintro ⟨shown, drawn, rfl⟩
    exact ⟨_, (turnBack_mem_area query size _).mpr drawn, rfl⟩
  · rintro ⟨inner, inside, rfl⟩
    obtain ⟨turned, rfl⟩ := turnBack_surjective query size inner
    have back : cornerBack corner (turned.1 + corner.1, turned.2 + corner.2) = turned := by
      simp [cornerBack]
    refine ⟨(turned.1 + corner.1, turned.2 + corner.2), ?_, ?_⟩
    · change cornerBack corner _ ∈ (sizeAfterTurn query size).area
      rw [back]
      exact (turnBack_mem_area query size turned).mp inside
    · change placement.map (turnBack query size (cornerBack corner _)) = _
      rw [back]

section Stages

variable {Content : Type} (lib : Imaging Content) (query : ResizeQuery)

/-- The raster whose pixels trim reads. -/
def Raster.asRgba8 (image : Raster Content) : Raster Content :=
  if image.color = .rgba8 then image
  else { image with color := .rgba8, content := lib.convert .rgba8 image }

theorem toRgba8_plain {image rgba : Raster (Content × Provenance)}
    (converted : image.toRgba8 lib.traced = .ok rgba) : rgba.plain = image.plain.asRgba8 lib := by
  have erased := toColor_plain lib image .rgba8
  rw [Raster.toRgba8] at converted
  rw [converted] at erased
  have made : image.plain.toColor lib .rgba8 = .ok rgba.plain := erased.symm
  rw [Raster.toColor] at made
  rw [Raster.asRgba8]
  split at made
  case isTrue same =>
      rw [if_pos same]
      exact (Except.ok.inj made).symm
  case isFalse differs =>
      obtain ⟨_, -, ended⟩ := (Outcome.bind_ok_iff ..).mp made
      rw [if_neg differs]
      exact (Except.ok.inj ended).symm

theorem asRgba8_size (image : Raster Content) : (image.asRgba8 lib).size = image.size := by
  rw [Raster.asRgba8]
  split <;> rfl

variable {image : Raster (Content × Provenance)} {placement : Placement}

/-- Trim leaves its part of what it is given. -/
theorem trimStage_kept (shows_ : image.Shows placement) :
    After (trimStage lib.traced query image) fun trimmed =>
      trimmed.size = (trimKeeps lib query (image.plain.asRgba8 lib)).size ∧
        trimmed.Shows (placement.crop (trimKeeps lib query (image.plain.asRgba8 lib))) := by
  intro trimmed ended
  have size : (image.plain.asRgba8 lib).size = image.size := asRgba8_size lib image.plain
  rw [trimStage] at ended
  rw [trimKeeps]
  cases asked : query.trim with
  | none =>
      rw [asked] at ended
      cases ended
      refine ⟨size.symm, ?_⟩
      dsimp only
      rw [placement.crop_whole]
      exact shows_
  | some trim =>
      rw [asked] at ended
      obtain ⟨rgba, converted, -⟩ := (Outcome.bind_ok_iff ..).mp ended
      have edges : trimEdges lib.traced rgba trim =
          trimEdges lib (image.plain.asRgba8 lib) trim := by
        rw [← toRgba8_plain lib converted]
        rfl
      dsimp only at ended ⊢
      rw [applyTrim_ok converted, edges] at ended
      obtain rfl := Except.ok.inj ended
      rw [size]
      split
      case isTrue => exact ⟨rfl, (placement.crop_whole image.size).symm ▸ shows_⟩
      case isFalse covered => exact ⟨rfl, shows_.crop (trimmed_inside covered)⟩

/-- Trim and crop leave their part of what they are given. -/
theorem prepareStill_kept (shows_ : image.Shows placement) :
    After (prepareStill lib.traced query ⟨image, .noTransforms, none, none⟩) fun prepared =>
      prepared.size = (keptWindow lib query (image.plain.asRgba8 lib)).size ∧
        prepared.Shows (placement.crop (keptWindow lib query (image.plain.asRgba8 lib))) := by
  have upright : autorotate lib.traced query ⟨image, .noTransforms, none, none⟩ = image := by
    rw [autorotate]
    split <;> rfl
  intro prepared ended
  rw [prepareStill, upright] at ended
  obtain ⟨trimmed, trims, cropped⟩ := (Outcome.bind_ok_iff ..).mp ended
  obtain rfl := Except.ok.inj cropped
  obtain ⟨size, shown⟩ := trimStage_kept lib query shows_ trimmed trims
  rw [cropStage, keptWindow]
  cases query.crop with
  | none => exact ⟨size, shown⟩
  | some crop =>
      dsimp only
      rw [applyCropTo, ← placement.crop_crop, ← size]
      exact ⟨rfl, shown.crop (applyCrop_inside trimmed.size crop)⟩

/-- The still pipeline shows the part that trim, crop and the resize leave. -/
theorem stillFrame_kept (config : PerformanceConfig) (shows_ : image.Shows placement) :
    After (stillFrame lib.traced query config image) fun still =>
      let kept := keptWindow lib query (image.plain.asRgba8 lib)
      let part := framePart query false kept.size (placement.crop kept)
      let canvas := frameCanvas query false kept.size part.2
      still.size = canvas.1 ∧ still.provenance = lying query part.1 part.2 canvas.2 := by
  intro still ended
  obtain ⟨prepared, prepares, transforms⟩ := (Outcome.bind_ok_iff ..).mp ended
  obtain ⟨size, shown⟩ := prepareStill_kept lib query shows_ prepared prepares
  have form := transformSingle_lying lib query config shown still transforms
  rw [size] at form
  exact ⟨form.1.1, form.2⟩

end Stages

/-! ## A JPEG at its scales -/

/-- The size a header is decoded to at a scale. -/
def Size.atScale (header : Size) (scaleNum : Nat) : Size :=
  .floored (jpegScaledDimension header.width scaleNum) (jpegScaledDimension header.height scaleNum)

theorem atScale_eight (header : Size) : header.atScale 8 = header := by
  have whole (dim : Nat) : jpegScaledDimension dim 8 = dim := by
    rw [jpegScaledDimension]
    omega
  rw [Size.atScale, whole, whole]
  exact Size.floored_of_fits header.widthPos header.heightPos header.widthFits header.heightFits

/-- A JPEG, and the colour type and content it is decoded to at each scale. -/
structure JpegPicture (Content : Type) where
  header : Size
  orientation : Orientation
  pixels : Nat → ColorType × Content

/-- A raster decoded at some scale, which shows all of its source. -/
def Raster.asDecode {Content : Type} (source : Size) (image : Raster Content) :
    Raster (Content × Provenance) :=
  { image with
    content := (image.content, (Provenance.whole source).through (source.scaleBack image.size)) }

theorem shows_asDecode {Content : Type} (source : Size) (image : Raster Content) :
    (image.asDecode source).Shows (Placement.unscaled.resample source image.size) := by
  apply Provenance.ext
  · funext point
    simp only [Raster.asDecode, Raster.provenance, Provenance.through, Provenance.whole,
      Size.scaleBack, Placement.map, Placement.resample, Placement.unscaled, Function.comp_apply,
      id_eq, mul_one, zero_add, mul_div_assoc]
  · ext point
    exact scaleBack_mem_area

section Sizes

/-- A place on an axis of the source is one on the decode, up to a pixel of the decode. -/
def AxisNear (source decoded place reduced : Nat) : Prop :=
  |(reduced * source - place * decoded : ℤ)| ≤ source

variable (source decoded : Size) (window reduced : Window)

/-- A part of the source is one of the decode, up to a pixel of the decode on each side. -/
@[mk_iff]
structure Window.Near : Prop where
  left : AxisNear source.width decoded.width window.x reduced.x
  top : AxisNear source.height decoded.height window.y reduced.y
  right : AxisNear source.width decoded.width (window.x + window.size.width)
    (reduced.x + reduced.size.width)
  bottom : AxisNear source.height decoded.height (window.y + window.size.height)
    (reduced.y + reduced.size.height)

/-- A part of the source is exactly one of the decode. -/
structure Window.Scales : Prop where
  left : reduced.x * source.width = window.x * decoded.width
  top : reduced.y * source.height = window.y * decoded.height
  across : reduced.size.width * source.width = window.size.width * decoded.width
  down : reduced.size.height * source.height = window.size.height * decoded.height

variable (query : ResizeQuery)

/-- The part of a raster that a crop keeps. -/
def cropWindow (size : Size) : Window := query.crop.elim (.whole size) (applyCrop size)

/-- The resize of what a crop keeps. -/
def croppedStep (size : Size) : Resize := frameStep query false (cropWindow query size).size

/-- Nothing is trimmed, and of a decode's size a crop and the resize after it are those of the
source's: the crop up to a pixel, and exactly when the resize is a cover. -/
structure SizedAlike : Prop where
  untrimmed : query.trim = none
  cropped : (cropWindow query source).Near source decoded (cropWindow query decoded)
  raster : (croppedStep query decoded).raster (cropWindow query decoded).size =
    (croppedStep query source).raster (cropWindow query source).size
  window : (croppedStep query decoded).window = (croppedStep query source).window
  covered : (croppedStep query source).window ≠ none →
    (cropWindow query source).Scales source decoded (cropWindow query decoded)

/-- A request that keeps and shows all of what its crop leaves. -/
structure ResizeQuery.ShowsCrop : Prop where
  trim : query.trim = none
  resizeType : query.resizeType = .fit ∨ query.resizeType = .force
  extend : query.extend = false
  padding : query.padding = none

theorem axisNear_iff {source decoded : Nat} (positive : 0 < decoded) (place reduced : Nat) :
    AxisNear source decoded place reduced ↔
      |(reduced * (source / decoded) - place : ℚ)| ≤ source / decoded := by
  have some_ : (0 : ℚ) < decoded := Nat.cast_pos.mpr positive
  have quotient : (reduced * (source / decoded) - place : ℚ) =
      (reduced * source - place * decoded) / decoded := by
    field_simp
  rw [quotient, abs_div, abs_of_pos some_, div_le_div_iff_of_pos_right some_, AxisNear]
  exact_mod_cast Iff.rfl

variable {source decoded query}

theorem Window.whole_near (source decoded : Size) :
    (Window.whole source).Near source decoded (.whole decoded) := by
  have first (length other : Nat) : AxisNear length other 0 0 := by
    simp [AxisNear]
  have last (length other : Nat) : AxisNear length other (0 + length) (0 + other) := by
    rw [AxisNear, zero_add, zero_add, mul_comm, sub_self, abs_zero]
    exact Int.natCast_nonneg _
  exact ⟨first _ _, first _ _, last _ _, last _ _⟩

/-- Without trim and crop the sizes are alike where the resize of the one is that of the
other. -/
theorem sizedAlike_of_step (trim : query.trim = none) (crop : query.crop = none)
    (raster : (frameStep query false decoded).raster decoded =
      (frameStep query false source).raster source)
    (window : (frameStep query false decoded).window = (frameStep query false source).window) :
    SizedAlike source decoded query := by
  have all (size : Size) : cropWindow query size = .whole size := by
    rw [cropWindow, crop, Option.elim_none]
  constructor
  · exact trim
  · rw [all, all]
    exact Window.whole_near source decoded
  · rw [croppedStep, croppedStep, all, all]
    exact raster
  · rw [croppedStep, croppedStep, all, all]
    exact window
  · rw [all, all]
    exact fun _ => ⟨by simp [Window.whole], by simp [Window.whole], mul_comm .., mul_comm ..⟩

/-- A part of the decode is resampled as the part of the source it is. -/
theorem Window.Scales.part {window reduced : Window}
    (scales : window.Scales source decoded reduced) (target : Size) :
    ((Placement.unscaled.resample source decoded).crop reduced).resample reduced.size target =
      ((Placement.unscaled.resample source source).crop window).resample window.size target := by
  have start {length other place reducedPlace : Nat} (positive : 0 < length)
      (otherPos : 0 < other) (same : reducedPlace * length = place * other) :
      (reducedPlace : ℚ) * (length / other) = place * (length / length) := by
    have some_ : (length : ℚ) ≠ 0 := Nat.cast_ne_zero.mpr positive.ne'
    have otherSome : (other : ℚ) ≠ 0 := Nat.cast_ne_zero.mpr otherPos.ne'
    rw [div_self some_, mul_one, mul_div_assoc', div_eq_iff otherSome]
    exact_mod_cast same
  have left := start source.widthPos decoded.widthPos scales.left
  have top := start source.heightPos decoded.heightPos scales.top
  have across := start source.widthPos decoded.widthPos scales.across
  have down := start source.heightPos decoded.heightPos scales.down
  simp only [Placement.crop, Placement.resample, Placement.unscaled, mul_one, div_mul_eq_mul_div,
    left, top, across, down]

/-- A request without canvases has none. -/
theorem ResizeQuery.ShowsCrop.frameCanvas (shows_ : query.ShowsCrop) (size resized : Size) :
    (frameCanvas query false size resized).1 = sizeAfterTurn query resized := by
  have unextended (image : Size) :
      extendedSize query size image = image := by
    unfold extendedSize extendCanvas
    cases (effectiveResizeBox query size).extendBox with
    | none => rfl
    | some box => simp [shows_.extend, grown]
  change paddedSize query size _ = _
  rw [paddedSize, unextended, paddingCanvas, shows_.padding]
  rfl

/-- A fit or a forced resize cuts nothing off. -/
theorem ResizeQuery.ShowsCrop.uncut (shows_ : query.ShowsCrop) (size : Size) :
    (frameStep query false size).window = none := by
  unfold frameStep resizeStep
  split
  · exact firResize_window
  · exact firResize_window
  · rcases shows_.resizeType with fit | force
    · rw [fit]
      exact firResize_window
    · rw [force]
      exact firResizeExact_window
  · rfl

end Sizes

namespace JpegPicture

variable {Content : Type} (lib : Imaging Content) (query : ResizeQuery)
variable (config : PerformanceConfig) (picture : JpegPicture Content)

/-- A decode at a scale. -/
def raster (scaleNum : Nat) : Raster Content :=
  ⟨picture.header.atScale scaleNum, (picture.pixels scaleNum).1, (picture.pixels scaleNum).2⟩

/-- A decode at a scale, turned upright when that is asked for. -/
def upright (scaleNum : Nat) : Raster Content :=
  autorotate lib query ⟨picture.raster scaleNum, picture.orientation, none, none⟩

/-- The source as the pipeline sees it after autorotation. -/
def source : Size := picture.header.swapIf (query.autorotate && picture.orientation.swapsAxes)

/-- The size of a decode at a scale, after autorotation. -/
def decodedSize (scaleNum : Nat) : Size :=
  (picture.header.atScale scaleNum).swapIf (query.autorotate && picture.orientation.swapsAxes)

/-- The scale `decode_jpeg_scaled` decodes at. -/
def scale : Nat := plannedScale query picture.header picture.orientation

/-- What the pipeline makes of a decode at a scale. -/
def processed (scaleNum : Nat) : Stage (Raster (Content × Provenance)) :=
  stillFrame lib.traced query config
    ((picture.upright lib query scaleNum).asDecode (picture.source query))

/-- How much of the source a pixel of a decode spans. -/
def pixel (scaleNum : Nat) : Point :=
  ((picture.source query).width / (picture.decodedSize query scaleNum).width,
    (picture.source query).height / (picture.decodedSize query scaleNum).height)

/-- The part of a decode that trim and crop keep. -/
def kept (scaleNum : Nat) : Window :=
  keptWindow lib query ((picture.upright lib query scaleNum).asRgba8 lib)

/-- The part of the source that trim, crop and the window of the resize leave of a decode, and
the size it is resized to. -/
def selected (scaleNum : Nat) : Placement × Size :=
  framePart query false (picture.kept lib query scaleNum).size
    ((Placement.unscaled.resample (picture.source query)
      (picture.decodedSize query scaleNum)).crop (picture.kept lib query scaleNum))

/-- The corners of that part, in the source. -/
def firstCorner (scaleNum : Nat) : Point := (picture.selected lib query scaleNum).1.map (0, 0)

def lastCorner (scaleNum : Nat) : Point :=
  (picture.selected lib query scaleNum).1.map ((picture.selected lib query scaleNum).2.width,
    (picture.selected lib query scaleNum).2.height)

/-- The size after extend and padding. -/
def finalSize (scaleNum : Nat) : Size :=
  (frameCanvas query false (picture.source query) (picture.selected lib query scaleNum).2).1

/-- Two results are of one size and show the same part of the source, up to a pixel of the
decode. -/
def SameSelection (scaleNum : Nat) (reduced whole : Raster (Content × Provenance)) : Prop :=
  reduced.size = whole.size ∧
    NearSets (picture.pixel query scaleNum) reduced.provenance.region whole.provenance.region

/-- Trim, crop and the sizing decide on a decode as they do on the full one: they leave the same
part, up to a pixel of the decode, and the same size. -/
structure DecidedAlike (scaleNum : Nat) : Prop where
  first : AxesWithin (picture.pixel query scaleNum) (picture.firstCorner lib query scaleNum)
    (picture.firstCorner lib query 8)
  last : AxesWithin (picture.pixel query scaleNum) (picture.lastCorner lib query scaleNum)
    (picture.lastCorner lib query 8)
  size : picture.finalSize lib query scaleNum = picture.finalSize lib query 8

variable {lib query config picture}

theorem upright_size (scaleNum : Nat) :
    (picture.upright lib query scaleNum).size = picture.decodedSize query scaleNum := by
  rw [upright, decodedSize, autorotate]
  cases query.autorotate with
  | false => rfl
  | true => exact turn_size lib _ _

theorem decodedSize_full : picture.decodedSize query 8 = picture.source query := by
  rw [decodedSize, atScale_eight, source]

/-- What a file is read as: its header, and a decode at each scale that may be planned. -/
structure ReadFrom (codecs : Codecs Content) (bytes : List UInt8) (opened : StillSource Content) :
    Prop where
  header : opened.size = picture.header
  orientation : opened.orientation.getD .noTransforms = picture.orientation
  full : opened.pixels = .ok (picture.pixels 8)
  scaled : ∀ scaleNum ∈ [1, 2, 4], codecs.jpegScaled bytes scaleNum = .ok (picture.raster scaleNum)

theorem selectJpegDctScale_mem (raw : Size) (targetWidth targetHeight : Nat) :
    selectJpegDctScale raw targetWidth targetHeight ∈ [1, 2, 4, 8] := by
  rw [selectJpegDctScale]
  dsimp only
  split
  · decide
  split
  · decide
  split
  · decide
  · decide

/-- `decode_jpeg_scaled` decodes at the planned scale. -/
theorem decodeJpegScaled_raster {codecs : Codecs Content} {bytes : List UInt8} {limit : Nat}
    {opened : StillSource Content} (read : picture.ReadFrom codecs bytes opened)
    (opens : openLimited codecs bytes (some .jpeg) limit
      "Failed to construct image decoder for header read" = .ok opened) :
    decodeJpegScaled codecs bytes limit query =
      .ok (opened.decoded (!query.stripMetadata) (picture.raster (picture.scale query))) := by
  have planned : plannedScale query opened.size (opened.orientation.getD .noTransforms) =
      picture.scale query := by
    rw [read.header, read.orientation]
    rfl
  have pixels : jpegPixels codecs bytes opened (picture.scale query) =
      .ok (picture.raster (picture.scale query)) := by
    rw [jpegPixels]
    split
    case isTrue full =>
        rw [fromDecoder, read.full, full, raster, atScale_eight, read.header]
        rfl
    case isFalse reduced =>
        apply read.scaled
        have planned : picture.scale query ∈ [1, 2, 4, 8] := selectJpegDctScale_mem ..
        simp only [List.mem_cons, List.not_mem_nil, or_false] at planned ⊢
        tauto
  rw [decodeJpegScaled, opens]
  change (jpegPixels codecs bytes opened
    (plannedScale query opened.size (opened.orientation.getD .noTransforms)) >>= _) = _
  rw [planned, pixels]
  rfl

/-- The still path, from a decode on, is the pipeline on the upright decode. -/
theorem processed_plain (scaleNum : Nat) (iccProfile exifMetadata : Option (List UInt8)) :
    Raster.plain <$> picture.processed lib query config scaleNum = (do
      let prepared ← prepareStill lib query
        ⟨picture.raster scaleNum, picture.orientation, iccProfile, exifMetadata⟩
      transformSingle lib query config prepared.size prepared) := by
  apply map_bind_eq
  · rw [prepareStill_plain]
    have again (image : Raster Content) :
        autorotate lib query ⟨image, .noTransforms, none, none⟩ = image := by
      rw [autorotate]
      split <;> rfl
    rw [prepareStill, prepareStill]
    change (trimStage lib query (autorotate lib query
      ⟨picture.upright lib query scaleNum, .noTransforms, none, none⟩) >>= _) = _
    rw [again]
    rfl
  · intro prepared
    exact transformSingle_plain ..

theorem selected_positive (scaleNum : Nat) : (picture.selected lib query scaleNum).1.Positive := by
  apply Placement.Positive.resize
  apply Placement.Positive.crop
  apply Placement.Positive.resample
  exact ⟨one_pos, one_pos⟩

theorem corners_ordered (scaleNum : Nat) :
    picture.firstCorner lib query scaleNum ≤ picture.lastCorner lib query scaleNum := by
  rw [firstCorner, lastCorner, (selected_positive scaleNum).map_le_iff]
  exact ⟨Nat.cast_nonneg _, Nat.cast_nonneg _⟩

/-- What a run makes of a decode is what was decided on it. -/
theorem processed_selected {scaleNum : Nat} :
    After (picture.processed lib query config scaleNum) fun result =>
      result.size = picture.finalSize lib query scaleNum ∧
        result.provenance.region = Set.Icc (picture.firstCorner lib query scaleNum)
          (picture.lastCorner lib query scaleNum) := by
  intro result ended
  obtain ⟨size, shown⟩ := stillFrame_kept lib query config (shows_asDecode _ _) result ended
  rw [upright_size] at size shown
  constructor
  · rw [size, finalSize, frameCanvas_source query _ (picture.source query)]
    rfl
  · rw [shown]
    exact lying_region query (selected_positive scaleNum) _ _

/-- Two runs agree exactly when everything that is decided on the reduced raster is decided as
on the full one. -/
theorem sameSelection_iff_decidedAlike {reduced whole : Raster (Content × Provenance)}
    (reducedEnds : picture.processed lib query config (picture.scale query) = .ok reduced)
    (wholeEnds : picture.processed lib query config 8 = .ok whole) :
    picture.SameSelection query (picture.scale query) reduced whole ↔
      picture.DecidedAlike lib query (picture.scale query) := by
  obtain ⟨reducedSize, reducedRegion⟩ := processed_selected reduced reducedEnds
  obtain ⟨wholeSize, wholeRegion⟩ := processed_selected whole wholeEnds
  rw [SameSelection, reducedRegion, wholeRegion, reducedSize, wholeSize,
    nearSets_Icc_iff (corners_ordered _) (corners_ordered _)]
  constructor
  · rintro ⟨size, first, last⟩
    exact ⟨first, last, size⟩
  · intro alike
    exact ⟨alike.size, alike.first, alike.last⟩

/-! ## What is left, from the sizes alone -/

/-- A resize leaves of a part what resampling it to the raster leaves, less the window. -/
theorem placement_resampled (step : Resize) (size : Size) (placement : Placement) :
    step.placement size placement =
      step.window.elim (placement.resample size (step.raster size))
        (placement.resample size (step.raster size)).crop := by
  have scaled : step.scaled.elim placement (placement.resample size) =
      placement.resample size (step.raster size) := by
    rw [Resize.raster]
    cases step.scaled with
    | some target => rfl
    | none =>
        have width : (size.width : ℚ) ≠ 0 := Nat.cast_ne_zero.mpr size.widthPos.ne'
        have height : (size.height : ℚ) ≠ 0 := Nat.cast_ne_zero.mpr size.heightPos.ne'
        simp only [Option.elim_none, Option.getD_none, Placement.resample, div_self width,
          div_self height, one_mul]
  rw [Resize.placement, scaled]

theorem pixel_nonneg (scaleNum : Nat) : 0 ≤ picture.pixel query scaleNum :=
  ⟨div_nonneg (Nat.cast_nonneg _) (Nat.cast_nonneg _),
    div_nonneg (Nat.cast_nonneg _) (Nat.cast_nonneg _)⟩

theorem kept_untrimmed (trim : query.trim = none) (scaleNum : Nat) :
    picture.kept lib query scaleNum = cropWindow query (picture.decodedSize query scaleNum) := by
  rw [kept, keptWindow, trimKeeps, trim, asRgba8_size, upright_size, cropWindow]
  cases query.crop with
  | none => rfl
  | some crop => simp [Window.whole]

/-- What is left of an untrimmed decode is the part a crop keeps, resampled to the raster of the
resize, less its window. -/
theorem selected_untrimmed (trim : query.trim = none) (scaleNum : Nat) :
    let size := picture.decodedSize query scaleNum
    let part := ((Placement.unscaled.resample (picture.source query) size).crop
      (cropWindow query size)).resample (cropWindow query size).size
        ((croppedStep query size).raster (cropWindow query size).size)
    picture.selected lib query scaleNum =
      ((croppedStep query size).window.elim part part.crop,
        (croppedStep query size).result (cropWindow query size).size) := by
  rw [selected, kept_untrimmed trim, framePart, placement_resampled]
  rfl

section Uncut

variable (trim : query.trim = none) {scaleNum : Nat}
variable (uncut : (croppedStep query (picture.decodedSize query scaleNum)).window = none)

include trim uncut

/-- Where nothing is cut off after it, a crop is all that is left. -/
theorem firstCorner_uncut :
    picture.firstCorner lib query scaleNum =
      ((cropWindow query (picture.decodedSize query scaleNum)).x *
          (picture.pixel query scaleNum).1,
        (cropWindow query (picture.decodedSize query scaleNum)).y *
          (picture.pixel query scaleNum).2) := by
  rw [firstCorner, selected_untrimmed trim, uncut]
  simp [Placement.map, Placement.crop, Placement.resample, Placement.unscaled, pixel]

theorem lastCorner_uncut :
    picture.lastCorner lib query scaleNum =
      (((cropWindow query (picture.decodedSize query scaleNum)).x +
          (cropWindow query (picture.decodedSize query scaleNum)).size.width : Nat) *
          (picture.pixel query scaleNum).1,
        ((cropWindow query (picture.decodedSize query scaleNum)).y +
          (cropWindow query (picture.decodedSize query scaleNum)).size.height : Nat) *
          (picture.pixel query scaleNum).2) := by
  have across (part whole : Nat) (positive : 0 < whole) (span : ℚ) :
      (whole : ℚ) * (part / whole * span) = part * span := by
    have some_ : (whole : ℚ) ≠ 0 := Nat.cast_ne_zero.mpr positive.ne'
    field_simp
  rw [lastCorner, selected_untrimmed trim, Resize.result_of_whole uncut, uncut]
  simp only [Placement.map, Placement.crop, Placement.resample, Placement.unscaled, pixel,
    Option.elim_none, across _ _ (Size.widthPos _), across _ _ (Size.heightPos _), mul_one,
    zero_add, Nat.cast_add, add_mul]

end Uncut

/-- A full decode decides as a full decode. -/
theorem decidedAlike_full : picture.DecidedAlike lib query 8 where
  first := .refl (pixel_nonneg 8) _
  last := .refl (pixel_nonneg 8) _
  size := rfl

/-- The ends of an untrimmed and uncut decode are near those of the full one exactly when its
crop is. -/
theorem corners_uncut_iff (trim : query.trim = none) {scaleNum : Nat}
    (uncut : (croppedStep query (picture.decodedSize query scaleNum)).window = none)
    (uncut' : (croppedStep query (picture.source query)).window = none) :
    (AxesWithin (picture.pixel query scaleNum) (picture.firstCorner lib query scaleNum)
        (picture.firstCorner lib query 8) ∧
      AxesWithin (picture.pixel query scaleNum) (picture.lastCorner lib query scaleNum)
        (picture.lastCorner lib query 8)) ↔
      (cropWindow query (picture.source query)).Near (picture.source query)
        (picture.decodedSize query scaleNum)
        (cropWindow query (picture.decodedSize query scaleNum)) := by
  have one (source : Size) : (source.width : ℚ) / source.width = 1 ∧
      (source.height : ℚ) / source.height = 1 :=
    ⟨div_self (Nat.cast_ne_zero.mpr source.widthPos.ne'),
      div_self (Nat.cast_ne_zero.mpr source.heightPos.ne')⟩
  rw [← decodedSize_full] at uncut'
  rw [firstCorner_uncut trim uncut, firstCorner_uncut trim uncut', lastCorner_uncut trim uncut,
    lastCorner_uncut trim uncut', decodedSize_full, Window.near_iff]
  have width := Size.widthPos (picture.decodedSize query scaleNum)
  have height := Size.heightPos (picture.decodedSize query scaleNum)
  simp only [AxesWithin, pixel, decodedSize_full, one, mul_one, axisNear_iff width,
    axisNear_iff height]
  tauto

/-- Sizes that are alike are decided on alike. -/
theorem decidedAlike_of_sizedAlike {scaleNum : Nat}
    (alike : SizedAlike (picture.source query) (picture.decodedSize query scaleNum) query) :
    picture.DecidedAlike lib query scaleNum := by
  have size : (picture.selected lib query scaleNum).2 = (picture.selected lib query 8).2 := by
    rw [selected_untrimmed alike.untrimmed, selected_untrimmed alike.untrimmed, decodedSize_full]
    simp only [Resize.result, alike.window, alike.raster]
  have final : picture.finalSize lib query scaleNum = picture.finalSize lib query 8 := by
    rw [finalSize, size, ← finalSize]
  cases cut : (croppedStep query (picture.source query)).window with
  | none =>
      obtain ⟨first, last⟩ :=
        (corners_uncut_iff alike.untrimmed (alike.window.trans cut) cut).mpr alike.cropped
      exact ⟨first, last, final⟩
  | some window =>
      have scales := alike.covered (by simp [cut])
      have same : picture.selected lib query scaleNum = picture.selected lib query 8 := by
        apply Prod.ext _ size
        rw [selected_untrimmed alike.untrimmed, selected_untrimmed alike.untrimmed,
          decodedSize_full, alike.window, alike.raster]
        dsimp only
        rw [scales.part]
      constructor
      · rw [firstCorner, same]
        exact .refl (pixel_nonneg scaleNum) _
      · rw [lastCorner, same]
        exact .refl (pixel_nonneg scaleNum) _
      · exact final

/-- Where a request shows all of what its crop leaves, nothing else is decided on alike. -/
theorem sizedAlike_of_decidedAlike (shows_ : query.ShowsCrop) {scaleNum : Nat}
    (alike : picture.DecidedAlike lib query scaleNum) :
    SizedAlike (picture.source query) (picture.decodedSize query scaleNum) query := by
  have uncut (size : Size) : (croppedStep query size).window = none := shows_.uncut _
  have result : (picture.selected lib query scaleNum).2 = (picture.selected lib query 8).2 := by
    have final := alike.size
    rw [finalSize, finalSize, shows_.frameCanvas, shows_.frameCanvas] at final
    exact sizeAfterTurn_injective query final
  constructor
  · exact shows_.trim
  · exact (corners_uncut_iff shows_.trim (uncut _) (uncut _)).mp ⟨alike.first, alike.last⟩
  · rw [selected_untrimmed shows_.trim, selected_untrimmed shows_.trim, decodedSize_full,
      Resize.result_of_whole (uncut _), Resize.result_of_whole (uncut _)] at result
    exact result
  · rw [uncut, uncut]
  · exact fun cut => absurd (uncut _) cut

variable (query picture) in
/-- The condition on the request and the sizes: the source is not shrunk, or its decode is sized
alike. -/
def ReadAlike : Prop :=
  picture.scale query = 8 ∨
    SizedAlike (picture.source query) (picture.decodedSize query (picture.scale query)) query

/-- Shrink-on-load is invisible when the source is not shrunk, or when of its decode's size
everything is as of the source's; and where the request shows all of what its crop leaves, only
then. -/
theorem shrinkOnLoad_invisible {reduced whole : Raster (Content × Provenance)}
    (reducedEnds : picture.processed lib query config (picture.scale query) = .ok reduced)
    (wholeEnds : picture.processed lib query config 8 = .ok whole) :
    (picture.ReadAlike query → picture.SameSelection query (picture.scale query) reduced whole) ∧
      (query.ShowsCrop → picture.SameSelection query (picture.scale query) reduced whole →
        picture.ReadAlike query) := by
  rw [sameSelection_iff_decidedAlike reducedEnds wholeEnds]
  constructor
  · rintro (full | alike)
    · rw [full]
      exact decidedAlike_full
    · exact decidedAlike_of_sizedAlike alike
  · intro shows_ alike
    exact .inr (sizedAlike_of_decidedAlike shows_ alike)

/-! ## Requests that are sized alike -/

theorem jpegScaledDimension_bounds {dim scaleNum : Nat} (positive : 0 < dim)
    (scaled : 0 < scaleNum) (shrinks : scaleNum ≤ 8) :
    0 < jpegScaledDimension dim scaleNum ∧ jpegScaledDimension dim scaleNum ≤ dim := by
  have least : 1 ≤ dim * scaleNum := Nat.mul_pos positive scaled
  have most : dim * scaleNum ≤ dim * 8 := Nat.mul_le_mul_left dim shrinks
  rw [jpegScaledDimension]
  omega

theorem atScale_dimensions (header : Size) {scaleNum : Nat} (scaled : 0 < scaleNum)
    (shrinks : scaleNum ≤ 8) :
    (header.atScale scaleNum).dimensions = jpegScaledSize header scaleNum := by
  have width := jpegScaledDimension_bounds header.widthPos scaled shrinks
  have height := jpegScaledDimension_bounds header.heightPos scaled shrinks
  exact Size.dimensions_floored width.1 height.1 (width.2.trans header.widthFits)
    (height.2.trans header.heightFits)

theorem scale_bounds : 0 < picture.scale query ∧ picture.scale query ≤ 8 := by
  have planned : picture.scale query ∈ [1, 2, 4, 8] := selectJpegDctScale_mem ..
  simp only [List.mem_cons, List.not_mem_nil, or_false] at planned
  omega

/-- A reduced decode is no larger than the source. -/
theorem decodedSize_le : (picture.decodedSize query (picture.scale query)).width ≤
      (picture.source query).width ∧
    (picture.decodedSize query (picture.scale query)).height ≤
      (picture.source query).height := by
  obtain ⟨scaled, shrinks⟩ := @scale_bounds _ query picture
  obtain ⟨width, height⟩ := Prod.mk.inj (atScale_dimensions picture.header scaled shrinks)
  have widthLe := (jpegScaledDimension_bounds picture.header.widthPos scaled shrinks).2
  have heightLe := (jpegScaledDimension_bounds picture.header.heightPos scaled shrinks).2
  rw [← width] at widthLe
  rw [← height] at heightLe
  rw [decodedSize, source]
  cases query.autorotate && picture.orientation.swapsAxes with
  | false => exact ⟨widthLe, heightLe⟩
  | true => exact ⟨heightLe, widthLe⟩

/-- A reduced decode covers what the resize of the source was predicted to need. -/
theorem decodedSize_covers (reduced : picture.scale query ≠ 8) :
    CoversBoth (picture.decodedSize query (picture.scale query)).dimensions
      (effectiveResizeTarget (picture.source query) query) := by
  obtain ⟨scaled, shrinks⟩ := @scale_bounds _ query picture
  have planned := @firstCovering_select picture.header
    (if query.autorotate && picture.orientation.swapsAxes then
        (effectiveResizeTarget (picture.source query) query).2
      else (effectiveResizeTarget (picture.source query) query).1,
      if query.autorotate && picture.orientation.swapsAxes then
        (effectiveResizeTarget (picture.source query) query).1
      else (effectiveResizeTarget (picture.source query) query).2)
  change FirstCovering _ _ (picture.scale query) at planned
  rw [FirstCovering, if_neg reduced, ← atScale_dimensions picture.header scaled shrinks] at planned
  have covers := planned.2.1
  rw [decodedSize]
  cases swap : query.autorotate && picture.orientation.swapsAxes with
  | false =>
      rw [swap] at covers
      exact covers
  | true =>
      rw [swap] at covers
      exact ⟨covers.2, covers.1⟩

/-- Without trim and crop, a forced resize is sized alike. -/
theorem readAlike_of_force (trim : query.trim = none) (crop : query.crop = none)
    (force : query.resizeType = .force) {width height : Nat}
    (named : (effectiveResizeBox query (picture.source query)).resizeBox =
      (some width, some height)) :
    picture.ReadAlike query := by
  refine or_iff_not_imp_left.mpr fun full => ?_
  have covers := decodedSize_covers full
  have target : effectiveResizeTarget (picture.source query) query =
      (max width 1, max height 1) := by
    rw [effectiveResizeTarget, named, force]
  rw [target] at covers
  have box : (effectiveResizeBox query
      (picture.decodedSize query (picture.scale query))).resizeBox = (some width, some height) := by
    rw [← named]
    apply resizeBox_reduced query decodedSize_le
    · intro axis same
      rw [named] at same
      obtain rfl := Option.some.inj same
      exact (le_max_left _ _).trans covers.1
    · intro axis same
      rw [named] at same
      obtain rfl := Option.some.inj same
      exact (le_max_left _ _).trans covers.2
  apply sizedAlike_of_step trim crop
  · simp only [frameStep, frameBox, Bool.false_eq_true, if_false, box, named, resizeStep, force,
      firResizeExact_raster]
  · simp only [frameStep, frameBox, Bool.false_eq_true, if_false, box, named, resizeStep, force,
      firResizeExact_window]

/-- Without trim and crop, a source that is halved exactly is sized alike when the box fits into
the decode. -/
theorem readAlike_of_multiple (trim : query.trim = none) (crop : query.crop = none)
    {power : Nat} (times : (picture.source query).TimesPower
      (picture.decodedSize query (picture.scale query)) power)
    (asked : (effectiveResizeBox query (picture.source query)).resizeBox ≠ (none, none))
    (widthFits : ∀ width, (effectiveResizeBox query (picture.source query)).resizeBox.1 =
      some width → width ≤ (picture.decodedSize query (picture.scale query)).width)
    (heightFits : ∀ height, (effectiveResizeBox query (picture.source query)).resizeBox.2 =
      some height → height ≤ (picture.decodedSize query (picture.scale query)).height) :
    picture.ReadAlike query := by
  have box := resizeBox_reduced query (@decodedSize_le _ query picture) widthFits heightFits
  have same : frameBox query false (picture.decodedSize query (picture.scale query)) =
      frameBox query false (picture.source query) := box
  obtain ⟨raster, window⟩ := resizeStep_timesPower query times asked
  refine .inr (sizedAlike_of_step trim crop ?_ ?_)
  · rw [frameStep, same]
    exact raster
  · rw [frameStep, same]
    exact window

/-! ## A picture of eighty pixels -/

theorem exists_ok_of_isOk {ε α : Type} {outcome : Except ε α} (ends : outcome.isOk = true) :
    ∃ value, outcome = .ok value := by
  cases outcome with
  | ok value => exact ⟨value, rfl⟩
  | error cause => cases ends

/-- A square of eighty pixels. -/
def square : JpegPicture Unit := ⟨.floored 80 80, .noTransforms, fun _ => (.rgb8, ())⟩

/-- A picture, ten pixels wide. -/
def thumbnail : ResizeQuery := { ResizeQuery.default with width := some 10 }

/-- The middle of a picture, ten pixels wide. -/
def middle : ResizeQuery :=
  { thumbnail with crop := some ⟨.absolute 40, .absolute 40, .center⟩ }

/-- The square is decoded at an eighth for a thumbnail, which shows. -/
theorem shrinkOnLoad_invisible_thumbnail :
    square.scale thumbnail = 1 ∧ ∃ reduced whole,
      square.processed .blank thumbnail .default (square.scale thumbnail) = .ok reduced ∧
      square.processed .blank thumbnail .default 8 = .ok whole ∧
      square.SameSelection thumbnail (square.scale thumbnail) reduced whole := by
  refine ⟨by decide +kernel, ?_⟩
  obtain ⟨reduced, reducedEnds⟩ := exists_ok_of_isOk (show (square.processed .blank
    thumbnail .default (square.scale thumbnail)).isOk = true by decide +kernel)
  obtain ⟨whole, wholeEnds⟩ := exists_ok_of_isOk (show (square.processed .blank
    thumbnail .default 8).isOk = true by decide +kernel)
  refine ⟨reduced, whole, reducedEnds, wholeEnds, ?_⟩
  apply (shrinkOnLoad_invisible reducedEnds wholeEnds).1
  exact .inr (sizedAlike_of_step rfl rfl (by decide +kernel) (by decide +kernel))

/-- Of the square decoded at an eighth, a crop to forty pixels keeps everything. -/
theorem shrinkOnLoad_shows_more :
    square.scale middle = 1 ∧ ∃ reduced whole,
      square.processed .blank middle .default (square.scale middle) = .ok reduced ∧
      square.processed .blank middle .default 8 = .ok whole ∧
      ¬ square.SameSelection middle (square.scale middle) reduced whole := by
  refine ⟨by decide +kernel, ?_⟩
  obtain ⟨reduced, reducedEnds⟩ := exists_ok_of_isOk (show (square.processed .blank
    middle .default (square.scale middle)).isOk = true by decide +kernel)
  obtain ⟨whole, wholeEnds⟩ := exists_ok_of_isOk (show (square.processed .blank
    middle .default 8).isOk = true by decide +kernel)
  refine ⟨reduced, whole, reducedEnds, wholeEnds, ?_⟩
  rintro ⟨-, near⟩
  rw [(processed_selected reduced reducedEnds).2, (processed_selected whole wholeEnds).2,
    nearSets_Icc_iff (corners_ordered _) (corners_ordered _)] at near
  have left : (square.firstCorner .blank middle (square.scale middle)).1 = 0 := by decide +kernel
  have left' : (square.firstCorner .blank middle 8).1 = 20 := by decide +kernel
  have pixel : (square.pixel middle (square.scale middle)).1 = 8 := by decide +kernel
  have close := near.1.1
  rw [left, left', pixel] at close
  norm_num at close

end JpegPicture

end ImageResizer
