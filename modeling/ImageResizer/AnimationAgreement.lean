import ImageResizer.AnimationGeometry
import ImageResizer.Foundation.TwoRuns
import ImageResizer.Url.Numbers

/-!
# Animation frames and still images

A frame is drawn as the still pipeline draws it exactly when the options that its own pipeline
leaves out have no effect on it.  A frame of several is resized to the plain width and height
and put on no canvas; the frame of a source with one frame is put through everything but trim
and crop.
-/

namespace ImageResizer

open Outcome (After)

section Kept

variable {Content : Type} {lib : Imaging Content} {query : ResizeQuery}

theorem trimKeeps_inside (image : Raster Content) :
    (trimKeeps lib query image).Inside image.size := by
  have whole : (Window.whole image.size).Inside image.size := by
    constructor <;> simp [Window.whole]
  rw [trimKeeps]
  cases query.trim with
  | none => exact whole
  | some trim =>
      dsimp only
      split
      case isTrue => exact whole
      case isFalse covered => exact trimmed_inside covered

theorem keptWindow_le (image : Raster Content) :
    (keptWindow lib query image).size.width ≤ image.size.width ∧
      (keptWindow lib query image).size.height ≤ image.size.height := by
  obtain ⟨width, height⟩ := @trimKeeps_inside Content lib query image
  rw [keptWindow]
  cases query.crop with
  | none => constructor <;> dsimp only <;> omega
  | some crop =>
      obtain ⟨cropWidth, cropHeight⟩ := applyCrop_inside (trimKeeps lib query image).size crop
      constructor <;> dsimp only <;> omega

end Kept

section Source

variable (query : ResizeQuery)

/-- The target of `extend` does not depend on the source. -/
theorem extendBox_source (source source' : Size) :
    (effectiveResizeBox query source).extendBox =
      (effectiveResizeBox query source').extendBox := by
  rw [effectiveResizeBox, effectiveResizeBox]
  split <;> rfl

theorem growth_source (source source' image : Size) :
    paddedSize query source image = paddedSize query source' image ∧
      growthCorner query source image = growthCorner query source' image := by
  rw [paddedSize, paddedSize, growthCorner, growthCorner, extendedSize, extendedSize,
    extendBox_source query source source']
  exact ⟨rfl, rfl⟩

theorem growthStage_source {Content : Type} (lib : Imaging Content) (config : PerformanceConfig)
    (source source' : Size) (image : Raster Content) :
    growthStage lib query config source image = growthStage lib query config source' image := by
  rw [growthStage, growthStage, extendBox_source query source source']

end Source

/-! ## What is compared -/

section Parts

variable (query : ResizeQuery)

/-- What is left of a part after its resize, and its size. -/
def framePart (several : Bool) (source : Size) (placement : Placement) : Placement × Size :=
  ((frameStep query several source).placement source placement,
    (frameStep query several source).result source)

/-- The size and the place of a frame on its canvas: none for one of several. -/
def frameCanvas (several : Bool) (source resized : Size) : Size × (Nat × Nat) :=
  if several then (sizeAfterTurn query resized, (0, 0))
  else (paddedSize query source (sizeAfterTurn query resized),
    growthCorner query source (sizeAfterTurn query resized))

theorem frameCanvas_source (several : Bool) (source source' resized : Size) :
    frameCanvas query several source resized = frameCanvas query several source' resized := by
  cases several with
  | false =>
      obtain ⟨sizes, corners⟩ := growth_source query source source' (sizeAfterTurn query resized)
      exact Prod.ext sizes corners
  | true => rfl

/-- What the pipeline of a frame makes of it. -/
structure FrameForm {Content : Type} (several : Bool) (source : Size)
    (output : Raster (Content × Provenance)) : Prop where
  size : output.size =
    (frameCanvas query several source (framePart query several source .unscaled).2).1
  shown : output.provenance = lying query (framePart query several source .unscaled).1
    (framePart query several source .unscaled).2
    (frameCanvas query several source (framePart query several source .unscaled).2).2

/-- The options that the pipeline of a frame leaves out have no effect on it: the part that
trim and crop keep is resized to what the whole frame is resized to, and of several frames,
none needs a canvas and each is within the maximum. -/
structure DrawnAsStill {Content : Type} (lib : Imaging Content) (query : ResizeQuery)
    (config : PerformanceConfig) (several : Bool) (image : Raster Content) : Prop where
  part : framePart query false (keptWindow lib query image).size
      (keptWindow lib query image).placement = framePart query several image.size .unscaled
  canvas : several = true →
    frameCanvas query false image.size (framePart query several image.size .unscaled).2 =
      frameCanvas query true image.size (framePart query several image.size .unscaled).2
  within : several = true → WithinMaximum config
    (frameCanvas query true image.size (framePart query several image.size .unscaled).2).1

end Parts

section Agreement

variable {Content : Type} {lib : Imaging Content} {query : ResizeQuery}
variable {config : PerformanceConfig} {several : Bool} {image : Raster Content}

/-- The still pipeline on a frame, from the part that trim and crop keep. -/
theorem stillFrame_lying (rgba : image.color = .rgba8) :
    After (stillFrame lib.traced query config image.asSource) fun still =>
      let part := framePart query false (keptWindow lib query image).size
        (keptWindow lib query image).placement
      let canvas := frameCanvas query false image.size part.2
      (still.size = canvas.1 ∧ WithinMaximum config still.size) ∧
        still.provenance = lying query part.1 part.2 canvas.2 := by
  intro still ended
  obtain ⟨prepared, prepares, size, -, shows_⟩ := prepareStill_shows lib query rgba
  rw [stillFrame, prepares, Outcome.ok_bind] at ended
  have form := transformSingle_lying lib query config shows_ still ended
  rw [size] at form
  dsimp only
  rw [frameCanvas_source query _ image.size (keptWindow lib query image).size]
  exact form

/-- A frame and a still image have the same geometry exactly when what the pipelines leave of
the frame, and what they put it on, are the same. -/
theorem sameGeometry_iff (rgba : image.color = .rgba8)
    {output still : Raster (Content × Provenance)}
    (form : FrameForm query several image.size output)
    (oneFrame : several = false → WithinMaximum config output.size)
    (ended : stillFrame lib.traced query config image.asSource = .ok still) :
    SameGeometry output still ↔ DrawnAsStill lib query config several image := by
  obtain ⟨⟨size, within⟩, shown⟩ := stillFrame_lying rgba still ended
  constructor
  · rintro ⟨sizes, provenances⟩
    rw [form.shown, shown] at provenances
    obtain ⟨placed, resized, corners⟩ := lying_injective query provenances
    rw [← resized] at size corners
    have canvases : frameCanvas query several image.size
        (framePart query several image.size .unscaled).2 =
        frameCanvas query false image.size (framePart query several image.size .unscaled).2 :=
      Prod.ext (form.size.symm.trans (sizes.trans size)) corners
    refine ⟨Prod.ext placed.symm resized.symm, ?_, ?_⟩
    · rintro rfl
      exact canvases.symm
    · rintro rfl
      rw [← form.size, sizes]
      exact within
  · intro drawn
    rw [drawn.part] at size shown
    have canvases : frameCanvas query several image.size
        (framePart query several image.size .unscaled).2 =
        frameCanvas query false image.size (framePart query several image.size .unscaled).2 := by
      cases several with
      | false => rfl
      | true => exact (drawn.canvas rfl).symm
    constructor
    · rw [form.size, size, canvases]
    · rw [form.shown, shown, canvases]

/-- Agreement of a frame, when the still pipeline ends wherever the frame is drawn as a still
image. -/
theorem agrees_iff (rgba : image.color = .rgba8)
    {output : Raster (Content × Provenance)} (form : FrameForm query several image.size output)
    (oneFrame : several = false → WithinMaximum config output.size)
    (ends : DrawnAsStill lib query config several image →
      ∃ still, stillFrame lib.traced query config image.asSource = .ok still) :
    AgreesWithStill lib query config image output ↔
      DrawnAsStill lib query config several image := by
  constructor
  · rintro ⟨still, ended, same⟩
    exact (sameGeometry_iff rgba form oneFrame ended).mp same
  · intro drawn
    obtain ⟨still, ended⟩ := ends drawn
    exact ⟨still, ended, (sameGeometry_iff rgba form oneFrame ended).mpr drawn⟩

end Agreement

/-! ## Where the still pipeline ends -/

section Ends

variable {Content : Type} {lib : Imaging Content} {query : ResizeQuery}
variable {config : PerformanceConfig} {several : Bool} {image : Raster Content}

theorem placement_unit (first : Placement) (unit : first.across = 1 ∧ first.down = 1)
    (step : Resize) (size : Size) :
    (step.placement size first).across = size.width / (step.raster size).width ∧
      (step.placement size first).down = size.height / (step.raster size).height := by
  obtain ⟨across, down⟩ := resize_placement_ratio step size first
  rw [unit.1, mul_one] at across
  rw [unit.2, mul_one] at down
  exact ⟨across, down⟩

/-- The raster a frame that is kept in part needs is no larger than that of the whole. -/
theorem still_raster_fits (drawn : DrawnAsStill lib query config several image)
    (fits : CanvasFits ((frameStep query several image.size).raster image.size) .rgba8) :
    CanvasFits ((frameStep query false (keptWindow lib query image).size).raster
      (keptWindow lib query image).size) .rgba8 := by
  have part := congrArg Prod.fst drawn.part
  dsimp only [framePart] at part
  obtain ⟨width, height⟩ := @keptWindow_le Content lib query image
  obtain ⟨across, down⟩ := placement_unit (keptWindow lib query image).placement ⟨rfl, rfl⟩
    (frameStep query false (keptWindow lib query image).size) (keptWindow lib query image).size
  obtain ⟨across', down'⟩ := placement_unit .unscaled ⟨rfl, rfl⟩
    (frameStep query several image.size) image.size
  rw [part] at across down
  apply fits.anti
  · exact raster_le_of_scale width image.size.widthPos (Size.widthPos _) (Size.widthPos _)
      (across.symm.trans across')
  · exact raster_le_of_scale height image.size.heightPos (Size.heightPos _) (Size.heightPos _)
      (down.symm.trans down')

/-- A frame that was resized had a raster that fits. -/
theorem resized_raster_fits {frame : Raster Content} (rgba : frame.color = .rgba8)
    (fits : CanvasFits frame.size .rgba8) {box : PartialBox} {filter : FilterType} {source : Size}
    {resized : Raster Content}
    (ended : resizeAndFilter lib query box filter source frame = .ok resized) :
    CanvasFits ((resizeStep query box source frame.size).raster frame.size) .rgba8 := by
  have returns : Outcome.Returns (resizeAndFilter lib query box filter source frame) := by
    rw [ended]
    exact Outcome.returns_ok resized
  rw [resizeAndFilter_returns_iff] at returns
  rw [Resize.raster]
  cases scaled : (resizeStep query box source frame.size).scaled with
  | none => exact fits
  | some target =>
      have targetFits := returns target scaled
      rw [rgba] at targetFits
      exact targetFits

/-- The still pipeline resizes a frame that is drawn as a still image. -/
theorem still_resizes (steady : lib.Steady) (rgba : image.color = .rgba8)
    (drawn : DrawnAsStill lib query config several image)
    (fits : CanvasFits ((frameStep query several image.size).raster image.size) .rgba8) :
    ∃ prepared resized : Raster (Content × Provenance),
      prepareStill lib.traced query ⟨image.asSource, .noTransforms, none, none⟩ = .ok prepared ∧
      resizeAndFilter lib.traced query (effectiveResizeBox query prepared.size).resizeBox
        (filterFor (effectiveResizeBox query prepared.size).resizeBox) prepared.size prepared =
          .ok resized ∧
      prepared.color = .rgba8 ∧
      resized.size = sizeAfterTurn query (framePart query several image.size .unscaled).2 := by
  obtain ⟨prepared, prepares, size, color, shows_⟩ := prepareStill_shows lib query rgba
  have rasterFits := still_raster_fits drawn fits
  rw [← size, ← color] at rasterFits
  obtain ⟨resized, resizes, -⟩ := (resizeAndFilter_endsWhen steady.traced _
    (filterFor (effectiveResizeBox query prepared.size).resizeBox) prepared.size prepared).ends
      (ScaledFits.of_raster rasterFits)
  obtain ⟨resizedSize, -⟩ := resizeAndFilter_lying lib query shows_
    (stillStep_inside query prepared.size) resized resizes
  refine ⟨prepared, resized, prepares, resizes, color, ?_⟩
  have part := congrArg Prod.snd drawn.part
  dsimp only [framePart] at part
  rw [resizedSize, framePart, ← part, ← size]
  rfl

/-- The still pipeline ends when it ends after the resize. -/
theorem stillFrame_of_growth {prepared resized result : Raster (Content × Provenance)}
    (prepares : prepareStill lib.traced query ⟨image.asSource, .noTransforms, none, none⟩ =
      .ok prepared)
    (resizes : resizeAndFilter lib.traced query (effectiveResizeBox query prepared.size).resizeBox
      (filterFor (effectiveResizeBox query prepared.size).resizeBox) prepared.size prepared =
        .ok resized)
    (grows : growthStage lib.traced query config prepared.size resized = .ok result) :
    stillFrame lib.traced query config image.asSource = .ok result := by
  rw [stillFrame, prepares, Outcome.ok_bind, transformSingle_eq_growthStage]
  dsimp only
  rw [resizes, Outcome.ok_bind]
  exact grows

end Ends

/-! ## The two pipelines of frames -/

section Frames

variable {Content : Type} {lib : Imaging Content} {query : ResizeQuery}
variable {config : PerformanceConfig}

/-- A frame of several agrees with the still image exactly when it is drawn as one. -/
theorem severalFrame_agrees_iff (steady : lib.Steady) (nonzero : query.NonzeroBox)
    {frame : Frame Content} (rgba : frame.image.color = .rgba8)
    (fits : CanvasFits frame.image.size .rgba8) {output : Frame (Content × Provenance)}
    (ended : animateFrame lib.traced query frame.image.size ⟨frame.image.asSource, frame.delay⟩ =
      .ok output) :
    AgreesWithStill lib query config frame.image output.image ↔
      DrawnAsStill lib query config true frame.image := by
  obtain ⟨size, shown⟩ := animateFrame_lying lib query nonzero frame output ended
  apply agrees_iff rgba ⟨size, shown⟩ nofun
  intro drawn
  obtain ⟨framed, frames, -⟩ := (Outcome.bind_ok_iff ..).mp ended
  have rasterFits :
      CanvasFits ((frameStep query true frame.image.size).raster frame.image.size) .rgba8 :=
    @resized_raster_fits _ lib.traced query frame.image.asSource rgba fits _ _ _ framed frames
  obtain ⟨prepared, resized, prepares, resizes, -, resizedSize⟩ :=
    still_resizes steady rgba drawn rasterFits
  have smaller := result_le_raster (frameStep_inside query nonzero true frame.image.size)
  have turnedFits := (rasterFits.anti smaller.1 smaller.2).turned query
  have idle := congrArg Prod.fst (drawn.canvas rfl)
  have resizedFits : CanvasFits resized.size .rgba8 := resizedSize ▸ turnedFits
  have grownIdle : paddedSize query prepared.size resized.size = resized.size := by
    rw [resizedSize, (growth_source query _ frame.image.size _).1]
    exact idle
  have within : WithinMaximum config (paddedSize query prepared.size resized.size) := by
    rw [grownIdle, resizedSize]
    exact drawn.within rfl
  obtain ⟨result, grows⟩ := (growthStage_ends_iff lib.traced query config prepared.size
    resized).mpr ⟨growthFits_of_idle resizedFits grownIdle, within⟩
  exact ⟨result, stillFrame_of_growth prepares resizes grows⟩

/-- The frame of a source with one frame agrees with the still image exactly when it is drawn as
one. -/
theorem singleFrame_agrees_iff (steady : lib.Steady) {image : Raster Content}
    (rgba : image.color = .rgba8) (fits : CanvasFits image.size .rgba8)
    {output : Raster (Content × Provenance)}
    (ended : transformSingle lib.traced query config image.size image.asSource = .ok output) :
    AgreesWithStill lib query config image output ↔
      DrawnAsStill lib query config false image := by
  obtain ⟨⟨size, within⟩, shown⟩ :=
    transformSingle_lying lib query config (shows_asSource image) output ended
  apply agrees_iff rgba ⟨size, shown⟩ fun _ => within
  intro drawn
  rw [transformSingle_eq_growthStage] at ended
  obtain ⟨framed, frames, grown⟩ := (Outcome.bind_ok_iff ..).mp ended
  have rasterFits : CanvasFits ((frameStep query false image.size).raster image.size) .rgba8 :=
    @resized_raster_fits _ lib.traced query image.asSource rgba fits _ _ _ framed frames
  obtain ⟨prepared, resized, prepares, resizes, color, resizedSize⟩ :=
    still_resizes steady rgba drawn rasterFits
  obtain ⟨framedSize, -⟩ := resizeAndFilter_lying lib query (shows_asSource image)
    (stillStep_inside query image.size) framed frames
  have colors := resizeAndFilter_color steady.traced (rgba.trans color.symm) frames resizes
  have sizes : framed.size = resized.size := framedSize.trans resizedSize.symm
  have shapes : framed.shape = resized.shape := congrArg₂ Shape.mk sizes colors
  obtain ⟨grownFits, grownWithin⟩ :=
    (growthStage_ends_iff lib.traced query config image.size framed).mp ⟨output, grown⟩
  obtain ⟨result, grows⟩ := (growthStage_ends_iff lib.traced query config image.size
    resized).mpr ⟨shapes ▸ grownFits, sizes ▸ grownWithin⟩
  rw [growthStage_source query lib.traced config _ prepared.size] at grows
  exact ⟨result, stillFrame_of_growth prepares resizes grows⟩

end Frames

/-! ## Requests without the options that are left out -/

section Left

variable {Content : Type} {lib : Imaging Content} {query : ResizeQuery}
variable {config : PerformanceConfig}

theorem scaleAxis_one {value : UInt32} (named : some value ≠ some 0) :
    scaleAxis value.toNat F32.one.value F32.one.value = value.toNat := by
  have one : F32.one.value = .finite false 1 := by decide +kernel
  have small : value.toNat < 2 ^ 32 := value.toNat_lt
  have positive := positive_of_named named
  have whole : double (value.toNat : NNRat) = value.toNat :=
    Rounding.nearest_natCast _ (small.trans (by decide))
  rw [one, scaleAxis_finite, mul_one, mul_one, whole, whole, Rounding.halfUp_natCast]
  have maximum : u32Max = 2 ^ 32 - 1 := rfl
  omega

/-- The sizing options that the pipeline of several frames leaves out, at their defaults. -/
structure ResizeQuery.PlainSizing (query : ResizeQuery) : Prop where
  zoomX : query.zoomX = F32.one
  zoomY : query.zoomY = F32.one
  dpr : query.dpr = F32.one
  minWidth : query.minWidth = none
  minHeight : query.minHeight = none
  keepsAxes : rotateSwapsAxes query.rotate = false
  extend : query.extend = false
  padding : query.padding = none

/-- At the defaults, a frame of several is resized to the box of a still image. -/
theorem ResizeQuery.PlainSizing.box (plain : query.PlainSizing) (nonzero : query.NonzeroBox)
    (source : Size) :
    (effectiveResizeBox query source).resizeBox = animationBox query source := by
  have axis (explicit : Option UInt32) (given : explicit ≠ some 0) (length : Nat) :
      minimumFloor none ((explicit.map fun value =>
        scaleAxis value.toNat F32.one.value F32.one.value).map fun scaled =>
          enlargeGuard query.enlarge scaled length) length =
        explicit.map fun value => enlargeGuard query.enlarge value.toNat length := by
    cases explicit with
    | none => rfl
    | some value =>
        rw [Option.map_some, Option.map_some, scaleAxis_one given]
        rfl
  rw [effectiveResizeBox, plain.minWidth, plain.minHeight, plain.zoomX, plain.zoomY, plain.dpr,
    plain.keepsAxes, animationBox]
  split
  case isTrue open_ =>
      simp only [Option.isNone_none, Bool.and_true, Bool.and_eq_true,
        Option.isNone_iff_eq_none] at open_
      rw [open_.1, open_.2]
      rfl
  case isFalse => exact Prod.ext (axis _ nonzero.width _) (axis _ nonzero.height _)

/-- At the defaults, a still image is put on no canvas. -/
theorem ResizeQuery.PlainSizing.canvas (plain : query.PlainSizing) (source resized : Size) :
    frameCanvas query false source resized = frameCanvas query true source resized := by
  have extends_ (target : Option (Nat × Nat)) (size : Size) :
      extendCanvas query target size = none := by
    cases target with
    | none => rfl
    | some box =>
        rw [extendCanvas, plain.extend]
        exact if_neg nofun
  have pads (size : Size) : paddingCanvas query size = none := by
    rw [paddingCanvas, plain.padding]
    rfl
  simp only [frameCanvas, Bool.false_eq_true, if_false, if_true, paddedSize, growthCorner,
    extendedSize, extends_, pads]
  rfl

/-- Trim and crop keep all of a frame when they are not asked for. -/
theorem keptWindow_whole (trim : query.trim = none) (crop : query.crop = none)
    (image : Raster Content) : keptWindow lib query image = .whole image.size := by
  rw [keptWindow, trimKeeps, trim, crop]

/-- Without the options that are left out, a frame is drawn as a still image. -/
theorem drawnAsStill_plain {several : Bool} {image : Raster Content} (nonzero : query.NonzeroBox)
    (trim : query.trim = none) (crop : query.crop = none)
    (plain : several = true → query.PlainSizing)
    (within : several = true → WithinMaximum config
      (frameCanvas query true image.size (framePart query several image.size .unscaled).2).1) :
    DrawnAsStill lib query config several image := by
  have whole : (Window.whole image.size).placement = .unscaled := by
    simp [Window.placement, Window.whole, Placement.unscaled]
  refine ⟨?_, fun one => (plain one).canvas _ _, within⟩
  rw [keptWindow_whole trim crop, whole]
  cases several with
  | false => rfl
  | true =>
      have box : frameBox query false image.size = frameBox query true image.size :=
        (plain rfl).box nonzero image.size
      simp only [framePart, frameStep, Window.whole, box]

end Left
/-- The grammar reads no box of zero. -/
theorem nonzeroBox_of_parse {request : Url.SignedRequest} {codings : Url.Codings}
    {presets : Url.PresetRegistry} {allowed : Url.AllowedOptions} {parsed : Url.ParsedRequest}
    (accepted : request.parseWithConfig codings presets allowed = .ok parsed) :
    parsed.intoResizeQuery.NonzeroBox := by
  obtain ⟨expanded, -, rest⟩ := (Outcome.bind_ok_iff ..).mp accepted
  obtain ⟨options, parses, rest⟩ := (Outcome.bind_ok_iff ..).mp rest
  obtain ⟨source, -, built⟩ := (Outcome.bind_ok_iff ..).mp rest
  cases built
  obtain ⟨width, height⟩ := Url.parse_dimensions_nonzero parses
  exact ⟨width, height⟩

/-! ## Whole sources -/

section Sources

variable {Content : Type} {lib : Imaging Content} {query : ResizeQuery}
variable {config : PerformanceConfig}

/-- What the decoders of animations give: each frame is an RGBA canvas of the size of the
source, and one of that size is in memory. -/
structure FullCanvases (source : Size) (frames : List (Frame Content)) : Prop where
  sizes : ∀ frame ∈ frames, frame.image.size = source
  colors : ∀ frame ∈ frames, frame.image.color = .rgba8
  fits : CanvasFits source .rgba8

/-- A frame that shows all of itself. -/
def Frame.asSource (frame : Frame Content) : Frame (Content × Provenance) :=
  ⟨frame.image.asSource, frame.delay⟩

/-- What is encoded of a source are its output images. -/
theorem encodeFrames_images (codecs : Codecs Content) (encoders : Encoders Content)
    (watermarkBytes : Option (List UInt8)) (frames : List (Frame Content)) (source : Size) :
    After (encodeFrames lib codecs encoders query config watermarkBytes frames source) fun _ =>
      ∃ images, outputImages lib query config source frames = .ok images := by
  intro result ended
  match frames, ended with
  | [frame], ended =>
      obtain ⟨_, -, ended⟩ := (Outcome.bind_ok_iff ..).mp ended
      obtain ⟨image, transforms, -⟩ := (Outcome.bind_ok_iff ..).mp ended
      refine ⟨[image], ?_⟩
      rw [outputImages, transforms]
      rfl
  | first :: second :: rest, ended =>
      obtain ⟨output, frames, -⟩ := (Outcome.bind_ok_iff ..).mp ended
      refine ⟨output.map Frame.image, ?_⟩
      rw [outputImages, Outcome.mapM_ok_iff, List.forall₂_map_right_iff]
      · apply ((Outcome.mapM_ok_iff ..).mp frames).imp
        intro frame image animates
        rw [animates]
        rfl
      · nofun

theorem animated_plain (source : Size) (frames : List (Frame Content)) :
    List.map Raster.plain <$> (frames.map Frame.asSource).mapM (fun frame =>
        Frame.image <$> animateFrame lib.traced query source frame) =
      frames.mapM fun frame => Frame.image <$> animateFrame lib query source frame := by
  have each (frame : Frame Content) :
      Raster.plain <$> Frame.image <$> animateFrame lib.traced query source frame.asSource =
        Frame.image <$> animateFrame lib query source frame := by
    have plain := animateFrame_plain lib query source frame.asSource
    have same : Frame.mk frame.asSource.image.plain frame.asSource.delay = frame := rfl
    rw [same] at plain
    rw [← plain, Functor.map_map, Functor.map_map]
  induction frames with
  | nil => rfl
  | cons frame rest ih =>
      rw [List.map_cons, List.mapM_cons, List.mapM_cons]
      apply map_bind_eq (each frame)
      intro image
      exact map_bind_eq ih fun _ => rfl

/-- Tracing what the frames of a source show changes nothing about its output. -/
theorem outputImages_plain (source : Size) (frames : List (Frame Content)) :
    List.map Raster.plain <$>
        outputImages lib.traced query config source (frames.map Frame.asSource) =
      outputImages lib query config source frames := by
  match frames with
  | [] => rfl
  | [frame] =>
      have plain := transformSingle_plain lib query frame.image.asSource config source
      have same : frame.image.asSource.plain = frame.image := rfl
      rw [same] at plain
      rw [outputImages, ← plain, Functor.map_map]
      exact Functor.map_map ..
  | first :: second :: rest => exact animated_plain source (first :: second :: rest)

theorem forall₂_iff_of_pairs {α β : Type} {paired related : α → β → Prop} {condition : α → Prop}
    {list : List α} {values : List β} (pairs : List.Forall₂ paired list values)
    (each : ∀ element ∈ list, ∀ value, paired element value →
      (related element value ↔ condition element)) :
    List.Forall₂ related list values ↔ ∀ element ∈ list, condition element := by
  induction pairs with
  | nil => exact iff_of_true .nil nofun
  | cons first _ ih =>
      rw [List.forall₂_cons, List.forall_mem_cons, each _ List.mem_cons_self _ first,
        ih fun element member => each element (List.mem_cons_of_mem _ member)]

/-- The frames of a source are drawn as the still pipeline draws each alone exactly when the
options that the pipelines of frames leave out have no effect on any. -/
theorem animation_agrees_iff (steady : lib.Steady) (nonzero : query.NonzeroBox) {source : Size}
    {frames : List (Frame Content)} (decoded : FullCanvases source frames)
    {outputs : List (Raster (Content × Provenance))}
    (drawn : outputImages lib.traced query config source (frames.map Frame.asSource) =
      .ok outputs) :
    List.Forall₂ (fun frame output => AgreesWithStill lib query config frame.image output)
        frames outputs ↔
      ∀ frame ∈ frames, DrawnAsStill lib query config (decide (1 < frames.length)) frame.image := by
  have several {images : List (Frame Content)} {results : List (Raster (Content × Provenance))}
      (made : (images.map Frame.asSource).mapM (fun frame =>
        Frame.image <$> animateFrame lib.traced query source frame) = .ok results) :
      List.Forall₂ (fun frame result => ∃ output,
        animateFrame lib.traced query source (Frame.asSource frame) = .ok output ∧
          output.image = result) images results := by
    rw [Outcome.mapM_ok_iff, List.forall₂_map_left_iff] at made
    exact made.imp fun frame result ended => (Outcome.map_ok_iff ..).mp ended
  match frames, decoded, drawn with
  | [], _, drawn =>
      cases drawn
      exact iff_of_true .nil nofun
  | [frame], decoded, drawn =>
      obtain rfl := decoded.sizes frame List.mem_cons_self
      have rgba := decoded.colors frame List.mem_cons_self
      obtain ⟨output, ended, rfl⟩ := (Outcome.map_ok_iff ..).mp drawn
      rw [List.forall₂_cons, List.forall_mem_singleton,
        singleFrame_agrees_iff steady rgba decoded.fits ended]
      exact and_iff_left .nil
  | first :: second :: rest, decoded, drawn =>
      apply forall₂_iff_of_pairs (@several (first :: second :: rest) outputs drawn)
      rintro frame member _ ⟨output, ended, rfl⟩
      have sized := decoded.sizes frame member
      rw [← sized] at ended
      have more : decide (1 < (first :: second :: rest).length) = true := by simp
      rw [more]
      exact severalFrame_agrees_iff steady nonzero (decoded.colors frame member)
        (sized ▸ decoded.fits) ended

/-- Two frames of two pixels. -/
def twoFrames : List (Frame Unit) :=
  [⟨⟨.floored 2 1, .rgba8, ()⟩, ⟨100, 1⟩⟩, ⟨⟨.floored 2 1, .rgba8, ()⟩, ⟨100, 1⟩⟩]

def mirrored : ResizeQuery := { ResizeQuery.default with flipHorizontal := true }

theorem twoFrames_canvases : FullCanvases (.floored 2 1) twoFrames where
  sizes := by decide
  colors := by decide
  fits := by
    rw [CanvasFits]
    decide

theorem animation_agrees_mirrored :
    ∃ outputs, outputImages Imaging.blank.traced mirrored .default (.floored 2 1)
        (twoFrames.map Frame.asSource) = .ok outputs ∧
      List.Forall₂ (fun frame output =>
        AgreesWithStill .blank mirrored .default frame.image output) twoFrames outputs := by
  have nonzero : mirrored.NonzeroBox := ⟨nofun, nofun⟩
  refine ⟨_, rfl, (animation_agrees_iff blank_steady nonzero twoFrames_canvases rfl).mpr ?_⟩
  intro frame member
  have plain : mirrored.PlainSizing := ⟨rfl, rfl, rfl, rfl, rfl, rfl, rfl, rfl⟩
  have same : frame.image = ⟨.floored 2 1, .rgba8, ()⟩ := by
    simp only [twoFrames, List.mem_cons, List.not_mem_nil, or_false, or_self] at member
    rw [member]
  rw [same]
  apply drawnAsStill_plain nonzero rfl rfl fun _ => plain
  intro
  rw [WithinMaximum]
  decide

/-- A crop of the animation to one pixel. -/
def onePixelCrop : ResizeQuery :=
  { ResizeQuery.default with crop := some ⟨.absolute 1, .absolute 1, .center⟩ }

/-- Two frames of two pixels stay two pixels wide under a crop to one, to which the still
pipeline cuts them. -/
theorem animation_ignores_crop :
    ∃ outputs still, outputImages Imaging.blank.traced onePixelCrop .default (.floored 2 1)
        (twoFrames.map Frame.asSource) = .ok outputs ∧
      stillFrame Imaging.blank.traced onePixelCrop .default
        (⟨.floored 2 1, .rgba8, ()⟩ : Raster Unit).asSource = .ok still ∧
      outputs.map Raster.size = [.floored 2 1, .floored 2 1] ∧ still.size = .floored 1 1 ∧
      ¬ List.Forall₂ (fun frame output =>
        AgreesWithStill .blank onePixelCrop .default frame.image output) twoFrames outputs := by
  refine ⟨_, _, rfl, rfl, rfl, rfl, ?_⟩
  intro pairs
  obtain ⟨⟨still, ended, sizes, -⟩, -⟩ := List.forall₂_cons.mp pairs
  obtain rfl := Except.ok.inj ended
  exact absurd (congrArg Size.width sizes) (by decide)

end Sources

end ImageResizer
