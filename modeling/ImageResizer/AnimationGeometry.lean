import ImageResizer.Placement
import ImageResizer.Sizing.NoUpscale
import ImageResizer.Trim

/-!
# The geometry of animation frames

The frames of an animation have a pipeline of their own, and a source of a single frame has a
third one.  What each makes of a frame is compared with what the still pipeline makes of that
frame alone.
-/

namespace ImageResizer

open Outcome (After EndsWhen)

section Paths

variable {Content : Type} (lib : Imaging Content) (query : ResizeQuery)
variable (config : PerformanceConfig)

/-- The still pipeline on a frame alone: trim, crop and the rest, on an upright image. -/
def stillFrame (image : Raster Content) : Stage (Raster Content) := do
  let prepared ← prepareStill lib query ⟨image, .noTransforms, none, none⟩
  transformSingle lib query config prepared.size prepared

/-- The images of the output: of a single frame, or of each of several. -/
def outputImages (source : Size) : List (Frame Content) → Stage (List (Raster Content))
  | [frame] => (fun output => [output]) <$> transformSingle lib query config source frame.image
  | frames => frames.mapM fun frame => Frame.image <$> animateFrame lib query source frame

/-- What a pipeline is traced to show. -/
def SameGeometry (first second : Raster (Content × Provenance)) : Prop :=
  first.size = second.size ∧ first.provenance = second.provenance

/-- An output frame has the size the still pipeline gives the frame, and shows the same part of
it in the same place. -/
def AgreesWithStill (image : Raster Content) (output : Raster (Content × Provenance)) : Prop :=
  ∃ still, stillFrame lib.traced query config image.asSource = .ok still ∧
    SameGeometry output still

end Paths

/-! ## The parts the pipelines keep -/

section Parts

variable {Content : Type} (lib : Imaging Content) (query : ResizeQuery)

/-- The part of a frame that the trim of a request keeps. -/
def trimKeeps (image : Raster Content) : Window :=
  match query.trim with
  | none => .whole image.size
  | some trim =>
      let edges := trimEdges lib image trim
      if image.size.height ≤ edges.top + edges.bottom ∨
          image.size.width ≤ edges.left + edges.right then .whole image.size
      else edges.window image.size

/-- The part of a frame that the trim and the crop of a request keep. -/
def keptWindow (image : Raster Content) : Window :=
  let trimmed := trimKeeps lib query image
  match query.crop with
  | none => trimmed
  | some crop =>
      let window := applyCrop trimmed.size crop
      ⟨trimmed.x + window.x, trimmed.y + window.y, window.size⟩

/-- The box a frame is resized to: one of several, to the plain width and height. -/
def frameBox (several : Bool) (source : Size) : PartialBox :=
  if several then animationBox query source else (effectiveResizeBox query source).resizeBox

/-- The resize of a frame. -/
def frameStep (several : Bool) (source : Size) : Resize :=
  resizeStep query (frameBox query several source) source source

/-- A window as a part of the source. -/
def Window.placement (window : Window) : Placement := ⟨window.x, window.y, 1, 1⟩

theorem applyCrop_inside (source : Size) (crop : Crop) :
    (applyCrop source crop).Inside source := by
  obtain ⟨size, anchored⟩ := applyCrop_exact source crop
  obtain ⟨width, height⟩ := Prod.mk.inj size
  rw [← width, ← height] at anchored
  exact ⟨anchored.insideWidth, anchored.insideHeight⟩

/-- The window a cover keeps lies in the covering raster. -/
theorem firResizeToFill_inside (image : Size) (gravity : Gravity) {width height : Nat}
    (widthPos : 0 < width) (heightPos : 0 < height) :
    ∀ window, (firResizeToFill image width height gravity).window = some window →
      window.Inside ((firResizeToFill image width height gravity).raster image) := by
  set raster := (firResizeToFill image width height gravity).raster image with rasterIs
  intro window kept
  have anchored := @gravityAnchor_anchored raster width height gravity
  obtain ⟨corner, size⟩ := @cropImm_anchored raster _ _ gravity widthPos heightPos
  rw [(firResizeToFill_parts image width height gravity).2] at kept
  have windowIs := Option.some.inj kept
  rw [← rasterIs] at windowIs
  rw [windowIs] at corner size
  obtain ⟨kept_width, kept_height⟩ := Prod.mk.inj size
  rw [← corner, ← kept_width, ← kept_height] at anchored
  exact ⟨anchored.insideWidth, anchored.insideHeight⟩

theorem resizeStep_inside {box : PartialBox} (widthPos : ∀ width, box.1 = some width → 0 < width)
    (heightPos : ∀ height, box.2 = some height → 0 < height) (source image : Size) :
    ∀ window, (resizeStep query box source image).window = some window →
      window.Inside ((resizeStep query box source image).raster image) := by
  have fits (width height : Nat) : ∀ window, (firResize image width height).window = some window →
      window.Inside ((firResize image width height).raster image) := by
    intro window kept
    rw [firResize_window] at kept
    cases kept
  rcases box with ⟨_ | width, _ | height⟩
  · intro window kept
    cases kept
  · exact fits _ _
  · exact fits _ _
  · have fill := firResizeToFill_inside image query.gravity (widthPos width rfl)
      (heightPos height rfl)
    rw [resizeStep]
    cases query.resizeType with
    | fit => exact fits _ _
    | fill => exact fill
    | force =>
        intro window kept
        rw [firResizeExact_window] at kept
        cases kept
    | auto =>
        dsimp only
        split
        case isTrue => exact fill
        case isFalse => exact fits _ _

/-- No width and no height is zero, which the URL grammar reads as none. -/
structure ResizeQuery.NonzeroBox (query : ResizeQuery) : Prop where
  width : query.width ≠ some 0
  height : query.height ≠ some 0

theorem positive_of_named {value : UInt32} (named : some value ≠ some 0) : 0 < value.toNat := by
  apply Nat.pos_of_ne_zero
  intro zero
  exact named (congrArg some (UInt32.toNat_inj.mp zero))

theorem frameBox_pos (nonzero : query.NonzeroBox) (several : Bool) (source : Size) :
    (∀ width, (frameBox query several source).1 = some width → 0 < width) ∧
      ∀ height, (frameBox query several source).2 = some height → 0 < height := by
  have axis {explicit : Option UInt32} {length : Nat} (given : explicit ≠ some 0)
      (positive : 0 < length) : ∀ bound, (explicit.map fun value =>
        enlargeGuard query.enlarge value.toNat length) = some bound → 0 < bound := by
    intro bound named
    obtain ⟨value, rfl, rfl⟩ := Option.map_eq_some_iff.mp named
    have asked := positive_of_named given
    rw [enlargeGuard]
    split
    case isTrue => exact asked
    case isFalse => exact lt_min asked positive
  cases several with
  | false => exact effectiveResizeBox_pos query source
  | true => exact ⟨axis nonzero.width source.widthPos, axis nonzero.height source.heightPos⟩

theorem stillStep_inside (source : Size) :
    ∀ window, (frameStep query false source).window = some window →
      window.Inside ((frameStep query false source).raster source) :=
  resizeStep_inside query (effectiveResizeBox_pos query source).1
    (effectiveResizeBox_pos query source).2 source source

theorem frameStep_inside (nonzero : query.NonzeroBox) (several : Bool) (source : Size) :
    ∀ window, (frameStep query several source).window = some window →
      window.Inside ((frameStep query several source).raster source) :=
  resizeStep_inside query (frameBox_pos query nonzero several source).1
    (frameBox_pos query nonzero several source).2 source source

end Parts

/-! ## What the pipelines show -/

section Traces

variable {Content : Type} (lib : Imaging Content) (query : ResizeQuery)

theorem crop_unscaled (first second : Window) :
    first.placement.crop second =
      Window.placement ⟨first.x + second.x, first.y + second.y, second.size⟩ := by
  simp [Window.placement, Placement.crop]

theorem trimmed_inside {edges : TrimEdges} {size : Size}
    (covered : ¬ (size.height ≤ edges.top + edges.bottom ∨ size.width ≤ edges.left + edges.right)) :
    (edges.window size).Inside size := by
  obtain ⟨vertical, horizontal⟩ := not_or.mp covered
  have leaves := TrimEdges.leaves_window (not_le.mp vertical) (not_le.mp horizontal)
  have left := leaves.left
  have width := leaves.width
  have top := leaves.top
  have height := leaves.height
  constructor <;> omega

/-- Trim leaves its part of a frame. -/
theorem trimStage_shows {image : Raster Content} (rgba : image.color = .rgba8) :
    ∃ trimmed, trimStage lib.traced query image.asSource = .ok trimmed ∧
      trimmed.size = (trimKeeps lib query image).size ∧ trimmed.color = .rgba8 ∧
      trimmed.Shows (trimKeeps lib query image).placement := by
  have whole : image.asSource.Shows (Window.whole image.size).placement := by
    have same : (Window.whole image.size).placement = .unscaled := by
      simp [Window.placement, Window.whole, Placement.unscaled]
    rw [same]
    exact shows_asSource image
  rw [trimStage, trimKeeps]
  cases query.trim with
  | none => exact ⟨_, rfl, rfl, rgba, whole⟩
  | some trim =>
      have converted : image.asSource.toRgba8 lib.traced = .ok image.asSource :=
        toColor_self _ rgba
      refine ⟨_, applyTrim_ok converted, ?_⟩
      have edges : trimEdges lib.traced image.asSource trim = trimEdges lib image trim := rfl
      have sizes : image.asSource.size = image.size := rfl
      rw [edges, sizes]
      by_cases covered : image.size.height ≤ (trimEdges lib image trim).top +
          (trimEdges lib image trim).bottom ∨
        image.size.width ≤ (trimEdges lib image trim).left + (trimEdges lib image trim).right
      case pos =>
          simp only [covered, if_true]
          exact ⟨rfl, rgba, whole⟩
      case neg =>
          simp only [covered, if_false]
          have unscaled : Placement.unscaled.crop ((trimEdges lib image trim).window image.size) =
              ((trimEdges lib image trim).window image.size).placement := by
            simp [Window.placement, Placement.crop, Placement.unscaled]
          rw [← unscaled]
          exact ⟨rfl, rgba, (shows_asSource image).crop (trimmed_inside covered)⟩

/-- Trim and crop leave their part of a frame. -/
theorem prepareStill_shows {image : Raster Content} (rgba : image.color = .rgba8) :
    ∃ prepared, prepareStill lib.traced query ⟨image.asSource, .noTransforms, none, none⟩ =
        .ok prepared ∧
      prepared.size = (keptWindow lib query image).size ∧ prepared.color = .rgba8 ∧
      prepared.Shows (keptWindow lib query image).placement := by
  obtain ⟨trimmed, trims, size, color, shows_⟩ := trimStage_shows lib query rgba
  have upright : autorotate lib.traced query ⟨image.asSource, .noTransforms, none, none⟩ =
      image.asSource := by
    rw [autorotate]
    split <;> rfl
  refine ⟨cropStage lib.traced query trimmed, ?_, ?_⟩
  · rw [prepareStill, upright, trims]
    rfl
  · rw [cropStage, keptWindow]
    cases query.crop with
    | none => exact ⟨size, color, shows_⟩
    | some crop =>
        have cropped : applyCropTo lib.traced trimmed crop =
            trimmed.crop lib.traced (applyCrop (trimKeeps lib query image).size crop) := by
          rw [applyCropTo, size]
        have inside : (applyCrop (trimKeeps lib query image).size crop).Inside trimmed.size :=
          size ▸ applyCrop_inside (trimKeeps lib query image).size crop
        dsimp only
        rw [cropped, ← crop_unscaled]
        exact ⟨rfl, color, shows_.crop inside⟩

/-- A resized image shows its part, turned. -/
theorem resizeAndFilter_lying {image : Raster (Content × Provenance)} {placement : Placement}
    (shows_ : image.Shows placement) {box : PartialBox} {filter : FilterType}
    (inside : ∀ window, (resizeStep query box image.size image.size).window = some window →
      window.Inside ((resizeStep query box image.size image.size).raster image.size)) :
    After (resizeAndFilter lib.traced query box filter image.size image) fun result =>
      result.size = sizeAfterTurn query ((resizeStep query box image.size image.size).result
        image.size) ∧
      result.provenance = lying query
        ((resizeStep query box image.size image.size).placement image.size placement)
        ((resizeStep query box image.size image.size).result image.size) (0, 0) := by
  intro result ended
  obtain ⟨resized, resizes, ended⟩ := (Outcome.bind_ok_iff ..).mp ended
  cases ended
  obtain ⟨size, shown⟩ := shows_.resize inside filter resized resizes
  constructor
  · rw [applyFilters_size, applyFlip_size, applyRotate, turn_size, size]
    rfl
  · rw [oriented_provenance, shown, size]
    have none_ (point : Point) : cornerBack (0, 0) point = point := by simp [cornerBack]
    apply Provenance.ext
    · funext point
      simp only [Provenance.through, lying, none_]
      rfl
    · ext point
      simp only [Provenance.through, lying, none_]
      exact turnBack_mem_area ..

/-- A finished image shows its part, turned, where extend and padding put it. -/
theorem transformSingle_lying {image : Raster (Content × Provenance)} {placement : Placement}
    (config : PerformanceConfig) (shows_ : image.Shows placement) :
    After (transformSingle lib.traced query config image.size image) fun result =>
      (result.size = paddedSize query image.size
          (sizeAfterTurn query ((frameStep query false image.size).result image.size)) ∧
        WithinMaximum config result.size) ∧
      result.provenance = lying query
        ((frameStep query false image.size).placement image.size placement)
        ((frameStep query false image.size).result image.size)
        (growthCorner query image.size
          (sizeAfterTurn query ((frameStep query false image.size).result image.size))) := by
  intro result ended
  rw [transformSingle_eq_growthStage] at ended
  obtain ⟨resized, resizes, grows⟩ := (Outcome.bind_ok_iff ..).mp ended
  obtain ⟨size, shown⟩ := resizeAndFilter_lying lib query shows_
    (stillStep_inside query image.size) resized resizes
  have grown := growthStage_ends lib.traced query config image.size resized result grows
  have moved := growthStage_provenance lib query config image.size resized result grows
  rw [size] at grown moved
  refine ⟨grown, ?_⟩
  rw [moved, shown]
  have none_ (point : Point) : cornerBack (0, 0) point = point := by simp [cornerBack]
  simp only [Provenance.through, lying, none_]
  rfl

/-- A frame of an animation shows its part, turned, in the corner of its canvas. -/
theorem animateFrame_lying (nonzero : query.NonzeroBox) (frame : Frame Content) :
    After (animateFrame lib.traced query frame.image.size ⟨frame.image.asSource, frame.delay⟩)
      fun output =>
        output.image.size = sizeAfterTurn query
          ((frameStep query true frame.image.size).result frame.image.size) ∧
        output.image.provenance = lying query
          ((frameStep query true frame.image.size).placement frame.image.size .unscaled)
          ((frameStep query true frame.image.size).result frame.image.size) (0, 0) := by
  intro output ended
  obtain ⟨resized, resizes, ended⟩ := (Outcome.bind_ok_iff ..).mp ended
  obtain ⟨rgba, converts, ended⟩ := (Outcome.bind_ok_iff ..).mp ended
  cases ended
  obtain ⟨size, shown⟩ := resizeAndFilter_lying lib query (shows_asSource frame.image)
    (frameStep_inside query nonzero true frame.image.size) resized resizes
  obtain ⟨sameSize, sameShown⟩ := toColor_provenance lib resized .rgba8 rgba converts
  exact ⟨sameSize.trans size, sameShown.trans shown⟩

end Traces

/-! ## Where the still pipeline ends -/

section Ends

variable {Content : Type} {lib : Imaging Content} {query : ResizeQuery}

theorem Imaging.Steady.traced (steady : lib.Steady) : lib.traced.Steady where
  resamples alg image size := by
    obtain ⟨content, made⟩ := steady.resamples alg image.plain size
    refine ⟨(content, image.provenance.through (image.size.scaleBack size)), ?_⟩
    simp only [Imaging.traced, made]
    rfl

/-- What an image is after it was resized by a step, turned and filtered. -/
def Shape.resized (lib : Imaging Content) (query : ResizeQuery) (step : Resize) (shape : Shape) :
    Shape where
  size := sizeAfterTurn query (step.result shape.size)
  color := if query.grayscale = some true then lib.grayColor shape.color else shape.color

theorem turn_color (image : Raster Content) (orientation : Orientation) :
    (image.turn lib orientation).color = image.color := by
  rw [Raster.turn]
  split <;> rfl

theorem applyFlip_color (image : Raster Content) :
    (applyFlip lib query image).color = image.color := by
  rw [applyFlip]
  split <;> split <;> simp only [turn_color]

theorem applyFilters_color (image : Raster Content) :
    (applyFilters lib query image).color =
      if query.grayscale = some true then lib.grayColor image.color else image.color := by
  have gray : (if query.grayscale = some true then image.grayscale lib else image).color =
      if query.grayscale = some true then lib.grayColor image.color else image.color := by
    split <;> rfl
  rw [applyFilters]
  cases query.blurSigma with
  | none => exact gray
  | some sigma =>
      dsimp only
      split
      case isTrue => exact gray
      case isFalse => exact gray

theorem resizeAndFilter_endsWhen (steady : lib.Steady) (box : PartialBox) (filter : FilterType)
    (source : Size) (image : Raster Content) :
    EndsWhen (resizeAndFilter lib query box filter source image)
      (ScaledFits (resizeStep query box source image.size) image.color)
      fun resized =>
        resized.shape = image.shape.resized lib query (resizeStep query box source image.size) := by
  refine .bind_pure (resize_endsWhen lib image steady _ filter) fun resized shape => ?_
  obtain ⟨size, color⟩ := Shape.mk.inj shape
  rw [Raster.shape, applyFilters_size, applyFlip_size, applyRotate, turn_size, applyFilters_color,
    applyFlip_color, turn_color, size, color]
  rfl

/-- Images of one colour type are resized to images of one colour type. -/
theorem resizeAndFilter_color (steady : lib.Steady) {first second first' second' : Raster Content}
    {box box' : PartialBox} {filter filter' : FilterType} {source source' : Size}
    (same : first.color = second.color)
    (firstEnds : resizeAndFilter lib query box filter source first = .ok first')
    (secondEnds : resizeAndFilter lib query box' filter' source' second = .ok second') :
    first'.color = second'.color := by
  have shape := (resizeAndFilter_endsWhen steady box filter source first).of_ok firstEnds
  have shape' := (resizeAndFilter_endsWhen steady box' filter' source' second).of_ok secondEnds
  have colors := congrArg Shape.color shape
  have colors' := congrArg Shape.color shape'
  dsimp only [Shape.resized, Raster.shape_color] at colors colors'
  rw [colors, colors', same]

/-- A resize whose raster fits has its canvas. -/
theorem ScaledFits.of_raster {step : Resize} {size : Size} {color : ColorType}
    (fits : CanvasFits (step.raster size) color) : ScaledFits step color := by
  intro target scaled
  rw [Resize.raster, scaled] at fits
  exact fits

theorem le_paddedSize (source image : Size) :
    (extendedSize query source image).width ≤ (paddedSize query source image).width ∧
      (extendedSize query source image).height ≤ (paddedSize query source image).height := by
  have widthFits := (extendedSize query source image).widthFits
  have heightFits := (extendedSize query source image).heightFits
  rw [paddedSize, grown, paddingCanvas]
  cases query.padding with
  | none => exact ⟨le_rfl, le_rfl⟩
  | some padding =>
      simp only [Option.map_some, Option.getD_some, paddingSize, Size.floored]
      omega

/-- An image grown to its own size needs no more than a canvas of that size. -/
theorem growthFits_of_idle {source : Size} {shape : Shape} (fits : CanvasFits shape.size .rgba8)
    (idle : paddedSize query source shape.size = shape.size) : GrowthFits query source shape := by
  have larger := @le_paddedSize query source shape.size
  rw [idle] at larger
  constructor
  · intro used built
    rw [extendedSize, built] at larger
    exact CanvasFits.layer (fits.anti larger.1 larger.2) shape
  · intro used built
    rw [paddedSize, built] at idle
    have same : used.size = shape.size := idle
    exact CanvasFits.layer (same ▸ fits) _

end Ends

/-! ## How large the rasters are -/

section Rasters

theorem resize_placement_ratio (step : Resize) (size : Size) (placement : Placement) :
    (step.placement size placement).across =
        size.width / (step.raster size).width * placement.across ∧
      (step.placement size placement).down =
        size.height / (step.raster size).height * placement.down := by
  have widthPos : (size.width : ℚ) ≠ 0 := by exact_mod_cast size.widthPos.ne'
  have heightPos : (size.height : ℚ) ≠ 0 := by exact_mod_cast size.heightPos.ne'
  rw [Resize.placement, Resize.raster]
  cases step.scaled with
  | none =>
      cases step.window with
      | none => simp [div_self widthPos, div_self heightPos]
      | some window => simp [Placement.crop, div_self widthPos, div_self heightPos]
  | some target =>
      cases step.window with
      | none => exact ⟨rfl, rfl⟩
      | some window => exact ⟨rfl, rfl⟩

/-- At one scale, less of a source takes a smaller raster. -/
theorem raster_le_of_scale {part whole raster raster' : Nat} (smaller : part ≤ whole)
    (wholePos : 0 < whole) (rasterPos : 0 < raster) (rasterPos' : 0 < raster')
    (scale : (part : ℚ) / raster = whole / raster') : raster ≤ raster' := by
  have rasterNe : (raster : ℚ) ≠ 0 := by exact_mod_cast rasterPos.ne'
  have rasterNe' : (raster' : ℚ) ≠ 0 := by exact_mod_cast rasterPos'.ne'
  rw [div_eq_div_iff rasterNe rasterNe'] at scale
  have products : part * raster' = whole * raster := by exact_mod_cast scale
  have bound : whole * raster ≤ whole * raster' := products ▸ Nat.mul_le_mul_right _ smaller
  exact Nat.le_of_mul_le_mul_left bound wholePos

theorem result_le_raster {step : Resize} {size : Size}
    (inside : ∀ window, step.window = some window → window.Inside (step.raster size)) :
    (step.result size).width ≤ (step.raster size).width ∧
      (step.result size).height ≤ (step.raster size).height := by
  rw [Resize.result]
  cases kept : step.window with
  | none => exact ⟨le_rfl, le_rfl⟩
  | some window =>
      obtain ⟨width, height⟩ := inside window kept
      constructor <;> dsimp only <;> omega

theorem CanvasFits.turned {size : Size} {color : ColorType} (fits : CanvasFits size color)
    (query : ResizeQuery) : CanvasFits (sizeAfterTurn query size) color := by
  rw [sizeAfterTurn, Size.swapIf]
  split
  case isTrue =>
      rw [CanvasFits, Size.swap, Nat.mul_comm size.height]
      exact fits
  case isFalse => exact fits

end Rasters

end ImageResizer
