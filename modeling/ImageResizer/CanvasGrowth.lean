import ImageResizer.Foundation.Recorded
import ImageResizer.NoPanic.Geometry
import ImageResizer.OutputCap

/-!
# Canvas growth

`extend` and `padding` put the resized image on a larger canvas.  An extended canvas was
bounded when the request was accepted.  A padded one is bounded by nothing before it is built:
the final size is checked afterwards.  The stages are run here with a record of the canvases
they build.
-/

namespace ImageResizer

open Outcome (Returns After EndsWhen)
open Recording
open Recorded (silent perform)

/-- A canvas and the place of an image on it. -/
structure Canvas where
  size : Size
  x : Nat
  y : Nat
  deriving DecidableEq

namespace Canvas

/-- The whole image lies on the canvas at its place. -/
def Holds (canvas : Canvas) (image : Size) : Prop :=
  canvas.x + image.width ≤ canvas.size.width ∧ canvas.y + image.height ≤ canvas.size.height

end Canvas

section Canvases

variable {Content : Type} (lib : Imaging Content) (query : ResizeQuery)

/-- The canvas that extending an image of this size builds, if it builds one. -/
def extendCanvas (target : Option (Nat × Nat)) (image : Size) : Option Canvas :=
  match target with
  | some (width, height) =>
      if query.extend ∧ ¬ (width ≤ image.width ∧ height ≤ image.height) then
        let size := extendSize image width height
        some ⟨size, (size.width - image.width) / 2, (size.height - image.height) / 2⟩
      else none
  | none => none

/-- The canvas that padding an image of this size builds. -/
def paddingCanvas (image : Size) : Option Canvas :=
  query.padding.map fun padding =>
    ⟨paddingSize image padding, padding.left.toNat, padding.top.toNat⟩

/-- An image put on its canvas, if it has one. -/
def embed (image : Raster Content) (canvas : Option Canvas) : Stage (Raster Content) :=
  match canvas with
  | some canvas => embedOnBackground lib image canvas.size (canvas.x, canvas.y) query.fill
  | none => pure image

/-- The size an image has on its canvas. -/
def grown (canvas : Option Canvas) (image : Size) : Size := (canvas.map Canvas.size).getD image

/-! ## A record of the canvases -/

/-- A canvas that was built, and the size of the image it was built for. -/
structure BuiltCanvas where
  image : Size
  canvas : Canvas
  deriving DecidableEq

/-- A stage with the record of its canvases. -/
abbrev Growing (α : Type) := Recorded BuiltCanvas (Stop Failure) α

def embedOnBackgroundRecorded (image : Raster Content) (size : Size) (offset : Nat × Nat)
    (background : Rgb) : Growing (Raster Content) := do
  let color : ColorType := if image.hasAlpha then .rgba8 else .rgb8
  silent (newCanvas size color)
  perform ⟨image.size, ⟨size, offset.1, offset.2⟩⟩ (pure ())
  let layer ← silent (image.toColor lib color)
  pure ⟨size, color, lib.embed background size offset layer⟩

def applyExtendRecorded (image : Raster Content) (targetW targetH : Nat) (background : Rgb) :
    Growing (Raster Content) :=
  if targetW ≤ image.size.width ∧ targetH ≤ image.size.height then pure image
  else do
    let size := extendSize image.size targetW targetH
    let slackW ← silent (u32Sub size.width image.size.width)
    let slackH ← silent (u32Sub size.height image.size.height)
    embedOnBackgroundRecorded lib image size (slackW / 2, slackH / 2) background

def applyPaddingRecorded (image : Raster Content) (padding : Padding) (background : Rgb) :
    Growing (Raster Content) :=
  embedOnBackgroundRecorded lib image (paddingSize image.size padding)
    (padding.left.toNat, padding.top.toNat) background

def extendStageRecorded (target : Option (Nat × Nat)) (image : Raster Content) :
    Growing (Raster Content) :=
  match target with
  | some (width, height) =>
      if query.extend then applyExtendRecorded lib image width height query.fill else pure image
  | none => pure image

def paddingStageRecorded (image : Raster Content) : Growing (Raster Content) :=
  match query.padding with
  | some padding => applyPaddingRecorded lib image padding query.fill
  | none => pure image

/-- An image put on its canvas, if it has one, with the record. -/
def embedRecorded (image : Raster Content) (canvas : Option Canvas) : Growing (Raster Content) :=
  match canvas with
  | some canvas =>
      embedOnBackgroundRecorded lib image canvas.size (canvas.x, canvas.y) query.fill
  | none => pure image

@[simp]
theorem embedOnBackgroundRecorded_result (image : Raster Content) (size : Size)
    (offset : Nat × Nat) (background : Rgb) :
    (embedOnBackgroundRecorded lib image size offset background).result =
      embedOnBackground lib image size offset background := by
  simp [embedOnBackgroundRecorded, embedOnBackground]

@[simp]
theorem applyExtendRecorded_result (image : Raster Content) (targetW targetH : Nat)
    (background : Rgb) :
    (applyExtendRecorded lib image targetW targetH background).result =
      applyExtend lib image targetW targetH background := by
  unfold applyExtendRecorded applyExtend
  by_cases covered : targetW ≤ image.size.width ∧ targetH ≤ image.size.height
  case pos => rw [if_pos covered, if_pos covered, Recorded.result_pure]
  case neg => simp [if_neg covered]

@[simp]
theorem extendStageRecorded_result (target : Option (Nat × Nat)) (image : Raster Content) :
    (extendStageRecorded lib query target image).result =
      extendStage lib query target image := by
  unfold extendStageRecorded extendStage
  split
  case h_1 =>
      split
      case isTrue => exact applyExtendRecorded_result ..
      case isFalse => rfl
  case h_2 => rfl

@[simp]
theorem paddingStageRecorded_result (image : Raster Content) :
    (paddingStageRecorded lib query image).result = paddingStage lib query image := by
  unfold paddingStageRecorded paddingStage
  cases query.padding with
  | none => rfl
  | some padding => exact embedOnBackgroundRecorded_result ..

@[simp]
theorem embedRecorded_result (image : Raster Content) (canvas : Option Canvas) :
    (embedRecorded lib query image canvas).result = embed lib query image canvas := by
  cases canvas with
  | none => rfl
  | some canvas => exact embedOnBackgroundRecorded_result ..

theorem extendStageRecorded_eq_embed (target : Option (Nat × Nat)) (image : Raster Content) :
    extendStageRecorded lib query target image =
      embedRecorded lib query image (extendCanvas query target image.size) := by
  unfold extendStageRecorded extendCanvas
  cases target with
  | none => rfl
  | some box =>
      obtain ⟨width, height⟩ := box
      cases extend : query.extend with
      | false => simp [embedRecorded]
      | true =>
          have larger := extendSize_le image.size width height
          dsimp only
          unfold applyExtendRecorded
          by_cases covered : width ≤ image.size.width ∧ height ≤ image.size.height
          case pos => simp [embedRecorded, covered]
          case neg =>
              rw [if_pos rfl, if_neg covered, if_pos ⟨rfl, covered⟩]
              simp only [u32Sub_ok larger.1, u32Sub_ok larger.2]
              rfl

theorem paddingStageRecorded_eq_embed (image : Raster Content) :
    paddingStageRecorded lib query image =
      embedRecorded lib query image (paddingCanvas query image.size) := by
  unfold paddingStageRecorded paddingCanvas
  cases query.padding <;> rfl

theorem extendStage_eq_embed (target : Option (Nat × Nat)) (image : Raster Content) :
    extendStage lib query target image =
      embed lib query image (extendCanvas query target image.size) := by
  rw [← extendStageRecorded_result, extendStageRecorded_eq_embed, embedRecorded_result]

theorem paddingStage_eq_embed (image : Raster Content) :
    paddingStage lib query image = embed lib query image (paddingCanvas query image.size) := by
  rw [← paddingStageRecorded_result, paddingStageRecorded_eq_embed, embedRecorded_result]

/-- The canvas of an image is built when it fits. -/
theorem mem_embedRecorded_iff (image : Raster Content) (canvas : Option Canvas)
    (built : BuiltCanvas) :
    built ∈ (embedRecorded lib query image canvas).events ↔
      canvas = some built.canvas ∧ built.image = image.size ∧
        CanvasFits built.canvas.size image.shape.layerColor := by
  cases canvas with
  | none => simp [embedRecorded]
  | some canvas =>
      by_cases fits : CanvasFits canvas.size image.shape.layerColor
      case pos =>
          have events : (embedRecorded lib query image (some canvas)).events =
              [⟨image.size, canvas⟩] := by
            unfold embedRecorded embedOnBackgroundRecorded
            rw [Recorded.events_bind_of_ok (newCanvas_ok fits), Recorded.events_bind_of_ok rfl,
              Recorded.events_bind_of_quiet _ fun _ => rfl]
            rfl
          rw [events, List.mem_singleton]
          constructor
          · rintro rfl
            exact ⟨rfl, rfl, fits⟩
          · rintro ⟨same, size, -⟩
            cases built
            cases same
            cases size
            rfl
      case neg =>
          have events : (embedRecorded lib query image (some canvas)).events = [] := by
            unfold embedRecorded embedOnBackgroundRecorded
            rw [Recorded.events_bind_of_error (if_neg fits)]
            rfl
          rw [events]
          refine iff_of_false List.not_mem_nil ?_
          rintro ⟨same, -, canvasFits⟩
          cases same
          exact fits canvasFits

theorem embed_size (image : Raster Content) (canvas : Option Canvas) :
    After (embed lib query image canvas) fun result => result.size = grown canvas image.size := by
  intro result ended
  cases canvas with
  | none =>
      obtain rfl := Except.ok.inj ended
      rfl
  | some canvas =>
      obtain ⟨⟨⟩, -, filled⟩ := (Outcome.bind_ok_iff _ _ _).mp ended
      obtain ⟨layer, -, embedded⟩ := (Outcome.bind_ok_iff _ _ _).mp filled
      obtain rfl := Except.ok.inj embedded
      rfl

/-- The canvas an image is put on, if it is put on one, fits. -/
def EmbedFits (canvas : Option Canvas) (shape : Shape) : Prop :=
  ∀ used, canvas = some used → CanvasFits used.size shape.layerColor

/-- What an image on its canvas, if it has one, is. -/
def Shape.embedded (shape : Shape) (canvas : Option Canvas) : Shape :=
  canvas.elim shape fun used => ⟨used.size, shape.layerColor⟩

theorem Shape.embedded_size (shape : Shape) (canvas : Option Canvas) :
    (shape.embedded canvas).size = grown canvas shape.size := by
  cases canvas <;> rfl

theorem embed_endsWhen (image : Raster Content) {canvas : Option Canvas}
    (larger : ∀ used, canvas = some used →
      image.size.width ≤ used.size.width ∧ image.size.height ≤ used.size.height) :
    EndsWhen (embed lib query image canvas) (EmbedFits canvas image.shape)
      fun embedded => embedded.shape = image.shape.embedded canvas := by
  unfold EmbedFits
  cases canvas with
  | none => exact .congr (Outcome.endsWhen_pure rfl) (by simp)
  | some used =>
      obtain ⟨width, height⟩ := larger used rfl
      exact .congr (embedOnBackground_endsWhen lib image _ _ _ width height) (by simp)

theorem extendCanvas_larger {target : Option (Nat × Nat)} {image : Size} :
    ∀ used, extendCanvas query target image = some used →
      image.width ≤ used.size.width ∧ image.height ≤ used.size.height := by
  intro used built
  unfold extendCanvas at built
  split at built
  case h_2 => cases built
  case h_1 width height =>
      split at built
      case isFalse => cases built
      case isTrue =>
          obtain rfl := Option.some.inj built
          exact extendSize_le image width height

theorem paddingCanvas_larger {image : Size} :
    ∀ used, paddingCanvas query image = some used →
      image.width ≤ used.size.width ∧ image.height ≤ used.size.height := by
  intro used built
  obtain ⟨padding, -, rfl⟩ := Option.map_eq_some_iff.mp built
  exact paddingSize_le image padding

end Canvases

section Extend

variable {query : ResizeQuery} {config : PerformanceConfig} {source image : Size}
variable {canvas : Canvas}

/-- The target of `extend` is both explicit axes under zoom and device pixel ratio. -/
theorem extendBox_scaled {width height : Nat}
    (target : (effectiveResizeBox query source).extendBox = some (width, height)) :
    ∃ first second : UInt32, query.width = some first ∧ query.height = some second ∧
      width = scaleAxis first.toNat query.zoomX.value query.dpr.value ∧
      height = scaleAxis second.toNat query.zoomY.value query.dpr.value := by
  unfold effectiveResizeBox at target
  split at target
  case isTrue => cases target
  case isFalse =>
      cases first : query.width with
      | none => simp [first] at target
      | some value =>
          cases second : query.height with
          | none => simp [first, second] at target
          | some other =>
              simp only [first, second, Option.map_some, Option.some.injEq, Prod.mk.injEq] at target
              exact ⟨value, other, rfl, rfl, target.1.symm, target.2.symm⟩

theorem extendBox_le (multipliers : query.PositiveMultipliers)
    (accepted : checkOutputDimensions query config = .ok ()) {width height : Nat}
    (target : (effectiveResizeBox query source).extendBox = some (width, height)) :
    width ≤ max 1 config.maxOutputWidth.toNat ∧ height ≤ max 1 config.maxOutputHeight.toNat := by
  obtain ⟨first, second, widthNamed, heightNamed, rfl, rfl⟩ := extendBox_scaled target
  obtain ⟨widthAccepted, heightAccepted⟩ := accepted_axes accepted
  rw [widthNamed] at widthAccepted
  rw [heightNamed] at heightAccepted
  exact ⟨scaleAxis_le multipliers.zoomX multipliers.dpr (toNat_le_u32Max _) widthAccepted,
    scaleAxis_le multipliers.zoomY multipliers.dpr (toNat_le_u32Max _) heightAccepted⟩

/-- The extended canvas of an accepted request is within the configured maximum, or no
larger than the image on that axis. -/
theorem extendCanvas_le (multipliers : query.PositiveMultipliers)
    (accepted : checkOutputDimensions query config = .ok ())
    (built : extendCanvas query (effectiveResizeBox query source).extendBox image = some canvas) :
    canvas.size.width ≤ max config.maxOutputWidth.toNat image.width ∧
      canvas.size.height ≤ max config.maxOutputHeight.toNat image.height := by
  have widthPos := image.widthPos
  have heightPos := image.heightPos
  unfold extendCanvas at built
  split at built
  case h_2 => cases built
  case h_1 width height target =>
      obtain ⟨widthLe, heightLe⟩ := extendBox_le multipliers accepted target
      split at built
      case isFalse => cases built
      case isTrue short =>
          obtain rfl := Option.some.inj built
          simp only [extendSize, Size.floored]
          omega

/-- The image lies in the middle of its extended canvas. -/
theorem extendCanvas_holds {target : Option (Nat × Nat)}
    (built : extendCanvas query target image = some canvas) : canvas.Holds image := by
  unfold extendCanvas at built
  split at built
  case h_2 => cases built
  case h_1 width height =>
      split at built
      case isFalse => cases built
      case isTrue short =>
          obtain rfl := Option.some.inj built
          have larger := extendSize_le image width height
          constructor <;> dsimp only <;> omega

end Extend

section Padding

variable {query : ResizeQuery} {image : Size} {padding : Padding}

/-- The image lies on its padded canvas exactly when adding the leading sides does not
saturate. -/
theorem paddingCanvas_holds_iff :
    (Canvas.mk (paddingSize image padding) padding.left.toNat padding.top.toNat).Holds image ↔
      image.width + padding.left.toNat ≤ u32Max ∧ image.height + padding.top.toNat ≤ u32Max := by
  have width := image.widthPos
  have height := image.heightPos
  have large : 1 ≤ u32Max := by decide
  simp only [Canvas.Holds, paddingSize, Size.floored]
  omega

end Padding

section Growth

variable {Content : Type} (lib : Imaging Content) (query : ResizeQuery)
variable (config : PerformanceConfig) (source : Size)

/-- The stages of `encode_single_image` after the resize: extend, pad, and check the size of
the canvas that was built. -/
def growthStage (resized : Raster Content) : Stage (Raster Content) := do
  let extended ← extendStage lib query (effectiveResizeBox query source).extendBox resized
  let padded ← paddingStage lib query extended
  .lift (checkFinalSize config padded.size)
  pure padded

/-- The same with the record of its canvases. -/
def growthRecorded (resized : Raster Content) : Growing (Raster Content) := do
  let extended ← extendStageRecorded lib query (effectiveResizeBox query source).extendBox resized
  let padded ← paddingStageRecorded lib query extended
  silent (Outcome.lift (checkFinalSize config padded.size))
  pure padded

@[simp]
theorem growthRecorded_result (resized : Raster Content) :
    (growthRecorded lib query config source resized).result =
      growthStage lib query config source resized := by
  simp [growthRecorded, growthStage]

theorem transformSingle_eq_growthStage (image : Raster Content) :
    transformSingle lib query config source image = (do
      let box := (effectiveResizeBox query source).resizeBox
      let resized ← resizeAndFilter lib query box (filterFor box) source image
      growthStage lib query config source resized) := rfl

/-- The size of the extended image. -/
def extendedSize (image : Size) : Size :=
  grown (extendCanvas query (effectiveResizeBox query source).extendBox image) image

/-- The size of the extended and padded image. -/
def paddedSize (image : Size) : Size :=
  grown (paddingCanvas query (extendedSize query source image)) (extendedSize query source image)

/-- The configured maximum holds on both axes. -/
def WithinMaximum (size : Size) : Prop :=
  size.width ≤ config.maxOutputWidth.toNat ∧ size.height ≤ config.maxOutputHeight.toNat

theorem checkFinalSize_ok_iff (size : Size) :
    checkFinalSize config size = .ok () ↔ WithinMaximum config size := by
  unfold checkFinalSize WithinMaximum
  split <;> simp <;> omega

theorem growthStage_eq (resized : Raster Content) :
    growthStage lib query config source resized = (do
      let extended ← embed lib query resized
        (extendCanvas query (effectiveResizeBox query source).extendBox resized.size)
      let padded ← embed lib query extended (paddingCanvas query extended.size)
      .lift (checkFinalSize config padded.size)
      pure padded) := by
  unfold growthStage
  rw [extendStage_eq_embed]
  simp only [paddingStage_eq_embed]

/-- Growing ends with the extended and padded image, within the maximum. -/
theorem growthStage_ends (resized : Raster Content) :
    After (growthStage lib query config source resized) fun result =>
      result.size = paddedSize query source resized.size ∧ WithinMaximum config result.size := by
  intro result ended
  rw [growthStage_eq] at ended
  obtain ⟨extended, extends_, rest⟩ := (Outcome.bind_ok_iff _ _ _).mp ended
  obtain ⟨padded, pads, checked⟩ := (Outcome.bind_ok_iff _ _ _).mp rest
  obtain ⟨⟨⟩, fits, same⟩ := (Outcome.bind_ok_iff _ _ _).mp checked
  obtain rfl := Except.ok.inj same
  have extendedIs := embed_size lib query _ _ extended extends_
  have paddedIs := embed_size lib query _ _ padded pads
  refine ⟨?_, (checkFinalSize_ok_iff config padded.size).mp ((Outcome.lift_ok_iff _ _).mp fits)⟩
  rw [paddedIs, extendedIs]
  rfl

/-- What an image is after extending. -/
def Shape.extended (shape : Shape) : Shape :=
  shape.embedded (extendCanvas query (effectiveResizeBox query source).extendBox shape.size)

/-- What an image is after extending and padding. -/
def Shape.padded (shape : Shape) : Shape :=
  (shape.extended query source).embedded
    (paddingCanvas query (extendedSize query source shape.size))

/-- The canvases that extending and padding an image build fit. -/
def GrowthFits (shape : Shape) : Prop :=
  EmbedFits (extendCanvas query (effectiveResizeBox query source).extendBox shape.size) shape ∧
    EmbedFits (paddingCanvas query (extendedSize query source shape.size))
      (shape.extended query source)

/-- Growing needs its canvases to fit, and what follows it is reached within the maximum. -/
theorem growthStage_bind_returns_iff {α : Type} {next : Raster Content → Stage α} {p : Prop}
    (resized : Raster Content)
    (rest : ∀ padded, padded.shape = resized.shape.padded query source →
      (Returns (next padded) ↔ p)) :
    Returns (growthStage lib query config source resized >>= next) ↔
      GrowthFits query source resized.shape ∧
        (WithinMaximum config (paddedSize query source resized.size) → p) := by
  rw [growthStage_eq, GrowthFits, and_assoc]
  simp only [bind_assoc, pure_bind]
  refine (embed_endsWhen lib query resized (extendCanvas_larger query)).bind_returns_iff
    fun extended shape => ?_
  have sizeIs : extended.size = extendedSize query source resized.size :=
    (congrArg Shape.size shape).trans (Shape.embedded_size ..)
  have shapeIs : resized.shape.extended query source = extended.shape := shape.symm
  rw [Raster.shape_size, ← sizeIs, shapeIs]
  refine (embed_endsWhen lib query extended (paddingCanvas_larger query)).bind_returns_iff
    fun padded paddedShape => ?_
  have paddedIs : padded.size = paddedSize query source resized.size := by
    refine (congrArg Shape.size paddedShape).trans ((Shape.embedded_size ..).trans ?_)
    rw [paddedSize, ← sizeIs]
    rfl
  have wholeShape : padded.shape = resized.shape.padded query source := by
    rw [Shape.padded, Raster.shape_size, ← sizeIs, shapeIs]
    exact paddedShape
  rw [Outcome.returns_lift_bind_iff, ← paddedIs, ← rest padded wholeShape]
  exact ⟨fun holds within => holds () ((checkFinalSize_ok_iff ..).mpr within),
    fun holds _ checked => holds ((checkFinalSize_ok_iff ..).mp checked)⟩

theorem growthStage_returns_iff (resized : Raster Content) :
    Returns (growthStage lib query config source resized) ↔
      GrowthFits query source resized.shape := by
  have whole := @growthStage_bind_returns_iff Content lib query config source _ pure True resized
    fun _ _ => iff_true_intro (Outcome.returns_pure _)
  rw [bind_pure] at whole
  exact whole.trans (and_iff_left fun _ => trivial)

/-- Growing ends exactly when its canvases fit and the last is within the maximum. -/
theorem growthStage_ends_iff (resized : Raster Content) :
    (∃ result, growthStage lib query config source resized = .ok result) ↔
      GrowthFits query source resized.shape ∧
        WithinMaximum config (paddedSize query source resized.size) := by
  -- A rest that panics tells whether it is reached.
  have reached := @growthStage_bind_returns_iff Content lib query config source Unit
    (fun _ => Outcome.panic) False resized fun _ _ => iff_of_false Outcome.not_returns_panic id
  have fits := growthStage_returns_iff lib query config source resized
  rw [Outcome.returns_bind_iff, fits] at reached
  constructor
  · rintro ⟨result, ended⟩
    obtain ⟨same, within⟩ := growthStage_ends lib query config source resized result ended
    have returns : GrowthFits query source resized.shape := by
      rw [← fits, ended]
      exact Outcome.returns_ok result
    exact ⟨returns, same ▸ within⟩
  · rintro ⟨growthFits, within⟩
    by_contra none_
    refine (reached.mp ⟨growthFits, fun result ended => ?_⟩).2 within
    exact absurd ⟨result, ended⟩ none_

/-- An extended and padded image past the maximum is rejected, once it has been built. -/
theorem growthStage_rejects (resized : Raster Content)
    (fits : GrowthFits query source resized.shape)
    (exceeds : ¬ WithinMaximum config (paddedSize query source resized.size)) :
    ∃ failure, growthStage lib query config source resized = .fail failure := by
  cases ended : growthStage lib query config source resized with
  | ok result =>
      obtain ⟨same, within⟩ := growthStage_ends lib query config source resized result ended
      exact absurd (same ▸ within) exceeds
  | error stop =>
      cases stop with
      | failure failure => exact ⟨failure, rfl⟩
      | panic => exact absurd ended ((growthStage_returns_iff ..).mpr fits)

end Growth

section Bounded

variable {Content : Type} {lib : Imaging Content} {query : ResizeQuery}
variable {config : PerformanceConfig} {source : Size}

/-- A canvas built for an image is on no axis larger than the configured maximum and the image,
and the whole image lies on it. -/
@[mk_iff]
structure BuiltCanvas.Bounded (built : BuiltCanvas) (config : PerformanceConfig) : Prop where
  width : built.canvas.size.width ≤ max config.maxOutputWidth.toNat built.image.width
  height : built.canvas.size.height ≤ max config.maxOutputHeight.toNat built.image.height
  holds : built.canvas.Holds built.image

/-- Every canvas of a run is bounded, and a final size past the maximum is rejected. -/
structure GrowthBounded (config : PerformanceConfig) (size : Size)
    (growing : Growing (Raster Content)) : Prop where
  bounded : ∀ built ∈ growing.events, built.Bounded config
  rejected : ¬ WithinMaximum config size → ∃ failure, growing.result = Outcome.fail failure

/-- One padded axis: its sides leave it within the limit or no longer than it is, and the
leading side does not saturate. -/
structure SidesFit (limit axis leading trailing : Nat) : Prop where
  bounded : min u32Max (axis + leading + trailing) ≤ max limit axis
  inRange : axis + leading ≤ u32Max

/-- What a request asks of the extended image: sides that fit, as far as the canvases can be
built, and canvases that can be built, when they are to be rejected for their size. -/
@[mk_iff]
structure PaddingFits (query : ResizeQuery) (config : PerformanceConfig) (source : Size)
    (shape : Shape) : Prop where
  sides : GrowthFits query source shape → ∀ padding, query.padding = some padding →
    SidesFit config.maxOutputWidth.toNat (extendedSize query source shape.size).width
      padding.left.toNat padding.right.toNat ∧
    SidesFit config.maxOutputHeight.toNat (extendedSize query source shape.size).height
      padding.top.toNat padding.bottom.toNat
  buildable : ¬ WithinMaximum config (paddedSize query source shape.size) →
    GrowthFits query source shape

theorem paddingSize_eq (image : Size) (padding : Padding) :
    (paddingSize image padding).width =
        min u32Max (image.width + padding.left.toNat + padding.right.toNat) ∧
      (paddingSize image padding).height =
        min u32Max (image.height + padding.top.toNat + padding.bottom.toNat) := by
  have width := image.widthPos
  have height := image.heightPos
  have large : 1 ≤ u32Max := by decide
  simp only [paddingSize, Size.floored]
  omega

/-- A padded canvas is bounded exactly when its sides fit. -/
theorem paddingCanvas_bounded_iff (image : Size) (padding : Padding) :
    BuiltCanvas.Bounded ⟨image, paddingSize image padding, padding.left.toNat, padding.top.toNat⟩
        config ↔
      SidesFit config.maxOutputWidth.toNat image.width padding.left.toNat padding.right.toNat ∧
      SidesFit config.maxOutputHeight.toNat image.height padding.top.toNat
        padding.bottom.toNat := by
  obtain ⟨width, height⟩ := paddingSize_eq image padding
  rw [BuiltCanvas.bounded_iff, paddingCanvas_holds_iff, width, height]
  constructor
  · rintro ⟨widthLe, heightLe, left, top⟩
    exact ⟨⟨widthLe, left⟩, heightLe, top⟩
  · rintro ⟨⟨widthLe, left⟩, heightLe, top⟩
    exact ⟨widthLe, heightLe, left, top⟩

/-- The canvases of a run are that of extend, and that of padding once extend has ended. -/
theorem mem_growthRecorded_iff (resized : Raster Content) (built : BuiltCanvas) :
    built ∈ (growthRecorded lib query config source resized).events ↔
      built ∈ (embedRecorded lib query resized
        (extendCanvas query (effectiveResizeBox query source).extendBox resized.size)).events ∨
      EmbedFits (extendCanvas query (effectiveResizeBox query source).extendBox resized.size)
          resized.shape ∧
        paddingCanvas query (extendedSize query source resized.size) = some built.canvas ∧
        built.image = extendedSize query source resized.size ∧
        CanvasFits built.canvas.size (resized.shape.extended query source).layerColor := by
  have padded (extended : Raster Content) :
      (paddingStageRecorded lib query extended >>= fun padded => do
        silent (Outcome.lift (checkFinalSize config padded.size))
        pure padded : Growing (Raster Content)).events =
      (embedRecorded lib query extended (paddingCanvas query extended.size)).events := by
    rw [paddingStageRecorded_eq_embed]
    refine Recorded.events_bind_of_quiet _ fun padded => ?_
    exact Recorded.events_bind_of_quiet _ fun _ => rfl
  have extends_ := embed_endsWhen lib query resized
    (@extendCanvas_larger query (effectiveResizeBox query source).extendBox _)
  unfold growthRecorded
  rw [extendStageRecorded_eq_embed]
  by_cases fits : EmbedFits
      (extendCanvas query (effectiveResizeBox query source).extendBox resized.size) resized.shape
  case pos =>
      obtain ⟨extended, ended, shape⟩ := extends_.ends fits
      have sizeIs : extended.size = extendedSize query source resized.size :=
        (congrArg Shape.size shape).trans (Shape.embedded_size ..)
      have shapeIs : extended.shape = resized.shape.extended query source := shape
      rw [Recorded.events_bind_of_ok ((embedRecorded_result ..).trans ended), padded,
        List.mem_append, mem_embedRecorded_iff lib query extended, sizeIs, shapeIs]
      simp only [fits, true_and]
  case neg =>
      have panics : embed lib query resized (extendCanvas query
          (effectiveResizeBox query source).extendBox resized.size) = Outcome.panic := by
        by_contra returns
        exact fits (extends_.needs returns)
      rw [Recorded.events_bind_of_error ((embedRecorded_result ..).trans panics)]
      simp only [fits, false_and, or_false]

/-- **Growth before its check.**  For an accepted request the canvases are bounded, and a final
size past the maximum is rejected, exactly when the padding of the request fits. -/
theorem growthRecorded_bounded_iff (multipliers : query.PositiveMultipliers)
    (accepted : checkOutputDimensions query config = .ok ()) (resized : Raster Content) :
    GrowthBounded config (paddedSize query source resized.size)
        (growthRecorded lib query config source resized) ↔
      PaddingFits query config source resized.shape := by
  constructor
  · intro growth
    refine ⟨fun fits padding named => ?_, fun exceeds => ?_⟩
    · obtain ⟨extendFits, padFits⟩ := fits
      have canvas : paddingCanvas query (extendedSize query source resized.size) =
          some ⟨paddingSize (extendedSize query source resized.size) padding,
            padding.left.toNat, padding.top.toNat⟩ := by
        rw [paddingCanvas, named]
        rfl
      exact (paddingCanvas_bounded_iff ..).mp (growth.bounded _
        ((mem_growthRecorded_iff resized ⟨_, _⟩).mpr (.inr ⟨extendFits, canvas, rfl,
          padFits _ canvas⟩)))
    · obtain ⟨failure, fails⟩ := growth.rejected exceeds
      rw [growthRecorded_result] at fails
      rw [← growthStage_returns_iff lib query config source, fails]
      exact Outcome.returns_fail failure
  · intro padding
    refine ⟨fun built member => ?_, fun exceeds => ?_⟩
    · rcases (mem_growthRecorded_iff resized built).mp member with extends_ | pads
      case inl =>
          obtain ⟨canvas, image, -⟩ := (mem_embedRecorded_iff ..).mp extends_
          obtain ⟨width, height⟩ := extendCanvas_le multipliers accepted canvas
          rw [← image] at width height
          exact ⟨width, height, image ▸ extendCanvas_holds canvas⟩
      case inr =>
          obtain ⟨extendFits, canvas, image, canvasFits⟩ := pads
          obtain ⟨sides, named, canvasIs⟩ := Option.map_eq_some_iff.mp canvas
          have fits : GrowthFits query source resized.shape := by
            refine ⟨extendFits, fun used isUsed => ?_⟩
            rw [Raster.shape_size, canvas] at isUsed
            cases isUsed
            exact canvasFits
          have bounded := (@paddingCanvas_bounded_iff config _ _).mpr
            (padding.sides fits sides named)
          rw [Raster.shape_size, canvasIs, ← image] at bounded
          exact bounded
    · rw [growthRecorded_result]
      exact growthStage_rejects lib query config source resized (padding.buildable exceeds) exceeds

/-- An extended frame of forty by thirty, with a border of five pixels. -/
def bordered : ResizeQuery :=
  { ResizeQuery.default with
    width := some 40, height := some 30, extend := true, padding := some ⟨5, 5, 5, 5⟩ }

theorem growthRecorded_bounded_bordered :
    GrowthBounded .default (.floored 50 40) (growthRecorded .blank bordered .default
      (.floored 20 20) ⟨.floored 20 20, .rgb8, ()⟩ : Growing (Raster Unit)) := by
  have multipliers : bordered.PositiveMultipliers :=
    ⟨by decide +kernel, by decide +kernel, by decide +kernel⟩
  have sizes : paddedSize bordered (.floored 20 20) (.floored 20 20) = .floored 50 40 := by
    decide +kernel
  have within : WithinMaximum .default (.floored 50 40) := by
    unfold WithinMaximum
    decide
  have extended : extendedSize bordered (.floored 20 20) (.floored 20 20) = .floored 40 30 := by
    decide +kernel
  have growth := (@growthRecorded_bounded_iff Unit .blank _ .default (.floored 20 20) multipliers
    (by decide +kernel : checkOutputDimensions bordered .default = .ok ())
    ⟨.floored 20 20, .rgb8, ()⟩).mpr (by
      refine ⟨fun _ padding named => ?_, fun exceeds => absurd (sizes ▸ within) exceeds⟩
      obtain rfl := Option.some.inj named
      rw [Raster.shape_size, extended]
      exact ⟨⟨by decide, by decide⟩, by decide, by decide⟩)
  rw [sizes] at growth
  exact growth

/-- `pd:4294967295`, on all four sides. -/
def widestPadding : ResizeQuery :=
  { ResizeQuery.default with
    padding := some ⟨4294967295, 4294967295, 4294967295, 4294967295⟩ }

/-- The canvas of an accepted request panics before the check of its size. -/
theorem widestPadding_panics :
    checkOutputDimensions widestPadding .default = .ok () ∧
      growthStage .blank widestPadding .default (.floored 40 30)
        (⟨.floored 40 30, .rgb8, ()⟩ : Raster Unit) = Outcome.panic ∧
      ¬ GrowthBounded .default (paddedSize widestPadding (.floored 40 30) (.floored 40 30))
        (growthRecorded .blank widestPadding .default (.floored 40 30)
          (⟨.floored 40 30, .rgb8, ()⟩ : Raster Unit)) := by
  have panics : growthStage .blank widestPadding .default (.floored 40 30)
      (⟨.floored 40 30, .rgb8, ()⟩ : Raster Unit) = Outcome.panic := by rfl
  refine ⟨by decide +kernel, panics, fun growth => ?_⟩
  obtain ⟨failure, fails⟩ := growth.rejected (by
    unfold WithinMaximum
    decide +kernel)
  rw [growthRecorded_result, panics] at fails
  cases fails

/-- A frame of a hundred thousand pixels on the left. -/
def widePadding : ResizeQuery :=
  { ResizeQuery.default with padding := some ⟨0, 0, 0, 100000⟩ }

/-- The padded canvas of an accepted request is built far past the maximum, and rejected only
then. -/
theorem widePadding_built :
    checkOutputDimensions widePadding .default = .ok () ∧
      (growthRecorded .blank widePadding .default (.floored 40 30)
        (⟨.floored 40 30, .rgb8, ()⟩ : Raster Unit)).events =
          [⟨.floored 40 30, .floored 100040 30, 100000, 0⟩] ∧
      ∃ failure, growthStage .blank widePadding .default (.floored 40 30)
        (⟨.floored 40 30, .rgb8, ()⟩ : Raster Unit) = .fail failure :=
  ⟨by decide +kernel, by rfl, _, rfl⟩

end Bounded

end ImageResizer
