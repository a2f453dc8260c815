import ImageResizer.Provenance
import ImageResizer.Sizing.Anchoring

/-!
# Where a picture lies

What a raster shows after the stages of the pipeline has one form: a scaled part of the
source, turned, on a canvas.  Two rasters show the same exactly when the parts, the sizes and
the places on the canvas are the same.
-/

namespace ImageResizer

open Outcome (After)

/-- A scaled part of a source: the point at the corner of the raster, and how much of the
source a pixel spans. -/
@[ext]
structure Placement where
  left : ℚ
  top : ℚ
  across : ℚ
  down : ℚ
  deriving DecidableEq

namespace Placement

variable (placement : Placement)

/-- The whole source as it is. -/
def unscaled : Placement := ⟨0, 0, 1, 1⟩

def map (point : Point) : Point :=
  (placement.left + point.1 * placement.across, placement.top + point.2 * placement.down)

def crop (window : Window) : Placement where
  left := placement.left + window.x * placement.across
  top := placement.top + window.y * placement.down
  across := placement.across
  down := placement.down

def resample (size target : Size) : Placement where
  left := placement.left
  top := placement.top
  across := size.width / target.width * placement.across
  down := size.height / target.height * placement.down

theorem map_injective : Function.Injective map := by
  intro first second same
  have corner := congrFun same (0, 0)
  have far := congrFun same (1, 1)
  simp only [map, zero_mul, add_zero, one_mul, Prod.mk.injEq] at corner far
  rw [corner.1, corner.2, add_right_inj, add_right_inj] at far
  exact Placement.ext corner.1 corner.2 far.1 far.2

end Placement

/-- The part of the source that is left after a resize. -/
def Resize.placement (step : Resize) (size : Size) (placement : Placement) : Placement :=
  let scaled := step.scaled.elim placement (placement.resample size)
  step.window.elim scaled scaled.crop

/-- A window that lies in a raster. -/
def Window.Inside (window : Window) (size : Size) : Prop :=
  window.x + window.size.width ≤ size.width ∧ window.y + window.size.height ≤ size.height

section Shows

variable {Content : Type} {lib : Imaging Content} {image : Raster (Content × Provenance)}
variable {placement : Placement}

/-- Every point of a raster shows the part of the source. -/
def Raster.Shows (image : Raster (Content × Provenance)) (placement : Placement) : Prop :=
  image.provenance = ⟨placement.map, image.size.area⟩

theorem shows_asSource (image : Raster Content) : image.asSource.Shows .unscaled := by
  have all : (Placement.unscaled).map = id := by
    funext point
    simp [Placement.map, Placement.unscaled]
  rw [Raster.Shows, all]
  rfl

theorem mem_area {size : Size} {point : Point} :
    point ∈ size.area ↔
      (0 ≤ point.1 ∧ 0 ≤ point.2) ∧ point.1 ≤ size.width ∧ point.2 ≤ size.height := Iff.rfl

theorem Raster.Shows.crop (shows_ : image.Shows placement) {window : Window}
    (inside : window.Inside image.size) :
    (image.crop lib.traced window).Shows (placement.crop window) := by
  have widthInside : (window.x + window.size.width : ℚ) ≤ image.size.width := by
    exact_mod_cast inside.1
  have heightInside : (window.y + window.size.height : ℚ) ≤ image.size.height := by
    exact_mod_cast inside.2
  change (image.provenance.through _).within window.size = _
  rw [shows_]
  apply Provenance.ext
  · funext point
    simp only [Provenance.through, Provenance.within, Placement.map, Placement.crop,
      Function.comp_apply, Prod.mk.injEq]
    constructor <;> ring
  · apply Set.inter_eq_right.mpr
    intro point member
    rw [mem_area] at member
    have columns : (0 : ℚ) ≤ window.x := Nat.cast_nonneg _
    have rows : (0 : ℚ) ≤ window.y := Nat.cast_nonneg _
    change (point.1 + window.x, point.2 + window.y) ∈ image.size.area
    rw [mem_area]
    constructor
    · constructor <;> linarith
    · constructor <;> linarith

theorem scaleBack_mem_area {size target : Size} {point : Point} :
    size.scaleBack target point ∈ size.area ↔ point ∈ target.area := by
  have ratio {length bound : Nat} {position : ℚ} (positive : 0 < length) (sized : 0 < bound) :
      (0 ≤ position * length / bound ↔ 0 ≤ position) ∧
        (position * length / bound ≤ length ↔ position ≤ bound) := by
    have lengthPos : (0 : ℚ) < length := by exact_mod_cast positive
    have boundPos : (0 : ℚ) < bound := by exact_mod_cast sized
    constructor
    · rw [le_div_iff₀ boundPos, zero_mul, mul_nonneg_iff_of_pos_right lengthPos]
    · rw [div_le_iff₀ boundPos, mul_comm, mul_le_mul_iff_right₀ lengthPos]
  simp only [mem_area, Size.scaleBack]
  rw [(ratio size.widthPos target.widthPos).1, (ratio size.heightPos target.heightPos).1,
    (ratio size.widthPos target.widthPos).2, (ratio size.heightPos target.heightPos).2]

theorem Raster.Shows.resample (shows_ : image.Shows placement) (target : Size)
    (filter : FilterType) :
    After (image.resample lib.traced target filter) fun resampled =>
      resampled.size = target ∧ resampled.Shows (placement.resample image.size target) := by
  intro resampled ended
  rw [Raster.resample] at ended
  obtain ⟨_, -, ended⟩ := (Outcome.bind_ok_iff ..).mp ended
  simp only [Imaging.traced] at ended
  cases made : lib.resample (firResizeAlg filter) image.plain target with
  | error cause =>
      rw [made] at ended
      cases ended
  | ok content =>
      rw [made] at ended
      cases ended
      refine ⟨rfl, ?_⟩
      change image.provenance.through _ = _
      rw [shows_]
      apply Provenance.ext
      · funext point
        simp only [Provenance.through, Placement.map, Placement.resample, Size.scaleBack,
          Function.comp_apply, Prod.mk.injEq]
        constructor <;> ring
      · ext point
        exact scaleBack_mem_area

theorem Raster.Shows.resize (shows_ : image.Shows placement) {step : Resize}
    (inside : ∀ window, step.window = some window → window.Inside (step.raster image.size))
    (filter : FilterType) :
    After (image.resize lib.traced step filter) fun resized =>
      resized.size = step.result image.size ∧
        resized.Shows (step.placement image.size placement) := by
  intro resized ended
  rw [Raster.resize] at ended
  obtain ⟨scaled, resamples, ended⟩ := (Outcome.bind_ok_iff ..).mp ended
  cases ended
  have scaledShows : scaled.size = step.raster image.size ∧
      scaled.Shows (step.scaled.elim placement (placement.resample image.size)) := by
    rw [Resize.raster]
    cases target : step.scaled with
    | none =>
        rw [target] at resamples
        cases resamples
        exact ⟨rfl, shows_⟩
    | some target_ =>
        rw [target] at resamples
        exact shows_.resample target_ filter scaled resamples
  rw [Resize.result, Resize.placement]
  cases kept : step.window with
  | none => exact scaledShows
  | some window =>
      exact ⟨rfl, scaledShows.2.crop (scaledShows.1 ▸ inside window kept)⟩

end Shows

section Turns

variable {Content : Type} (lib : Imaging Content) (query : ResizeQuery)

theorem pointOrigin_surjective (orientation : Orientation) (size : Size) :
    Function.Surjective fun point => orientation.pointOrigin size point := by
  rintro ⟨column, row⟩
  cases orientation with
  | noTransforms => exact ⟨(column, row), rfl⟩
  | rotate90 => exact ⟨(size.height - row, column), by simp [Orientation.pointOrigin]⟩
  | rotate180 =>
      exact ⟨(size.width - column, size.height - row), by simp [Orientation.pointOrigin]⟩
  | rotate270 => exact ⟨(row, size.width - column), by simp [Orientation.pointOrigin]⟩
  | flipHorizontal => exact ⟨(size.width - column, row), by simp [Orientation.pointOrigin]⟩
  | flipVertical => exact ⟨(column, size.height - row), by simp [Orientation.pointOrigin]⟩
  | rotate90FlipH => exact ⟨(row, column), rfl⟩
  | rotate270FlipH =>
      exact ⟨(size.height - row, size.width - column), by simp [Orientation.pointOrigin]⟩

/-- Turning a raster moves its points onto those of the turned one. -/
theorem pointOrigin_mem_area (orientation : Orientation) (size : Size) (point : Point) :
    orientation.pointOrigin size point ∈ size.area ↔
      point ∈ (size.swapIf orientation.swapsAxes).area := by
  cases orientation <;>
    simp only [Orientation.pointOrigin, Orientation.swapsAxes, Size.swapIf, Size.swap, mem_area,
      if_true, Bool.false_eq_true, if_false, sub_nonneg, sub_le_self_iff] <;>
    tauto

theorem turn_provenance (orientation : Orientation) (image : Raster (Content × Provenance)) :
    (image.turn lib.traced orientation).provenance =
      image.provenance.through fun point => orientation.pointOrigin image.size point := by
  rw [Raster.turn]
  split
  case isTrue none_ =>
      rw [none_]
      rfl
  case isFalse => rfl

/-- The size a resized image has after it was turned. -/
def sizeAfterTurn (size : Size) : Size := size.swapIf (rotateTurn query.rotate).swapsAxes

/-- The point of an image behind a point of the image turned when asked. -/
def Orientation.backWhen (asked : Bool) (orientation : Orientation) (size : Size)
    (point : Point) : Point :=
  if asked then orientation.pointOrigin size point else point

/-- The point of a resized image behind a point of the turned one. -/
def turnBack (size : Size) (point : Point) : Point :=
  (rotateTurn query.rotate).pointOrigin size
    (Orientation.flipHorizontal.backWhen query.flipHorizontal (sizeAfterTurn query size)
      (Orientation.flipVertical.backWhen query.flipVertical (sizeAfterTurn query size) point))

theorem backWhen_surjective (asked : Bool) (orientation : Orientation) (size : Size) :
    Function.Surjective (orientation.backWhen asked size) := by
  cases asked with
  | false => exact Function.surjective_id
  | true => exact pointOrigin_surjective orientation size

theorem backWhen_mem_area (asked : Bool) {orientation : Orientation}
    (keeps : orientation.swapsAxes = false) (size : Size) (point : Point) :
    orientation.backWhen asked size point ∈ size.area ↔ point ∈ size.area := by
  cases asked with
  | false => rfl
  | true =>
      have turned := pointOrigin_mem_area orientation size point
      rwa [keeps] at turned

theorem turnBack_surjective (size : Size) : Function.Surjective (turnBack query size) :=
  (pointOrigin_surjective _ size).comp
    ((backWhen_surjective _ _ _).comp (backWhen_surjective _ _ _))

theorem turnBack_mem_area (size : Size) (point : Point) :
    turnBack query size point ∈ size.area ↔ point ∈ (sizeAfterTurn query size).area := by
  rw [turnBack, pointOrigin_mem_area]
  exact (backWhen_mem_area _ rfl _ _).trans (backWhen_mem_area _ rfl _ _)

theorem turnWhen_provenance (asked : Bool) (orientation : Orientation)
    (image : Raster (Content × Provenance)) :
    (if asked then image.turn lib.traced orientation else image).provenance =
      image.provenance.through (orientation.backWhen asked image.size) := by
  cases asked with
  | false => rfl
  | true => exact turn_provenance ..

theorem flip_provenance (image : Raster (Content × Provenance)) :
    (applyFlip lib.traced query image).provenance = image.provenance.through fun point =>
      Orientation.flipHorizontal.backWhen query.flipHorizontal image.size
        (Orientation.flipVertical.backWhen query.flipVertical image.size point) := by
  have sizes : (if query.flipHorizontal then image.turn lib.traced .flipHorizontal
      else image).size = image.size := by
    split <;> rfl
  refine (turnWhen_provenance lib query.flipVertical .flipVertical _).trans ?_
  rw [turnWhen_provenance, sizes]
  rfl

theorem applyFilters_provenance (image : Raster (Content × Provenance)) :
    (applyFilters lib.traced query image).provenance = image.provenance := by
  have gray : (if query.grayscale = some true then image.grayscale lib.traced
      else image).provenance = image.provenance := by
    split <;> rfl
  rw [applyFilters]
  cases query.blurSigma with
  | none => exact gray
  | some sigma =>
      simp only
      split
      case isTrue => exact gray
      case isFalse => exact gray

/-- What an image shows after rotation, flips and filters. -/
theorem oriented_provenance (image : Raster (Content × Provenance)) :
    (applyFilters lib.traced query
        (applyFlip lib.traced query (applyRotate lib.traced query image))).provenance =
      image.provenance.through (turnBack query image.size) := by
  rw [applyFilters_provenance, flip_provenance, applyRotate, turn_provenance, turn_size]
  rfl

end Turns

section Canvases

variable {Content : Type} (lib : Imaging Content) (query : ResizeQuery)

/-- Where an image lies on its canvas, if it has one. -/
def corner (canvas : Option Canvas) : Nat × Nat :=
  canvas.elim (0, 0) fun canvas => (canvas.x, canvas.y)

/-- The point of an image behind a point of its canvas. -/
def cornerBack (corner : Nat × Nat) (point : Point) : Point :=
  (point.1 - corner.1, point.2 - corner.2)

theorem toColor_provenance (image : Raster (Content × Provenance)) (color : ColorType) :
    After (image.toColor lib.traced color) fun converted =>
      converted.size = image.size ∧ converted.provenance = image.provenance := by
  intro converted ended
  rw [Raster.toColor] at ended
  split at ended
  case isTrue =>
      cases ended
      exact ⟨rfl, rfl⟩
  case isFalse =>
      obtain ⟨_, -, ended⟩ := (Outcome.bind_ok_iff ..).mp ended
      cases ended
      exact ⟨rfl, rfl⟩

theorem embed_provenance (image : Raster (Content × Provenance)) (canvas : Option Canvas) :
    After (embed lib.traced query image canvas) fun result =>
      result.provenance = image.provenance.through (cornerBack (corner canvas)) := by
  intro result ended
  cases canvas with
  | none =>
      cases ended
      have none_ : cornerBack (0, 0) = id := by
        funext point
        simp [cornerBack]
      change _ = image.provenance.through (cornerBack (0, 0))
      rw [none_]
      rfl
  | some canvas =>
      obtain ⟨_, -, filled⟩ := (Outcome.bind_ok_iff ..).mp ended
      obtain ⟨layer, converted, embedded⟩ := (Outcome.bind_ok_iff ..).mp filled
      cases embedded
      change layer.provenance.through _ = _
      rw [(toColor_provenance lib image _ layer converted).2]
      rfl

/-- Where a resized image lies once it is extended and padded. -/
def growthCorner (source image : Size) : Nat × Nat :=
  let extended := corner (extendCanvas query (effectiveResizeBox query source).extendBox image)
  let padded := corner (paddingCanvas query (extendedSize query source image))
  (extended.1 + padded.1, extended.2 + padded.2)

theorem growthStage_provenance (config : PerformanceConfig) (source : Size)
    (resized : Raster (Content × Provenance)) :
    After (growthStage lib.traced query config source resized) fun result =>
      result.provenance =
        resized.provenance.through (cornerBack (growthCorner query source resized.size)) := by
  intro result ended
  rw [growthStage_eq] at ended
  obtain ⟨extended, extends_, rest⟩ := (Outcome.bind_ok_iff ..).mp ended
  obtain ⟨padded, pads, checked⟩ := (Outcome.bind_ok_iff ..).mp rest
  obtain ⟨_, -, same⟩ := (Outcome.bind_ok_iff ..).mp checked
  cases same
  have extendedSize_ := embed_size lib.traced query _ _ extended extends_
  rw [embed_provenance lib query _ _ result pads, embed_provenance lib query _ _ extended extends_,
    extendedSize_]
  have both (first second : Nat × Nat) : cornerBack first ∘ cornerBack second =
      cornerBack (first.1 + second.1, first.2 + second.2) := by
    funext point
    simp only [cornerBack, Function.comp_apply, Nat.cast_add, Prod.mk.injEq]
    constructor <;> ring
  rw [growthCorner, ← both]
  rfl

end Canvases

/-! ## The form of a finished image -/

section Form

variable (query : ResizeQuery)

/-- What an image shows that was placed, turned and put on a canvas. -/
def lying (placement : Placement) (size : Size) (corner : Nat × Nat) : Provenance where
  source point := placement.map (turnBack query size (cornerBack corner point))
  drawn := {point | cornerBack corner point ∈ (sizeAfterTurn query size).area}

theorem sizeAfterTurn_injective : Function.Injective (sizeAfterTurn query) := by
  intro first second same
  rw [sizeAfterTurn, sizeAfterTurn, Size.swapIf, Size.swapIf] at same
  split at same
  case isTrue =>
      have axes := congrArg Size.swap same
      exact axes
  case isFalse => exact same

theorem lying_drawn (placement : Placement) (size : Size) (corner : Nat × Nat) :
    (lying query placement size corner).drawn =
      Set.Icc ((corner.1 : ℚ), (corner.2 : ℚ))
        ((corner.1 : ℚ) + (sizeAfterTurn query size).width,
          (corner.2 : ℚ) + (sizeAfterTurn query size).height) := by
  ext point
  simp only [lying, Set.mem_ofPred_eq, cornerBack, mem_area, Set.mem_Icc, Prod.le_def, sub_nonneg,
    sub_le_iff_le_add']

/-- Rectangles with corners at pixels are told apart by their points. -/
theorem rectangle_injective {corner corner' : Nat × Nat} {size size' : Size}
    (same : Set.Icc ((corner.1 : ℚ), (corner.2 : ℚ))
        ((corner.1 : ℚ) + size.width, (corner.2 : ℚ) + size.height) =
      Set.Icc ((corner'.1 : ℚ), (corner'.2 : ℚ))
        ((corner'.1 : ℚ) + size'.width, (corner'.2 : ℚ) + size'.height)) :
    corner = corner' ∧ size = size' := by
  have inside (corner : Nat × Nat) (size : Size) : ((corner.1 : ℚ), (corner.2 : ℚ)) ≤
      ((corner.1 : ℚ) + size.width, (corner.2 : ℚ) + size.height) :=
    ⟨le_add_of_nonneg_right (Nat.cast_nonneg _), le_add_of_nonneg_right (Nat.cast_nonneg _)⟩
  obtain ⟨low, high⟩ := (Set.Icc_subset_Icc_iff (inside corner size)).mp same.subset
  obtain ⟨low', high'⟩ := (Set.Icc_subset_Icc_iff (inside corner' size')).mp same.superset
  have corners := le_antisymm low' low
  have ends := le_antisymm high high'
  simp only [Prod.mk.injEq, Nat.cast_inj] at corners
  rw [corners.1, corners.2, Prod.mk.injEq, add_right_inj, add_right_inj, Nat.cast_inj,
    Nat.cast_inj] at ends
  exact ⟨Prod.ext corners.1 corners.2, Size.ext ends.1 ends.2⟩

/-- What lies where is told by what is shown. -/
theorem lying_injective {placement placement' : Placement} {size size' : Size}
    {corner corner' : Nat × Nat}
    (same : lying query placement size corner = lying query placement' size' corner') :
    placement = placement' ∧ size = size' ∧ corner = corner' := by
  have drawn := congrArg Provenance.drawn same
  rw [lying_drawn, lying_drawn] at drawn
  obtain ⟨rfl, turned⟩ := rectangle_injective drawn
  obtain rfl := sizeAfterTurn_injective query turned
  refine ⟨Placement.map_injective (funext fun point => ?_), rfl, rfl⟩
  obtain ⟨image, rfl⟩ := turnBack_surjective query size point
  have shown := congrFun (congrArg Provenance.source same) (image.1 + corner.1, image.2 + corner.2)
  simpa only [lying, cornerBack, add_sub_cancel_right] using shown

end Form

end ImageResizer
