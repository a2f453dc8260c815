import ImageResizer.Pipeline

/-!
# Panics of the geometry stages

The stages build pixel buffers whose bytes must be an `isize`, and add and subtract pixel
counts.  For each stage this module says exactly on which shapes it panics, and which shape it
ends with: the additions and subtractions of trim and extend never leave their range, and what
remains is a bound on each canvas built.
-/

namespace ImageResizer

open Outcome (Returns EndsWhen)

variable {Content : Type} (lib : Imaging Content)

section Buffers

/-- What the stages compute with of a raster. -/
structure Shape where
  size : Size
  color : ColorType
  deriving DecidableEq

namespace Shape

def hasAlpha (shape : Shape) : Bool := shape.color.hasAlpha

/-- The colour type of the canvas a raster is embedded on. -/
def layerColor (shape : Shape) : ColorType := if shape.hasAlpha then .rgba8 else .rgb8

end Shape

namespace Raster

def shape (image : Raster Content) : Shape := ⟨image.size, image.color⟩

@[simp]
theorem shape_size (image : Raster Content) : image.shape.size = image.size := rfl

@[simp]
theorem shape_color (image : Raster Content) : image.shape.color = image.color := rfl

/-- The raster a conversion makes. -/
def inColor (image : Raster Content) (color : ColorType) : Raster Content :=
  if image.color = color then image else { image with color, content := lib.convert color image }

theorem inColor_shape (image : Raster Content) (color : ColorType) :
    (image.inColor lib color).shape = ⟨image.size, color⟩ := by
  unfold inColor shape
  split
  case isTrue same => rw [same]
  case isFalse => rfl

end Raster

/-- The bytes of a canvas are an `isize`. -/
def CanvasFits (size : Size) (color : ColorType) : Prop :=
  size.width * size.height * color.channels * color.sampleBytes ≤ isizeMax

/-- A conversion is a clone or builds a buffer that fits. -/
def ConvertFits (shape : Shape) (color : ColorType) : Prop :=
  shape.color = color ∨ CanvasFits shape.size color

theorem newCanvas_endsWhen (size : Size) (color : ColorType) :
    EndsWhen (newCanvas size color) (CanvasFits size color) fun _ => True :=
  Outcome.endsWhen_assert _

theorem newCanvas_ok {size : Size} {color : ColorType} (fits : CanvasFits size color) :
    newCanvas size color = .ok () := Outcome.assert_ok fits

theorem toColor_endsWhen (image : Raster Content) (color : ColorType) :
    EndsWhen (image.toColor lib color) (ConvertFits image.shape color)
      (· = image.inColor lib color) := by
  unfold Raster.toColor Raster.inColor
  split
  case isTrue same => exact .congr (Outcome.endsWhen_pure rfl) (iff_of_true trivial (.inl same))
  case isFalse differs =>
      exact .congr (.bind_pure (newCanvas_endsWhen ..) fun _ _ => rfl) (or_iff_right differs).symm

/-- A conversion that does not panic has a value. -/
theorem toColor_ends {image : Raster Content} {color : ColorType}
    (fits : ConvertFits image.shape color) :
    image.toColor lib color = .ok (image.inColor lib color) := by
  obtain ⟨converted, ends, rfl⟩ := (toColor_endsWhen lib image color).ends fits
  exact ends

theorem toColor_ok {image converted : Raster Content} {color : ColorType}
    (ok : image.toColor lib color = .ok converted) :
    ConvertFits image.shape color ∧ converted = image.inColor lib color := by
  have fits : ConvertFits image.shape color := by
    rw [← (toColor_endsWhen lib image color).returns_iff, ok]
    exact Outcome.returns_ok converted
  rw [toColor_ends lib fits] at ok
  exact ⟨fits, (Except.ok.inj ok).symm⟩

theorem toColor_size {image converted : Raster Content} {color : ColorType}
    (ok : image.toColor lib color = .ok converted) : converted.size = image.size := by
  rw [(toColor_ok lib ok).2]
  exact congrArg Shape.size (image.inColor_shape lib color)

theorem toColor_self {image : Raster Content} {color : ColorType} (same : image.color = color) :
    image.toColor lib color = .ok image := if_pos same

theorem u32Add_ok {a b : Nat} (fits : a + b ≤ u32Max) : u32Add a b = .ok (a + b) := by
  simp [u32Add, Outcome.assert_ok fits, bind, Except.bind, pure, Except.pure]

theorem u32Sub_ok {a b : Nat} (fits : b ≤ a) : u32Sub a b = .ok (a - b) := by
  simp [u32Sub, Outcome.assert_ok fits, bind, Except.bind, pure, Except.pure]

/-- A larger canvas that fits leaves room for a smaller one. -/
theorem CanvasFits.anti {size smaller : Size} {color : ColorType} (fits : CanvasFits size color)
    (width : smaller.width ≤ size.width) (height : smaller.height ≤ size.height) :
    CanvasFits smaller color :=
  (Nat.mul_le_mul_right _ (Nat.mul_le_mul_right _ (Nat.mul_le_mul width height))).trans fits

/-- A canvas that fits in RGBA leaves room for any layer. -/
theorem CanvasFits.layer {size : Size} (fits : CanvasFits size .rgba8) (shape : Shape) :
    CanvasFits size shape.layerColor := by
  unfold Shape.layerColor
  split
  case isTrue => exact fits
  case isFalse =>
      have rgba : size.width * size.height * 4 * 1 ≤ isizeMax := fits
      change size.width * size.height * 3 * 1 ≤ isizeMax
      omega

end Buffers

section Trim

variable (image : Raster Content) (trim : TrimOptions)

theorem leadingLines_le (limit : Nat) (line : Nat → Bool) : leadingLines limit line ≤ limit :=
  calc leadingLines limit line ≤ (List.range limit).length :=
        (List.takeWhile_prefix line).length_le
    _ = limit := List.length_range

/-- Two cuts into one axis, made equal or not, never overlap. -/
theorem cuts_le (equal : Bool) {first second length : Nat} (firstLe : first ≤ length)
    (secondLe : second ≤ length - first) :
    (if equal then min first second else first) + (if equal then min first second else second) ≤
      length := by
  cases equal
  case false =>
      simp only [Bool.false_eq_true, if_false]
      omega
  case true =>
      simp only [if_true]
      omega

theorem trimEdges_vertical :
    (trimEdges lib image trim).top + (trimEdges lib image trim).bottom ≤ image.size.height :=
  cuts_le _ (leadingLines_le _ _) (leadingLines_le _ _)

theorem trimEdges_horizontal :
    (trimEdges lib image trim).left + (trimEdges lib image trim).right ≤ image.size.width :=
  cuts_le _ (leadingLines_le _ _) (leadingLines_le _ _)

/-- Cuts that do not overlap leave a rectangle without leaving the range of a `u32`. -/
theorem trimWindow_ok {size : Size} {edges : TrimEdges}
    (vertical : edges.top + edges.bottom ≤ size.height)
    (horizontal : edges.left + edges.right ≤ size.width) :
    trimWindow size edges = .ok
      (if size.height ≤ edges.top + edges.bottom ∨ size.width ≤ edges.left + edges.right then none
      else some (cropImm size edges.left edges.top (size.width - edges.left - edges.right)
        (size.height - edges.top - edges.bottom))) := by
  have heightFits := size.heightFits
  have widthFits := size.widthFits
  have left : edges.left ≤ size.width := by omega
  have right : edges.right ≤ size.width - edges.left := by omega
  have top : edges.top ≤ size.height := by omega
  have bottom : edges.bottom ≤ size.height - edges.top := by omega
  simp only [trimWindow, u32Add_ok (vertical.trans heightFits),
    u32Add_ok (horizontal.trans widthFits), u32Sub_ok left, u32Sub_ok right, u32Sub_ok top,
    u32Sub_ok bottom, bind, Except.bind]
  split <;> rfl

end Trim

/-- What is documented of the libraries: resampling to a size with pixels does not fail. -/
structure Imaging.Steady {Content : Type} (lib : Imaging Content) : Prop where
  resamples : ∀ alg image size, ∃ content, lib.resample alg image size = .ok content

theorem blank_steady : Imaging.blank.Steady where
  resamples _ _ _ := ⟨(), rfl⟩

section Resize

variable (query : ResizeQuery) (box : PartialBox) (source : Size) (image : Raster Content)

/-- The canvas a resize allocates, if it allocates one, fits. -/
def ScaledFits (step : Resize) (color : ColorType) : Prop :=
  ∀ target, step.scaled = some target → CanvasFits target color

theorem resample_endsWhen (steady : lib.Steady) (target : Size) (filter : FilterType) :
    EndsWhen (image.resample lib target filter) (CanvasFits target image.color)
      fun resampled => resampled.shape = ⟨target, image.color⟩ := by
  obtain ⟨content, made⟩ := steady.resamples (firResizeAlg filter) image target
  unfold Raster.resample
  rw [made]
  exact .bind_pure (newCanvas_endsWhen ..) fun _ _ => rfl

theorem resize_endsWhen (steady : lib.Steady) (step : Resize) (filter : FilterType) :
    EndsWhen (image.resize lib step filter) (ScaledFits step image.color)
      fun resized => resized.shape = ⟨step.result image.size, image.color⟩ := by
  have scaled : EndsWhen (step.scaled.elim (pure image) (image.resample lib · filter))
      (ScaledFits step image.color)
      fun scaled => scaled.shape = ⟨step.raster image.size, image.color⟩ := by
    unfold ScaledFits Resize.raster
    cases step.scaled with
    | none => exact .congr (Outcome.endsWhen_pure rfl) (by simp)
    | some target => exact .congr (resample_endsWhen lib image steady target filter) (by simp)
  refine scaled.bind_pure fun scaled shape => ?_
  unfold Resize.result
  cases step.window with
  | none => exact shape
  | some window => exact congrArg (Shape.mk window.size) (congrArg Shape.color shape)

theorem resample_returns_iff (target : Size) (filter : FilterType) :
    Returns (image.resample lib target filter) ↔ CanvasFits target image.color := by
  unfold Raster.resample
  refine Outcome.returns_bind_of_returns (newCanvas_endsWhen ..).returns_iff fun _ _ => ?_
  cases lib.resample (firResizeAlg filter) image target with
  | ok content => exact Outcome.returns_pure _
  | error cause => exact Outcome.returns_fail _

theorem resize_returns_iff (step : Resize) (filter : FilterType) :
    Returns (image.resize lib step filter) ↔ ScaledFits step image.color := by
  refine Outcome.returns_bind_of_returns ?_ fun _ _ => Outcome.returns_pure _
  cases scaled : step.scaled with
  | none => simp [ScaledFits, scaled]
  | some target => simp [ScaledFits, scaled, resample_returns_iff]

theorem resizeAndFilter_returns_iff (filter : FilterType) :
    Returns (resizeAndFilter lib query box filter source image) ↔
      ScaledFits (resizeStep query box source image.size) image.color :=
  Outcome.returns_bind_of_returns (resize_returns_iff ..) fun _ _ => Outcome.returns_pure _

end Resize

section Canvas

variable (image : Raster Content)

/-- A canvas at least as large as the raster on it only has to fit itself. -/
theorem embedOnBackground_endsWhen (size : Size) (offset : Nat × Nat) (background : Rgb)
    (width : image.size.width ≤ size.width) (height : image.size.height ≤ size.height) :
    EndsWhen (embedOnBackground lib image size offset background)
      (CanvasFits size image.shape.layerColor)
      fun embedded => embedded.shape = ⟨size, image.shape.layerColor⟩ := by
  refine .congr (.bind (newCanvas_endsWhen ..) fun _ _ =>
    .bind_pure (toColor_endsWhen ..) fun _ _ => rfl) (and_iff_left_of_imp fun fits => ?_)
  exact .inr (fits.anti width height)

theorem extendSize_le (size : Size) (targetW targetH : Nat) :
    size.width ≤ (extendSize size targetW targetH).width ∧
      size.height ≤ (extendSize size targetW targetH).height := by
  have width := size.widthFits
  have height := size.heightFits
  simp only [extendSize, Size.floored]
  omega

theorem paddingSize_le (size : Size) (padding : Padding) :
    size.width ≤ (paddingSize size padding).width ∧
      size.height ≤ (paddingSize size padding).height := by
  have width := size.widthFits
  have height := size.heightFits
  simp only [paddingSize, Size.floored]
  omega

end Canvas

end ImageResizer
