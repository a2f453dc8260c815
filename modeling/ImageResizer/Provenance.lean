import ImageResizer.CanvasGrowth

/-!
# Where pixels come from

Any imaging library can carry, beside its contents, what a raster shows: the point of the
source behind each of its points, and the part of it that shows the source at all.  Cropping,
scaling, turning and embedding move the points; nothing else does.  A run on the carrying
library is a run on the library itself.
-/

namespace ImageResizer

/-- A point of a raster, in pixels from its top left corner. -/
abbrev Point := ℚ × ℚ

/-- The points of a raster. -/
def Size.area (size : Size) : Set Point := Set.Icc 0 (size.width, size.height)

/-- What a raster shows. -/
@[ext]
structure Provenance where
  /-- The point of the source behind a point, the map continued beyond the raster. -/
  source : Point → Point
  /-- The points that show the source and no background. -/
  drawn : Set Point

namespace Provenance

/-- All of a source. -/
def whole (size : Size) : Provenance := ⟨id, size.area⟩

/-- The points of a raster taken from those of another. -/
def through (provenance : Provenance) (from_ : Point → Point) : Provenance where
  source := provenance.source ∘ from_
  drawn := Set.preimage from_ provenance.drawn

def within (provenance : Provenance) (size : Size) : Provenance :=
  { provenance with drawn := provenance.drawn ∩ size.area }

end Provenance

/-- The point of a raster that a scaled raster shows at a point. -/
def Size.scaleBack (size target : Size) (point : Point) : Point :=
  (point.1 * size.width / target.width, point.2 * size.height / target.height)

/-- The point of a raster that an orientation shows at a point. -/
def Orientation.pointOrigin (size : Size) (point : Point) : Orientation → Point
  | .noTransforms => point
  | .rotate90 => (point.2, size.height - point.1)
  | .rotate180 => (size.width - point.1, size.height - point.2)
  | .rotate270 => (size.width - point.2, point.1)
  | .flipHorizontal => (size.width - point.1, point.2)
  | .flipVertical => (point.1, size.height - point.2)
  | .rotate90FlipH => (point.2, point.1)
  | .rotate270FlipH => (size.width - point.2, size.height - point.1)

namespace Raster

variable {Content : Type}

/-- The raster without what it shows. -/
def plain (image : Raster (Content × Provenance)) : Raster Content :=
  { image with content := image.content.1 }

def provenance (image : Raster (Content × Provenance)) : Provenance := image.content.2

/-- A raster that shows all of itself. -/
def asSource (image : Raster Content) : Raster (Content × Provenance) :=
  { image with content := (image.content, .whole image.size) }

end Raster

/-- A library that carries what its rasters show. -/
def Imaging.traced {Content : Type} (lib : Imaging Content) : Imaging (Content × Provenance) where
  rgba8At image x y := lib.rgba8At image.plain x y
  convert color image := (lib.convert color image.plain, image.provenance)
  mapRgba8 rewrite image := (lib.mapRgba8 rewrite image.plain, image.provenance)
  crop image window := (lib.crop image.plain window,
    (image.provenance.through fun point => (point.1 + window.x, point.2 + window.y)).within
      window.size)
  resample alg image target :=
    (lib.resample alg image.plain target).map fun content =>
      (content, image.provenance.through (image.size.scaleBack target))
  turn orientation image := (lib.turn orientation image.plain,
    image.provenance.through fun point => orientation.pointOrigin image.size point)
  grayColor := lib.grayColor
  grayscale image := (lib.grayscale image.plain, image.provenance)
  blur sigma image := (lib.blur sigma image.plain, image.provenance)
  embed background size offset layer := (lib.embed background size offset layer.plain,
    layer.provenance.through fun point => (point.1 - offset.1, point.2 - offset.2))
  gather size source image := (lib.gather size source image.plain,
    { source := fun point =>
        match source ⌊point.1⌋₊ ⌊point.2⌋₊ with
        | some (column, row) => image.provenance.source (column, row)
        | none => point
      drawn := fun point => ∃ column row, source ⌊point.1⌋₊ ⌊point.2⌋₊ = some (column, row) ∧
        ((column, row) : Point) ∈ image.provenance.drawn })
  draw paint canvas overlay position :=
    (lib.draw paint canvas.plain overlay.plain position, canvas.provenance)
  flattenChannel := lib.flattenChannel
  sourceOver := lib.sourceOver
  sinCos := lib.sinCos

/-! ## A carrying run is a run -/

/-- Sequences correspond when their parts do. -/
theorem map_bind_eq {m : Type → Type} [Monad m] [LawfulMonad m] {α β γ δ : Type} {f : α → β}
    {g : γ → δ} {first : m α} {first' : m β} {next : α → m γ} {next' : β → m δ}
    (same : f <$> first = first') (rest : ∀ a, g <$> next a = next' (f a)) :
    g <$> (first >>= next) = first' >>= next' := by
  rw [map_bind, ← same, bind_map_left]
  congr 1
  funext a
  exact rest a

section Erasure

variable {Content : Type} (lib : Imaging Content) (query : ResizeQuery)
variable (image : Raster (Content × Provenance))

theorem toColor_plain (color : ColorType) :
    Raster.plain <$> image.toColor lib.traced color = image.plain.toColor lib color := by
  have colors : image.plain.color = image.color := rfl
  rw [Raster.toColor, Raster.toColor, colors]
  split
  case isTrue => rfl
  case isFalse => exact map_bind ..

theorem turn_plain (orientation : Orientation) :
    (image.turn lib.traced orientation).plain = image.plain.turn lib orientation := by
  rw [Raster.turn, Raster.turn]
  split <;> rfl

theorem resample_plain (target : Size) (filter : FilterType) :
    Raster.plain <$> image.resample lib.traced target filter =
      image.plain.resample lib target filter := by
  rw [Raster.resample, Raster.resample, map_bind]
  congr 1
  funext _
  simp only [Imaging.traced]
  cases lib.resample (firResizeAlg filter) image.plain target with
  | ok content => rfl
  | error cause => rfl

theorem resize_plain (step : Resize) (filter : FilterType) :
    Raster.plain <$> image.resize lib.traced step filter = image.plain.resize lib step filter := by
  have scaled : Raster.plain <$> step.scaled.elim (pure image)
      (image.resample lib.traced · filter) =
        step.scaled.elim (pure image.plain) (image.plain.resample lib · filter) := by
    cases step.scaled with
    | none => rfl
    | some target => exact resample_plain ..
  apply map_bind_eq scaled
  intro scaled
  cases step.window with
  | none => rfl
  | some window => rfl

theorem applyFlip_plain :
    (applyFlip lib.traced query image).plain = applyFlip lib query image.plain := by
  simp only [applyFlip]
  split <;> split <;> simp only [turn_plain]

theorem applyFilters_plain :
    (applyFilters lib.traced query image).plain = applyFilters lib query image.plain := by
  have gray : (if query.grayscale = some true then image.grayscale lib.traced else image).plain =
      if query.grayscale = some true then image.plain.grayscale lib else image.plain := by
    split <;> rfl
  simp only [applyFilters, ← gray]
  cases query.blurSigma with
  | none => rfl
  | some sigma =>
      simp only
      split <;> rfl

theorem resizeAndFilter_plain (box : PartialBox) (filter : FilterType) (source : Size) :
    Raster.plain <$> resizeAndFilter lib.traced query box filter source image =
      resizeAndFilter lib query box filter source image.plain := by
  apply map_bind_eq (resize_plain ..)
  intro resized
  rw [map_pure, applyFilters_plain, applyFlip_plain, applyRotate, turn_plain]
  rfl

theorem embedOnBackground_plain (size : Size) (offset : Nat × Nat) (background : Rgb) :
    Raster.plain <$> embedOnBackground lib.traced image size offset background =
      embedOnBackground lib image.plain size offset background := by
  rw [embedOnBackground, map_bind]
  congr 1
  funext _
  exact map_bind_eq (toColor_plain ..) fun _ => rfl

theorem extendStage_plain (target : Option (Nat × Nat)) :
    Raster.plain <$> extendStage lib.traced query target image =
      extendStage lib query target image.plain := by
  have sizes : image.plain.size = image.size := rfl
  rw [extendStage_eq_embed, extendStage_eq_embed, sizes]
  cases extendCanvas query target image.size with
  | none => rfl
  | some canvas => exact embedOnBackground_plain ..

theorem paddingStage_plain :
    Raster.plain <$> paddingStage lib.traced query image =
      paddingStage lib query image.plain := by
  rw [paddingStage, paddingStage]
  cases query.padding with
  | none => rfl
  | some padding => exact embedOnBackground_plain ..

/-- The geometry of a still image, with what it shows and without. -/
theorem transformSingle_plain (config : PerformanceConfig) (source : Size) :
    Raster.plain <$> transformSingle lib.traced query config source image =
      transformSingle lib query config source image.plain := by
  apply map_bind_eq (resizeAndFilter_plain ..)
  intro resized
  apply map_bind_eq (extendStage_plain ..)
  intro extended
  apply map_bind_eq (paddingStage_plain ..)
  intro padded
  exact map_bind ..

theorem trimStage_plain :
    Raster.plain <$> trimStage lib.traced query image = trimStage lib query image.plain := by
  rw [trimStage, trimStage]
  cases query.trim with
  | none => rfl
  | some trim =>
      apply map_bind_eq (toColor_plain ..)
      intro rgba
      rw [map_bind]
      apply bind_congr
      intro window
      cases window with
      | none => rfl
      | some window => rfl

theorem prepareStill_plain (decoded : DecodedImage (Content × Provenance)) :
    Raster.plain <$> prepareStill lib.traced query decoded =
      prepareStill lib query ⟨decoded.image.plain, decoded.orientation, decoded.iccProfile,
        decoded.exifMetadata⟩ := by
  have turned : (autorotate lib.traced query decoded).plain =
      if query.autorotate then decoded.image.plain.turn lib decoded.orientation
      else decoded.image.plain := by
    rw [autorotate]
    split
    · exact turn_plain ..
    · rfl
  apply map_bind_eq (f := Raster.plain)
  · rw [trimStage_plain, turned]
    rfl
  · intro trimmed
    rw [map_pure, cropStage, cropStage]
    cases query.crop with
    | none => rfl
    | some crop => rfl

theorem animateFrame_plain (source : Size) (frame : Frame (Content × Provenance)) :
    (fun output => Frame.mk output.image.plain output.delay) <$>
        animateFrame lib.traced query source frame =
      animateFrame lib query source ⟨frame.image.plain, frame.delay⟩ := by
  apply map_bind_eq (resizeAndFilter_plain ..)
  intro resized
  exact map_bind_eq (toColor_plain ..) fun _ => rfl

end Erasure

end ImageResizer
