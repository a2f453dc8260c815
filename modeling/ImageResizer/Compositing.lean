import ImageResizer.Foundation.FloatSaturation
import ImageResizer.Foundation.Folding
import ImageResizer.NoPanic.Watermark
import ImageResizer.PixelGrid
import ImageResizer.WatermarkLayer

/-!
# Compositing a watermark

The loops of `composite_over`, pixel by pixel, with their coordinates as `i64` sums.  They
draw the overlay clipped to the canvas; what can go wrong is a sum that leaves the range,
which an offset saturated to the end of the range brings about, and an opacity that is NaN.
-/

namespace ImageResizer

open Outcome (Returns)

section Loops

/-- `*canvas.get_pixel_mut(x, y) = pixel`. -/
def setPixel (grid : PixelGrid) (x y : Nat) (pixel : Rgba8) : PixelGrid :=
  Function.update grid x (Function.update (grid x) y pixel)

variable (canvas overlay : Raster PixelGrid) (position : Int × Int) (opacity : Opacity)

/-- The body of the inner loop of `composite_over`. -/
def compositeColumn (overlayY canvasY : Nat) (grid : PixelGrid) (overlayX : Nat) :
    Stage PixelGrid := do
  let canvasX ← i64Add position.1 overlayX
  if canvasX < 0 ∨ canvas.size.width ≤ canvasX then pure grid
  else
    let source := overlay.content overlayX overlayY
    pure (setPixel grid canvasX.toNat canvasY
      (sourceOver opacity source (grid canvasX.toNat canvasY)))

/-- The body of the outer loop. -/
def compositeRow (grid : PixelGrid) (overlayY : Nat) : Stage PixelGrid := do
  let canvasY ← i64Add position.2 overlayY
  if canvasY < 0 ∨ canvas.size.height ≤ canvasY then pure grid
  else
    (List.range overlay.size.width).foldlM
      (compositeColumn canvas overlay position opacity overlayY canvasY.toNat) grid

/-- `composite_over`, loop by loop. -/
def compositeLoops : Stage PixelGrid :=
  if opacity.value.nonpositive then pure canvas.content
  else
    (List.range overlay.size.height).foldlM (compositeRow canvas overlay position opacity)
      canvas.content

end Loops

section Exactness

variable {canvas overlay : Raster PixelGrid} {position : Int × Int} {opacity : Opacity}

/-- A position of the canvas on which one of the first `count` positions of the overlay falls. -/
def Covered (start : Int) (count limit position : Nat) : Prop :=
  position < limit ∧ start ≤ position ∧ (position : Int) < start + count

instance (start : Int) (count limit position : Nat) :
    Decidable (Covered start count limit position) :=
  inferInstanceAs (Decidable (_ ∧ _))

theorem covered_succ_iff (start : Int) (count limit position : Nat) :
    Covered start (count + 1) limit position ↔
      Covered start count limit position ∨ position < limit ∧ (position : Int) = start + count := by
  unfold Covered
  omega

theorem covered_succ_elsewhere {start : Int} {count limit position : Nat}
    (elsewhere : position < limit → (position : Int) ≠ start + count) :
    Covered start (count + 1) limit position ↔ Covered start count limit position := by
  rw [covered_succ_iff, or_iff_left]
  exact fun next => elsewhere next.1 next.2

theorem not_covered_at (start : Int) (count limit position : Nat)
    (next : (position : Int) = start + count) : ¬ Covered start count limit position := by
  unfold Covered
  omega

@[simp]
theorem setPixel_apply (grid : PixelGrid) (x y column row : Nat) (pixel : Rgba8) :
    setPixel grid x y pixel column row =
      if column = x ∧ row = y then pixel else grid column row := by
  unfold setPixel
  by_cases sameColumn : column = x
  · subst sameColumn
    by_cases sameRow : row = y
    · subst sameRow
      simp
    · simp [sameRow]
  · simp [sameColumn]

/-- The columns of one row drawn so far. -/
def drawColumns (opacity : Opacity) (canvas overlay : Raster PixelGrid) (position : Int × Int)
    (overlayY canvasY : Nat) (grid : PixelGrid) (count : Nat) : PixelGrid := fun x y =>
  if y = canvasY ∧ Covered position.1 count canvas.size.width x then
    sourceOver opacity (overlay.content (x - position.1).toNat overlayY) (grid x y)
  else grid x y

theorem drawColumns_zero (overlayY canvasY : Nat) (grid : PixelGrid) :
    drawColumns opacity canvas overlay position overlayY canvasY grid 0 = grid := by
  funext x y
  apply if_neg
  unfold Covered
  omega

/-- One column further, on the canvas or past its edge. -/
theorem compositeColumn_ok (overlayY canvasY : Nat) (grid : PixelGrid) {column : Nat}
    (fits : CoordinateFits (position.1 + column)) :
    compositeColumn canvas overlay position opacity overlayY canvasY
        (drawColumns opacity canvas overlay position overlayY canvasY grid column) column =
      .ok (drawColumns opacity canvas overlay position overlayY canvasY grid (column + 1)) := by
  rw [compositeColumn, i64Add_ok fits]
  change ite _ _ _ = _
  by_cases clipped : position.1 + column < 0 ∨ (canvas.size.width : Int) ≤ position.1 + column
  · rw [if_pos clipped]
    apply congrArg Except.ok
    funext x y
    have same : Covered position.1 (column + 1) canvas.size.width x ↔
        Covered position.1 column canvas.size.width x :=
      covered_succ_elsewhere (by omega)
    simp only [drawColumns, same]
  · rw [if_neg clipped]
    obtain ⟨canvasX, isX⟩ := Int.eq_ofNat_of_zero_le (not_lt.mp (not_or.mp clipped).1)
    apply congrArg Except.ok
    funext x y
    have fresh := not_covered_at position.1 column canvas.size.width canvasX isX.symm
    have source : ((canvasX : Int) - position.1).toNat = column := by omega
    rw [isX, Int.toNat_natCast, setPixel_apply]
    by_cases here : x = canvasX ∧ y = canvasY
    · obtain ⟨rfl, rfl⟩ := here
      have reached : Covered position.1 (column + 1) canvas.size.width x :=
        (covered_succ_iff ..).mpr (Or.inr ⟨by omega, isX.symm⟩)
      simp only [drawColumns, fresh, reached, source, and_self, and_false, if_true, if_false]
    · rw [if_neg here]
      have same : y = canvasY ∧ Covered position.1 (column + 1) canvas.size.width x ↔
          y = canvasY ∧ Covered position.1 column canvas.size.width x := by
        apply and_congr_right
        intro isRow
        apply covered_succ_elsewhere
        omega
      simp only [drawColumns, same]

theorem compositeColumns_ok (overlayY canvasY : Nat) (grid : PixelGrid) {count : Nat}
    (fits : ∀ column < count, CoordinateFits (position.1 + column)) :
    (List.range count).foldlM
        (compositeColumn canvas overlay position opacity overlayY canvasY) grid =
      .ok (drawColumns opacity canvas overlay position overlayY canvasY grid count) := by
  have steps := Folding.follows fun column below =>
    @compositeColumn_ok canvas overlay position opacity overlayY canvasY grid column
      (fits column below)
  rwa [drawColumns_zero] at steps

/-- The rows drawn so far. -/
def drawRows (opacity : Opacity) (canvas overlay : Raster PixelGrid) (position : Int × Int)
    (count : Nat) : PixelGrid := fun x y =>
  if Covered position.1 overlay.size.width canvas.size.width x ∧
      Covered position.2 count canvas.size.height y then
    sourceOver opacity (overlay.content (x - position.1).toNat (y - position.2).toNat)
      (canvas.content x y)
  else canvas.content x y

theorem drawRows_zero : drawRows opacity canvas overlay position 0 = canvas.content := by
  funext x y
  apply if_neg
  unfold Covered
  omega

/-- One row further, on the canvas or past its edge. -/
theorem compositeRow_ok {row : Nat} (below : row < overlay.size.height)
    (fits : CoordinateFits (position.2 + row))
    (columns : rowsMeet canvas.size overlay.size position.2 →
      ∀ column < overlay.size.width, CoordinateFits (position.1 + column)) :
    compositeRow canvas overlay position opacity
        (drawRows opacity canvas overlay position row) row =
      .ok (drawRows opacity canvas overlay position (row + 1)) := by
  rw [compositeRow, i64Add_ok fits]
  change ite _ _ _ = _
  by_cases clipped : position.2 + row < 0 ∨ (canvas.size.height : Int) ≤ position.2 + row
  · rw [if_pos clipped]
    apply congrArg Except.ok
    funext x y
    have same : Covered position.2 (row + 1) canvas.size.height y ↔
        Covered position.2 row canvas.size.height y :=
      covered_succ_elsewhere (by omega)
    simp only [drawRows, same]
  · rw [if_neg clipped]
    have meet : rowsMeet canvas.size overlay.size position.2 := by
      unfold rowsMeet
      omega
    obtain ⟨canvasY, isY⟩ := Int.eq_ofNat_of_zero_le (not_lt.mp (not_or.mp clipped).1)
    rw [isY, Int.toNat_natCast, compositeColumns_ok row canvasY _ (columns meet)]
    apply congrArg Except.ok
    funext x y
    have fresh := not_covered_at position.2 row canvas.size.height canvasY isY.symm
    have source : ((canvasY : Int) - position.2).toNat = row := by omega
    by_cases here : y = canvasY
    · subst here
      have reached : Covered position.2 (row + 1) canvas.size.height y :=
        (covered_succ_iff ..).mpr (Or.inr ⟨by omega, isY.symm⟩)
      simp only [drawColumns, drawRows, fresh, reached, source, and_true, true_and, and_false,
        if_false]
    · have same : Covered position.2 (row + 1) canvas.size.height y ↔
          Covered position.2 row canvas.size.height y :=
        covered_succ_elsewhere (by omega)
      simp only [drawColumns, drawRows, here, same, false_and, if_false]

/-- All rows together are the overlay drawn over the canvas. -/
theorem drawRows_height :
    drawRows opacity canvas overlay position overlay.size.height =
      drawOver (sourceOver opacity) canvas overlay position := by
  funext x y
  unfold drawRows drawOver
  by_cases covered : Covered position.1 overlay.size.width canvas.size.width x ∧
      Covered position.2 overlay.size.height canvas.size.height y
  · have falls : overlayIndex canvas.size overlay.size position x y =
        some ((x - position.1).toNat, (y - position.2).toNat) := by
      apply if_pos
      obtain ⟨⟨column, left, right⟩, row, above, below⟩ := covered
      exact ⟨⟨column, row⟩, ⟨left, right⟩, above, below⟩
    rw [if_pos covered, falls]
  · have misses : overlayIndex canvas.size overlay.size position x y = none := by
      apply if_neg
      rintro ⟨⟨column, row⟩, ⟨left, right⟩, above, below⟩
      exact covered ⟨⟨column, left, right⟩, row, above, below⟩
    rw [if_neg covered, misses]

/-- With every sum in range the loops draw the overlay. -/
theorem compositeLoops_ok (visible : opacity.value.nonpositive = false)
    (xFits : CoordinateFits position.1) (yFits : CoordinateFits position.2)
    (fits : OverlayFits canvas.size overlay.size position) :
    compositeLoops canvas overlay position opacity =
      .ok (drawOver (sourceOver opacity) canvas overlay position) := by
  have steps := Folding.follows fun row below =>
    @compositeRow_ok canvas overlay position opacity row below
      (by unfold CoordinateFits at *; have bound := fits.1; omega)
      (fun meet column inside => by
        unfold CoordinateFits at *
        have bound := fits.2 meet
        omega)
  rw [drawRows_zero, drawRows_height] at steps
  rw [compositeLoops, visible]
  exact steps

/-- Loops that come to an end had every sum in range. -/
theorem overlayFits_of_compositeLoops {grid : PixelGrid}
    (visible : opacity.value.nonpositive = false)
    (ended : compositeLoops canvas overlay position opacity = .ok grid) :
    OverlayFits canvas.size overlay.size position := by
  rw [compositeLoops, visible] at ended
  have rows := Folding.accepted ended
  have sumFits {a b : Int} {rest : Int → Stage PixelGrid} {next : PixelGrid}
      (stepped : i64Add a b >>= rest = .ok next) : CoordinateFits (a + b) := by
    obtain ⟨sum, added, _⟩ := (Outcome.bind_ok_iff _ _ _).mp stepped
    exact (i64Add_returns_iff a b).mp (added ▸ Outcome.returns_ok sum)
  have tall := overlay.size.heightPos
  have wide := overlay.size.widthPos
  constructor
  · obtain ⟨before, after, stepped⟩ :=
      rows (overlay.size.height - 1) (List.mem_range.mpr (by omega))
    have bound := (sumFits stepped).2
    omega
  · intro meet
    -- The first row on the canvas computes every column.
    obtain ⟨row, below, above, onCanvas⟩ : ∃ row : Nat, row < overlay.size.height ∧
        0 ≤ position.2 + row ∧ position.2 + row < canvas.size.height := by
      refine ⟨(-position.2).toNat, ?_⟩
      have canvasTall := canvas.size.heightPos
      unfold rowsMeet at meet
      omega
    obtain ⟨before, after, stepped⟩ := rows row (List.mem_range.mpr below)
    rw [compositeRow, i64Add_ok (sumFits stepped)] at stepped
    change ite _ _ _ = _ at stepped
    rw [if_neg (by omega)] at stepped
    obtain ⟨drawn, further, columnStepped⟩ := Folding.accepted stepped
      (overlay.size.width - 1) (List.mem_range.mpr (by omega))
    have bound := (sumFits columnStepped).2
    omega

/-- The loops refine the composition of whole rasters. -/
theorem compositeLoops_ok_iff (xFits : CoordinateFits position.1)
    (yFits : CoordinateFits position.2) (grid : PixelGrid) :
    compositeLoops canvas overlay position opacity = .ok grid ↔
      ∃ result, compositeOver .pixels canvas overlay position opacity = .ok result ∧
        result.content = grid := by
  cases visible : opacity.value.nonpositive with
  | true =>
      rw [compositeLoops, compositeOver, visible]
      exact ⟨fun ended => ⟨canvas, rfl, Except.ok.inj ended⟩,
        fun ⟨result, ended, content⟩ => Except.ok.inj ended ▸ congrArg Except.ok content⟩
  | false =>
      constructor
      · intro ended
        have fits := overlayFits_of_compositeLoops visible ended
        rw [compositeLoops_ok visible xFits yFits fits] at ended
        refine ⟨{ canvas with content := drawOver (sourceOver opacity) canvas overlay position }, ?_,
          Except.ok.inj ended⟩
        rw [compositeOver, visible]
        simp only [Bool.false_eq_true, if_false, Outcome.assert_ok fits.1, Outcome.assert_ok fits.2]
        rfl
      · rintro ⟨result, ended, rfl⟩
        have returns : Returns (compositeOver .pixels canvas overlay position opacity) :=
          ended ▸ Outcome.returns_ok result
        have fits := (compositeOver_endsWhen ..).needs returns visible
        rw [compositeLoops_ok visible xFits yFits fits]
        rw [compositeOver, visible] at ended
        simp only [Bool.false_eq_true, if_false, Outcome.assert_ok fits.1,
          Outcome.assert_ok fits.2] at ended
        have same := Except.ok.inj ended
        rw [← same]
        rfl

end Exactness

/-! ## Offsets that saturate -/

section Offsets

theorem watermarkAnchor_bounds (position : WatermarkPosition) (base layer : Size) :
    (-(u32Max : Int) ≤ (watermarkAnchor position base layer).1 ∧
      (watermarkAnchor position base layer).1 ≤ u32Max) ∧
    (-(u32Max : Int) ≤ (watermarkAnchor position base layer).2 ∧
      (watermarkAnchor position base layer).2 ≤ u32Max) := by
  have slack (a b : Nat) (aFits : a ≤ u32Max) (bFits : b ≤ u32Max) :
      (-(u32Max : Int) ≤ (a : Int) - b ∧ (a : Int) - b ≤ u32Max) ∧
        -(u32Max : Int) ≤ ((a : Int) - b).tdiv 2 ∧ ((a : Int) - b).tdiv 2 ≤ u32Max := by
    have half := Int.natAbs_tdiv_le_natAbs ((a : Int) - b) 2
    omega
  have width := slack base.width layer.width base.widthFits layer.widthFits
  have height := slack base.height layer.height base.heightFits layer.heightFits
  have none_ : -(u32Max : Int) ≤ 0 ∧ (0 : Int) ≤ u32Max := by decide
  cases position
  case center => exact ⟨width.2, height.2⟩
  case north => exact ⟨width.2, none_⟩
  case south => exact ⟨width.2, height.1⟩
  case east => exact ⟨width.1, height.2⟩
  case west => exact ⟨none_, height.2⟩
  case northEast => exact ⟨width.1, none_⟩
  case northWest => exact ⟨none_, none_⟩
  case southEast => exact ⟨width.1, height.1⟩
  case southWest => exact ⟨none_, height.1⟩

theorem resolveOffset_up {offset : FloatVal} (dimension : Nat)
    (reaches : offset.reachesUp (2 ^ 63) = true) : resolveOffset offset dimension = i64Max := by
  have large : offset.atLeastOne = true := by
    cases offset with
    | nan => cases reaches
    | inf negative => rfl
    | finite negative magnitude =>
        cases negative with
        | true => cases reaches
        | false =>
            have past : ((2 ^ 63 : Nat) : NNRat) ≤ magnitude := of_decide_eq_true reaches
            exact decide_eq_true ((by norm_num : (1 : NNRat) ≤ ((2 ^ 63 : Nat) : NNRat)).trans past)
  rw [resolveOffset, if_pos large]
  exact FloatVal.toSigned_round_up (by decide) reaches

theorem resolveOffset_down {offset : FloatVal} (dimension : Nat)
    (reaches : offset.reachesDown (2 ^ 63) = true) : resolveOffset offset dimension = i64Min := by
  have large : offset.atLeastOne = true := by
    cases offset with
    | nan => cases reaches
    | inf negative => rfl
    | finite negative magnitude =>
        cases negative with
        | false => cases reaches
        | true =>
            have past : ((2 ^ 63 : Nat) : NNRat) ≤ magnitude := of_decide_eq_true reaches
            exact decide_eq_true ((by norm_num : (1 : NNRat) ≤ ((2 ^ 63 : Nat) : NNRat)).trans past)
  rw [resolveOffset, if_pos large]
  exact FloatVal.toSigned_round_down (by decide) reaches

/-- A fraction of a dimension is no more than the dimension. -/
theorem fraction_le {magnitude : NNRat} {dimension : Nat} (small : magnitude < 1)
    (fits : dimension ≤ u32Max) : Rounding.halfUp (double (magnitude * dimension)) ≤ dimension := by
  have product : magnitude * dimension ≤ dimension := mul_le_of_le_one_left zero_le small.le
  have held : dimension < 2 ^ 53 := by
    unfold u32Max at fits
    omega
  have rounded := Rounding.nearest_le_natCast product held (by decide)
  have whole := Rounding.halfUp_mono rounded
  rwa [Rounding.halfUp_natCast] at whole

/-- Between the ends there is room for the small numbers that are added. -/
theorem resolveOffset_inside (offset : F32) {dimension : Nat} (fits : dimension ≤ u32Max)
    (belowMax : offset.value.reachesUp (2 ^ 63) = false)
    (aboveMin : offset.value.reachesDown (2 ^ 63) = false) :
    -(2 ^ 63 - 2 ^ 39 : Int) ≤ resolveOffset offset.value dimension ∧
      resolveOffset offset.value dimension ≤ 2 ^ 63 - 2 ^ 39 := by
  rw [resolveOffset]
  by_cases large : offset.value.atLeastOne = true
  · rw [if_pos large]
    have inside := @FloatVal.toSigned_round_inside i64Min i64Max 24 63 _ _ offset (by decide)
      (by decide) (by decide) belowMax aboveMin
    norm_num at inside ⊢
    exact inside
  · rw [if_neg large]
    unfold u32Max at fits
    cases isValue : offset.value with
    | nan =>
        simp only [FloatVal.mul, FloatVal.round, FloatVal.toSigned]
        decide
    | inf negative =>
        rw [isValue] at large
        exact absurd rfl large
    | finite negative magnitude =>
        rw [isValue] at large
        have small : magnitude < 1 := not_le.mp fun past => large (decide_eq_true past)
        have bound := @fraction_le magnitude dimension small (by unfold u32Max; omega)
        cases negative <;>
          simp only [FloatVal.ofNat, FloatVal.mul, FloatVal.round, FloatVal.toSigned,
            Nat.floor_natCast, bne_self_eq_false, Bool.true_bne, Bool.not_false] <;>
          norm_num [i64Min, i64Max] <;> omega

section Axis

variable (offset : F32) {dimension : Nat} (fits : dimension ≤ u32Max) {anchor : Int}
  (bounds : -(u32Max : Int) ≤ anchor ∧ anchor ≤ u32Max)

include fits bounds

/-- A coordinate leaves the range only when its offset saturates and the anchor pushes on. -/
theorem coordinateFits_iff :
    CoordinateFits (anchor + resolveOffset offset.value dimension) ↔
      (offset.value.reachesUp (2 ^ 63) = true → anchor ≤ 0) ∧
        (offset.value.reachesDown (2 ^ 63) = true → 0 ≤ anchor) := by
  unfold CoordinateFits i64Min i64Max
  unfold u32Max at bounds
  cases up : offset.value.reachesUp (2 ^ 63) with
  | true =>
      have down : offset.value.reachesDown (2 ^ 63) = false := by
        unfold FloatVal.reachesUp at up
        unfold FloatVal.reachesDown
        split at up <;> simp_all
      rw [resolveOffset_up dimension up, down]
      unfold i64Max
      simp only [forall_const, Bool.false_eq_true, IsEmpty.forall_iff, and_true]
      omega
  | false =>
      cases down : offset.value.reachesDown (2 ^ 63) with
      | true =>
          rw [resolveOffset_down dimension down]
          unfold i64Min
          simp only [forall_const, Bool.false_eq_true, IsEmpty.forall_iff, true_and]
          omega
      | false =>
          have inside := resolveOffset_inside offset fits up down
          simp only [Bool.false_eq_true, IsEmpty.forall_iff, and_self, iff_true]
          omega

/-- The far end of an overlay leaves the range only when the offset saturates upwards. -/
theorem farEnd_fits_iff {extent : Nat} (size : extent ≤ u32Max) :
    anchor + resolveOffset offset.value dimension + extent - 1 ≤ i64Max ↔
      (offset.value.reachesUp (2 ^ 63) = true → anchor + extent - 1 ≤ 0) := by
  unfold u32Max at bounds size
  cases up : offset.value.reachesUp (2 ^ 63) with
  | true =>
      rw [resolveOffset_up dimension up]
      simp only [forall_const]
      omega
  | false =>
      simp only [Bool.false_eq_true, IsEmpty.forall_iff, iff_true]
      unfold i64Max
      cases down : offset.value.reachesDown (2 ^ 63) with
      | true =>
          rw [resolveOffset_down dimension down]
          unfold i64Min
          omega
      | false =>
          have inside := resolveOffset_inside offset fits up down
          omega

end Axis

end Offsets

/-! ## Safe placements -/

section Placement

variable (watermark : WatermarkQuery) (base layer : Size)

/-- No offset saturates in a way that the anchor, or the extent of an overlay that is drawn,
takes out of the range. -/
structure OffsetsInRange (drawn : Prop) : Prop where
  right : watermark.xOffset.value.reachesUp (2 ^ 63) = true →
    (watermarkAnchor watermark.position base layer).1 ≤ 0
  left : watermark.xOffset.value.reachesDown (2 ^ 63) = true →
    0 ≤ (watermarkAnchor watermark.position base layer).1
  bottom : watermark.yOffset.value.reachesUp (2 ^ 63) = true →
    (watermarkAnchor watermark.position base layer).2 ≤ 0
  top : watermark.yOffset.value.reachesDown (2 ^ 63) = true →
    0 ≤ (watermarkAnchor watermark.position base layer).2
  rows : drawn → watermark.yOffset.value.reachesUp (2 ^ 63) = true →
    (watermarkAnchor watermark.position base layer).2 + layer.height - 1 ≤ 0
  columns : drawn → rowsMeet base layer (watermarkOrigin watermark base layer).2 →
    watermark.xOffset.value.reachesUp (2 ^ 63) = true →
      (watermarkAnchor watermark.position base layer).1 + layer.width - 1 ≤ 0

theorem positionFits_iff :
    PositionFits watermark base layer ↔
      ((watermark.xOffset.value.reachesUp (2 ^ 63) = true →
          (watermarkAnchor watermark.position base layer).1 ≤ 0) ∧
        (watermark.xOffset.value.reachesDown (2 ^ 63) = true →
          0 ≤ (watermarkAnchor watermark.position base layer).1)) ∧
      (watermark.yOffset.value.reachesUp (2 ^ 63) = true →
          (watermarkAnchor watermark.position base layer).2 ≤ 0) ∧
        (watermark.yOffset.value.reachesDown (2 ^ 63) = true →
          0 ≤ (watermarkAnchor watermark.position base layer).2) := by
  have anchors := watermarkAnchor_bounds watermark.position base layer
  exact and_congr (coordinateFits_iff watermark.xOffset base.widthFits anchors.1)
    (coordinateFits_iff watermark.yOffset base.heightFits anchors.2)

theorem overlayFits_iff :
    OverlayFits base layer (watermarkOrigin watermark base layer) ↔
      (watermark.yOffset.value.reachesUp (2 ^ 63) = true →
        (watermarkAnchor watermark.position base layer).2 + layer.height - 1 ≤ 0) ∧
      (rowsMeet base layer (watermarkOrigin watermark base layer).2 →
        watermark.xOffset.value.reachesUp (2 ^ 63) = true →
          (watermarkAnchor watermark.position base layer).1 + layer.width - 1 ≤ 0) := by
  have anchors := watermarkAnchor_bounds watermark.position base layer
  exact and_congr
    (farEnd_fits_iff watermark.yOffset base.heightFits anchors.2 layer.heightFits)
    (forall_congr' fun _ =>
      farEnd_fits_iff watermark.xOffset base.widthFits anchors.1 layer.widthFits)

theorem offsetsInRange_iff (drawn : Prop) :
    OffsetsInRange watermark base layer drawn ↔
      PositionFits watermark base layer ∧
        (drawn → OverlayFits base layer (watermarkOrigin watermark base layer)) := by
  rw [positionFits_iff, overlayFits_iff]
  constructor
  · intro inRange
    exact ⟨⟨⟨inRange.right, inRange.left⟩, inRange.bottom, inRange.top⟩,
      fun drawing => ⟨inRange.rows drawing, inRange.columns drawing⟩⟩
  · rintro ⟨⟨⟨right, left⟩, bottom, top⟩, overlay⟩
    exact ⟨right, left, bottom, top, fun drawing => (overlay drawing).1,
      fun drawing => (overlay drawing).2⟩

/-- What drawing an overlay leaves as it was. -/
structure Untouched (canvas overlay : Raster PixelGrid) (position : Int × Int)
    (opacity : Opacity) (grid : PixelGrid) : Prop where
  outside : ∀ x y, overlayIndex canvas.size overlay.size position x y = none →
    grid x y = canvas.content x y
  transparent : ∀ x y column row,
    overlayIndex canvas.size overlay.size position x y = some (column, row) →
      (overlay.content column row).a = 0 → grid x y = canvas.content x y
  invisible : opacity.value.nonzero = false → grid = canvas.content

/-- The watermark's place is computed and the overlay drawn there without an overflow, and
everything it does not show on is left alone. -/
def PlacedSafely (watermark : WatermarkQuery) (canvas overlay : Raster PixelGrid)
    (opacity : Opacity) : Prop :=
  ∃ position grid,
    watermarkPosition watermark canvas.size overlay.size = .ok position ∧
      compositeLoops canvas overlay position opacity = .ok grid ∧
        Untouched canvas overlay position opacity grid

section Opacity

theorem clampUnit_nonpositive (opacity : FloatVal) :
    opacity.clampUnit.nonpositive = opacity.nonpositive := by
  cases opacity with
  | nan => rfl
  | inf negative => cases negative <;> decide
  | finite negative magnitude =>
      cases negative with
      | true => simp [FloatVal.clampUnit, FloatVal.unitClamp, FloatVal.nonpositive]
      | false =>
          simp only [FloatVal.clampUnit, FloatVal.unitClamp, FloatVal.nonpositive, Bool.false_or]
          rw [decide_eq_decide, min_eq_iff]
          constructor
          · rintro (⟨zero, _⟩ | ⟨one, _⟩)
            · exact zero
            · exact absurd one one_ne_zero
          · rintro rfl
            exact Or.inl ⟨rfl, zero_le⟩

theorem clampUnit_eq_nan_iff (opacity : FloatVal) : opacity.clampUnit = .nan ↔ opacity = .nan := by
  cases opacity with
  | nan => exact iff_of_true rfl rfl
  | inf negative =>
      cases negative <;> exact iff_of_false FloatVal.noConfusion FloatVal.noConfusion
  | finite negative magnitude =>
      cases negative <;> exact iff_of_false FloatVal.noConfusion FloatVal.noConfusion

/-- Of the clamped opacities only zero is not drawn, and only zero is zero. -/
theorem clampUnit_nonzero (opacity : FloatVal) (visible : opacity.nonpositive = false) :
    opacity.clampUnit.nonzero = true := by
  rw [← clampUnit_nonpositive] at visible
  cases clamped : opacity.clampUnit with
  | nan => rfl
  | inf negative => rfl
  | finite negative magnitude =>
      rw [clamped] at visible
      obtain ⟨_, positive⟩ := Bool.or_eq_false_iff.mp visible
      exact decide_eq_true (of_decide_eq_false positive)

end Opacity

variable (canvas overlay : Raster PixelGrid) (opacity : F32)

/-- Wherever a transparent pixel of the overlay falls, the canvas is blank: a NaN opacity
blanks it. -/
def BlankUnderTransparent : Prop :=
  ∀ x y column row,
    overlayIndex canvas.size overlay.size (watermarkOrigin watermark canvas.size overlay.size) x y =
        some (column, row) →
      (overlay.content column row).a = 0 → canvas.content x y = ⟨0, 0, 0, 0⟩

/-- A drawn overlay leaves everything else alone, at every opacity that is a number. -/
theorem drawOver_untouched {canvas overlay : Raster PixelGrid} {position : Int × Int}
    {opacity : Opacity} (nonzero : opacity.value.nonzero = true)
    (transparent : ∀ x y column row,
      overlayIndex canvas.size overlay.size position x y = some (column, row) →
        (overlay.content column row).a = 0 →
          sourceOver opacity (overlay.content column row) (canvas.content x y) =
            canvas.content x y) :
    Untouched canvas overlay position opacity
      (drawOver (sourceOver opacity) canvas overlay position) where
  outside x y misses := by rw [drawOver, misses]
  transparent x y column row falls clear := by
    rw [drawOver, falls]
    exact transparent x y column row falls clear
  invisible zero := absurd (nonzero.symm.trans zero) (by decide)

/-- A watermark, or its shadow at an opacity of one, is placed and drawn without an overflow
and leaves alone what it does not show on, exactly when no offset saturates out of the range
and a NaN opacity meets nothing that it would blank. -/
theorem placedSafely_iff :
    PlacedSafely watermark canvas overlay (.ofFloat opacity.value) ↔
      OffsetsInRange watermark canvas.size overlay.size (opacity.value.nonpositive = false) ∧
        (opacity.value = .nan → BlankUnderTransparent watermark canvas overlay) := by
  rw [offsetsInRange_iff]
  constructor
  · rintro ⟨position, grid, placed, drawn, untouched⟩
    have positionFits := (watermarkPosition_returns_iff watermark canvas.size overlay.size).mp
      (placed ▸ Outcome.returns_ok position)
    rw [watermarkPosition_ok watermark canvas.size positionFits] at placed
    obtain rfl := Except.ok.inj placed
    have overlayFits (visible : opacity.value.nonpositive = false) :
        OverlayFits canvas.size overlay.size
          (watermarkOrigin watermark canvas.size overlay.size) :=
      overlayFits_of_compositeLoops ((clampUnit_nonpositive _).trans visible) drawn
    refine ⟨⟨positionFits, overlayFits⟩, fun isNan x y column row falls clear => ?_⟩
    have visible : opacity.value.nonpositive = false := by rw [isNan]; rfl
    rw [compositeLoops_ok ((clampUnit_nonpositive _).trans visible) positionFits.1 positionFits.2
      (overlayFits visible)] at drawn
    obtain rfl := Except.ok.inj drawn
    have same := untouched.transparent x y column row falls clear
    rw [drawOver, falls] at same
    exact same.symm.trans (sourceOver_nan ((clampUnit_eq_nan_iff _).mpr isNan) _ _)
  · rintro ⟨⟨positionFits, overlayFits⟩, blank⟩
    refine ⟨watermarkOrigin watermark canvas.size overlay.size, ?_⟩
    cases visible : opacity.value.nonpositive with
    | true =>
        refine ⟨canvas.content, watermarkPosition_ok watermark canvas.size positionFits, ?_, ?_⟩
        · have unseen : (Opacity.ofFloat opacity.value).value.nonpositive = true :=
            (clampUnit_nonpositive _).trans visible
          rw [compositeLoops, unseen]
          rfl
        · exact ⟨fun _ _ _ => rfl, fun _ _ _ _ _ _ => rfl, fun _ => rfl⟩
    | false =>
        refine ⟨_, watermarkPosition_ok watermark canvas.size positionFits,
          compositeLoops_ok ((clampUnit_nonpositive _).trans visible) positionFits.1
            positionFits.2 (overlayFits visible), ?_⟩
        apply drawOver_untouched (clampUnit_nonzero _ visible)
        intro x y column row falls clear
        by_cases isNan : opacity.value = .nan
        · rw [blank isNan x y column row falls clear]
          exact sourceOver_nan ((clampUnit_eq_nan_iff _).mpr isNan) _ _
        · exact sourceOver_transparent (mt (clampUnit_eq_nan_iff _).mp isNan) clear

end Placement

section Overflowing

/-- `wm:1:ea:1e20`. -/
def farWatermark : WatermarkQuery where
  opacity := F32.one
  position := .east
  xOffset := (F32.parse "1e20".toList).getD F32.zero
  yOffset := F32.zero
  scale := F32.zero
  url := none
  size := none
  rotate := F32.zero
  shadow := none

theorem farWatermark_grammatical : Grammatical farWatermark :=
  ⟨.urlSafeNoPad, ["wm:1:ea:1e20".toList],
    { ProcessingOptions.default with
      watermarkOpacity := some farWatermark.opacity
      watermarkPosition := .east
      watermarkXOffset := farWatermark.xOffset },
    by decide +kernel, rfl⟩

/-- An accepted offset of `1e20` on top of an anchor of one pixel is past the largest `i64`. -/
theorem placement_overflows :
    ¬ ∀ watermark, Grammatical watermark → ∀ canvas overlay : Raster PixelGrid,
      PlacedSafely watermark canvas overlay (.ofFloat watermark.opacity.value) := by
  intro always
  let blank (width : Nat) : Raster PixelGrid :=
    ⟨.floored width 1, .rgba8, fun _ _ => ⟨0, 0, 0, 0⟩⟩
  obtain ⟨position, _, placed, _⟩ := always farWatermark farWatermark_grammatical (blank 2) (blank 1)
  have fits := (watermarkPosition_returns_iff farWatermark (.floored 2 1) (.floored 1 1)).mp
    (placed ▸ Outcome.returns_ok position)
  have anchored := ((positionFits_iff ..).mp fits).1.1 (by decide +kernel)
  exact absurd anchored (by decide)

end Overflowing

end ImageResizer
