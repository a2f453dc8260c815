import ImageResizer.Blending.Singles
import ImageResizer.Compositing

/-!
# Blending in single precision

`composite_over` blends channels in `f32` and rounds once at the end.  The errors on the way
stay far below half a step, so a blended channel is never outside the two it is blended from,
and nothing that is drawn makes a pixel less opaque.
-/

namespace ImageResizer

open Rounding

/-! ## Compositing -/

section Composite

/-- A channel is not outside two others. -/
def Between (first second channel : UInt8) : Prop :=
  min first.toNat second.toNat ≤ channel.toNat ∧ channel.toNat ≤ max first.toNat second.toNat

variable {srcA dstA rest : NNRat}

theorem outA_agrees :
    Agrees (singleFactor ^ 2) (2 * singleSlack) (single (srcA + single (dstA * rest)))
      (srcA + dstA * rest) := by
  have sum := (Agrees.refl one_le_singleFactor srcA).add (single_agrees (dstA * rest))
  have rounded := single_rounds one_le_singleFactor sum
  rw [zero_add, ← two_mul, ← pow_two] at rounded
  exact rounded

theorem numerator_agrees (small : rest ≤ 1) (source below : UInt8) :
    Agrees (singleFactor ^ 3) (4 * singleSlack)
      (single (single (source.toNat * srcA) + single (single (below.toNat * dstA) * rest)))
      (source.toNat * srcA + below.toNat * dstA * rest) := by
  have squared : 1 ≤ singleFactor * singleFactor :=
    one_le_mul one_le_singleFactor one_le_singleFactor
  have drawn := (single_agrees (source.toNat * srcA)).mono
    (le_mul_of_one_le_right zero_le one_le_singleFactor) le_rfl
  have shown := single_rounds one_le_singleFactor
    ((single_agrees (below.toNat * dstA)).scale small)
  have rounded := single_rounds squared (drawn.add shown)
  have factors : singleFactor * (singleFactor * singleFactor) = singleFactor ^ 3 := by ring
  have slacks : singleSlack + (singleSlack + (singleSlack + singleSlack)) = 4 * singleSlack := by
    ring
  rw [factors, slacks] at rounded
  exact rounded

/-- What is seen of the two pixels is not negligible unless both are transparent. -/
theorem weight_le {channel : UInt8} (small : srcA ≤ 1) (shown : channel ≠ 0) :
    1 / 1024 ≤ srcA + single (channel.toNat / 255) * single (1 - srcA) := by
  rcases le_total (1 / 1024) srcA with heavy | light
  case inl => exact heavy.trans (le_add_of_nonneg_right zero_le)
  case inr =>
      have some_ : (1 : Rat) ≤ channel.toNat := by
        have positive : channel.toNat ≠ 0 := fun zero => shown (UInt8.toNat_inj.mp zero)
        exact_mod_cast Nat.one_le_iff_ne_zero.mpr positive
      have fraction : ((channel.toNat / 255 : NNRat) : Rat) ≤ 1 := by
        push_cast
        rw [div_le_one (by norm_num)]
        exact_mod_cast toNat_le channel
      have remaining : ((1 - srcA : NNRat) : Rat) ≤ 1 := by exact_mod_cast tsub_le_self
      have alphaNear := abs_le.mp (single_near fraction)
      have restNear := abs_le.mp (single_near remaining)
      rw [NNRat.coe_sub small] at restNear
      rw [← NNRat.coe_le_coe] at light
      push_cast at alphaNear restNear light
      norm_num at alphaNear restNear light
      have alphaLower : (1 / 256 : NNRat) ≤ single (channel.toNat / 255) := by
        rw [← NNRat.coe_le_coe]
        push_cast
        linarith
      have restLower : (1 / 4 : NNRat) ≤ single (1 - srcA) := by
        rw [← NNRat.coe_le_coe]
        push_cast
        linarith
      calc (1 / 1024 : NNRat) = 1 / 256 * (1 / 4) := by norm_num
        _ ≤ single (channel.toNat / 255) * single (1 - srcA) := mul_le_mul' alphaLower restLower
        _ ≤ srcA + single (channel.toNat / 255) * single (1 - srcA) := le_add_of_nonneg_left zero_le

/-- Over a canvas that is not transparent. -/
theorem blend_between (small : srcA ≤ 1) {channel : UInt8} (shown : channel ≠ 0)
    (source below : UInt8) :
    let dstA := single (channel.toNat / 255)
    let rest := single (1 - srcA)
    Between source below (toChannel (single
      (single (single (source.toNat * srcA) + single (single (below.toNat * dstA) * rest)) /
        single (srcA + single (dstA * rest))))) := by
  intro dstA rest
  have restSmall : rest ≤ 1 := single_le_one tsub_le_self
  have num := @numerator_agrees srcA dstA _ restSmall source below
  have den := @outA_agrees srcA dstA rest
  have heavy := weight_le small shown
  have bottomSmall : min source.toNat below.toNat ≤ 255 := (min_le_left _ _).trans (toNat_le source)
  have topSmall : max source.toNat below.toNat ≤ 255 := max_le (toNat_le source) (toNat_le below)
  generalize single (srcA + single (dstA * rest)) = outA at den ⊢
  generalize single (single (source.toNat * srcA) + single (single (below.toNat * dstA) * rest)) =
    total at num ⊢
  have spread : source.toNat * srcA + below.toNat * dstA * rest =
      source.toNat * srcA + below.toNat * (dstA * rest) := by rw [mul_assoc]
  have exactLower : ((min source.toNat below.toNat : Nat) : NNRat) * (srcA + dstA * rest) ≤
      source.toNat * srcA + below.toNat * dstA * rest := by
    rw [spread, mul_add]
    gcongr
    · exact min_le_left _ _
    · exact min_le_right _ _
  have exactUpper : source.toNat * srcA + below.toNat * dstA * rest ≤
      ((max source.toNat below.toNat : Nat) : NNRat) * (srcA + dstA * rest) := by
    rw [spread, mul_add]
    gcongr
    · exact le_max_left _ _
    · exact le_max_right _ _
  have outUpper : total ≤ ((max source.toNat below.toNat : Nat) : NNRat) * outA + 1 / 8 * outA := by
    apply quotient_below (by exact_mod_cast topSmall) heavy _ den.lower
    exact num.upper.trans (by gcongr)
  have outHeavy := half_weight_le heavy den.lower
  have outPositive : 0 < outA := lt_of_lt_of_le (by norm_num) outHeavy
  have outLower : ((min source.toNat below.toNat : Nat) : NNRat) * outA ≤ total + 1 / 8 * outA := by
    apply quotient_above (by exact_mod_cast bottomSmall) outHeavy _ _ den.upper
    · apply outUpper.trans
      rw [← add_mul]
      gcongr
      calc ((max source.toNat below.toNat : Nat) : NNRat) + 1 / 8 ≤ (255 : Nat) + 1 / 8 := by gcongr
        _ ≤ 256 := by
            rw [← NNRat.coe_le_coe]
            norm_num
    · exact exactLower.trans num.lower
  have quotientUpper : total / outA ≤ ((max source.toNat below.toNat : Nat) : NNRat) + 1 / 8 := by
    rw [← mul_le_mul_iff_left₀ outPositive, add_mul, div_mul_cancel₀ _ outPositive.ne']
    exact outUpper
  have bounded : total / outA ≤ 512 := by
    apply quotientUpper.trans
    calc ((max source.toNat below.toNat : Nat) : NNRat) + 1 / 8 ≤ (255 : Nat) + 1 / 8 := by gcongr
      _ ≤ 512 := by
          rw [← NNRat.coe_le_coe]
          norm_num
  constructor
  · apply le_toChannel bounded bottomSmall
    rw [← mul_le_mul_iff_left₀ outPositive, add_mul, div_mul_cancel₀ _ outPositive.ne']
    exact outLower
  · exact toChannel_le bounded quotientUpper

/-- Over a transparent canvas the overlay's own channels show, at any alpha. -/
theorem blend_transparent (held : single srcA = srcA) (some_ : srcA ≠ 0) (source : UInt8) :
    (toChannel (single (single (source.toNat * srcA) / srcA))).toNat = source.toNat := by
  have positive := pos_iff_ne_zero.mpr some_
  obtain ⟨upper, lower⟩ := single_scaled_agrees held source.toNat
  have sourceSmall : ((source.toNat : NNRat) : Rat) ≤ 255 := by exact_mod_cast toNat_le source
  set quotient := single (source.toNat * srcA) / srcA with quotientIs
  have product : single (source.toNat * srcA) = quotient * srcA :=
    (div_mul_cancel₀ _ some_).symm
  rw [product, add_zero, mul_right_comm, mul_le_mul_iff_left₀ positive, singleFactor,
    ← NNRat.coe_le_coe] at upper lower
  push_cast at upper lower sourceSmall
  norm_num at upper lower
  have below : quotient ≤ source.toNat + 1 / 8 := by
    rw [← NNRat.coe_le_coe]
    push_cast
    linarith
  have bounded : quotient ≤ 512 := by
    rw [← NNRat.coe_le_coe]
    push_cast
    linarith
  apply le_antisymm (toChannel_le bounded below)
  apply le_toChannel bounded (toNat_le source)
  rw [← NNRat.coe_le_coe]
  push_cast
  linarith

/-- The canvas keeps its alpha, to the rounding of a channel. -/
theorem alpha_le (small : srcA ≤ 1) (channel : UInt8) :
    let outA := single (srcA + single (single (channel.toNat / 255) * single (1 - srcA)))
    channel.toNat ≤ (toChannel (single (outA * 255))).toNat := by
  intro outA
  subst outA
  have channelSmall := toNat_le channel
  have fraction : ((channel.toNat / 255 : NNRat) : Rat) ≤ 1 := by
    push_cast
    rw [div_le_one (by norm_num)]
    exact_mod_cast channelSmall
  have dstSmall := @single_le_one (channel.toNat / 255) (by exact_mod_cast fraction)
  have dstNear := abs_le.mp (single_near fraction)
  push_cast at dstNear
  generalize single (channel.toNat / 255) = dstA at dstNear dstSmall ⊢
  have restSmall : single (1 - srcA) ≤ 1 := single_le_one tsub_le_self
  have remaining : ((1 - srcA : NNRat) : Rat) ≤ 1 := by exact_mod_cast tsub_le_self
  have restNear := single_near remaining
  rw [NNRat.coe_sub small] at restNear
  generalize single (1 - srcA) = rest at restNear restSmall ⊢
  have seen : dstA * rest ≤ 1 := mul_le_one' dstSmall restSmall
  have seenSmall := single_le_one seen
  have seenNear := abs_le.mp (@single_near _ 1 (by exact_mod_cast seen))
  generalize single (dstA * rest) = seenA at seenNear seenSmall ⊢
  have sum : srcA + seenA ≤ (2 : Nat) := by
    have both := add_le_add small seenSmall
    norm_num at both
    exact both
  have outSmall := single_le_natCast sum (by norm_num)
  have outNear := abs_le.mp (@single_near _ 2 (by exact_mod_cast sum))
  generalize single (srcA + seenA) = outA at outNear outSmall ⊢
  have dstNonneg : (0 : Rat) ≤ dstA := dstA.2
  have srcNonneg : (0 : Rat) ≤ srcA := srcA.2
  have weighed : |(dstA * rest - dstA * (1 - srcA) : Rat)| ≤ 1 / 2 ^ 23 + 1 / 2 ^ 140 := by
    rw [← mul_sub, abs_mul, abs_of_nonneg dstNonneg]
    push_cast at restNear
    exact (mul_le_of_le_one_left (abs_nonneg _) (by exact_mod_cast dstSmall)).trans restNear
  have covered : (0 : Rat) ≤ srcA * (1 - dstA) :=
    mul_nonneg srcNonneg (sub_nonneg.mpr (by exact_mod_cast dstSmall))
  rw [abs_le] at weighed
  apply le_toChannel _ channelSmall
  · rw [← NNRat.coe_le_coe]
    push_cast at seenNear outNear ⊢
    norm_num at dstNear seenNear outNear weighed ⊢
    linarith
  · calc outA * 255 ≤ (2 : Nat) * 255 := by gcongr
      _ ≤ 512 := by
          rw [← NNRat.coe_le_coe]
          norm_num

/-- What drawing a pixel of the overlay makes of a pixel of the canvas. -/
structure Blends (overlay canvas result : Rgba8) : Prop where
  red : Between overlay.r canvas.r result.r
  green : Between overlay.g canvas.g result.g
  blue : Between overlay.b canvas.b result.b
  alpha : canvas.a ≤ result.a

theorem Between.right (first second : UInt8) : Between first second second :=
  ⟨min_le_right _ _, le_max_right _ _⟩

theorem Between.of_eq {first second channel : UInt8} (same : channel.toNat = first.toNat) :
    Between first second channel := by
  rw [Between, same]
  exact ⟨min_le_left _ _, le_max_left _ _⟩

theorem Blends.refl (overlay canvas : Rgba8) : Blends overlay canvas canvas :=
  ⟨.right _ _, .right _ _, .right _ _, UInt8.le_refl _⟩

/-- The arithmetic of `composite_over`, over a canvas of any alpha. -/
theorem blendPixel_blends {overlay canvas : Rgba8} (held : single srcA = srcA) (small : srcA ≤ 1)
    (some_ : srcA ≠ 0) : Blends overlay canvas (blendPixel srcA overlay canvas) := by
  have kept := alpha_le small canvas.a
  by_cases shown : canvas.a = 0
  case pos =>
      have dst : single ((canvas.a.toNat : NNRat) / 255) = 0 := by
        rw [shown]
        simp [single_zero]
      simp only [blendPixel, dst, zero_mul, mul_zero, single_zero, add_zero, held, if_neg some_,
        single_single]
      refine ⟨.of_eq (blend_transparent held some_ _), .of_eq (blend_transparent held some_ _),
        .of_eq (blend_transparent held some_ _), ?_⟩
      rw [shown]
      exact UInt8.zero_le
  case neg =>
      have heavy := half_weight_le (weight_le small shown) outA_agrees.lower
      have nonzero :
          single (srcA + single (single (canvas.a.toNat / 255) * single (1 - srcA))) ≠ 0 :=
        (lt_of_lt_of_le (by norm_num) heavy).ne'
      rw [blendPixel, if_neg nonzero]
      exact ⟨blend_between small shown _ _, blend_between small shown _ _,
        blend_between small shown _ _, kept⟩

theorem sourceAlpha_le_one {opacity : NNRat} (small : opacity ≤ 1) (overlay : Rgba8) :
    sourceAlpha opacity overlay ≤ 1 := by
  have fraction : ((overlay.a.toNat : NNRat) / 255) ≤ 1 := by
    rw [div_le_one (by norm_num)]
    exact_mod_cast toNat_le overlay.a
  exact single_le_one (mul_le_one' (single_le_one fraction) small)

/-- At every opacity that is a number. -/
theorem sourceOver_blends {opacity : Opacity} (number : opacity.value ≠ .nan)
    (overlay canvas : Rgba8) : Blends overlay canvas (sourceOver opacity overlay canvas) := by
  obtain ⟨size, small, fraction⟩ := opacity.fraction number
  rw [sourceOver, fraction]
  dsimp only
  split
  case isTrue => exact .refl overlay canvas
  case isFalse some_ =>
      exact blendPixel_blends (single_single _) (sourceAlpha_le_one small overlay) some_

end Composite

/-! ## Layers -/

section Layers

/-- A layer drawn over a canvas: nothing changes beside it, and under it the two blend. -/
structure Laid (canvas overlay : Raster PixelGrid) (position : Int × Int) (grid : PixelGrid) :
    Prop where
  outside : ∀ x y, overlayIndex canvas.size overlay.size position x y = none →
    grid x y = canvas.content x y
  covered : ∀ x y column row,
    overlayIndex canvas.size overlay.size position x y = some (column, row) →
      Blends (overlay.content column row) (canvas.content x y) (grid x y)

variable {canvas overlay : Raster PixelGrid} {position : Int × Int} {opacity : Opacity}

theorem laid_canvas : Laid canvas overlay position canvas.content :=
  ⟨fun _ _ _ => rfl, fun _ _ _ _ _ => .refl _ _⟩

theorem drawOver_laid (number : opacity.value ≠ .nan) :
    Laid canvas overlay position (drawOver (sourceOver opacity) canvas overlay position) where
  outside x y misses := by rw [drawOver, misses]
  covered x y column row falls := by
    rw [drawOver, falls]
    exact sourceOver_blends number _ _

theorem Laid.alpha {grid : PixelGrid} (laid : Laid canvas overlay position grid) (x y : Nat) :
    (canvas.content x y).a ≤ (grid x y).a := by
  cases falls : overlayIndex canvas.size overlay.size position x y with
  | none => exact laid.outside x y falls ▸ UInt8.le_refl _
  | some place => exact (laid.covered x y place.1 place.2 falls).alpha

/-- The loops of `composite_over` blend the overlay into the canvas and touch nothing else. -/
theorem compositeLoops_laid {grid : PixelGrid} (number : opacity.value ≠ .nan)
    (xFits : CoordinateFits position.1) (yFits : CoordinateFits position.2)
    (ended : compositeLoops canvas overlay position opacity = .ok grid) :
    Laid canvas overlay position grid := by
  cases visible : opacity.value.nonpositive with
  | true =>
      rw [compositeLoops, visible] at ended
      obtain rfl := Except.ok.inj ended
      exact laid_canvas
  | false =>
      have fits := overlayFits_of_compositeLoops visible ended
      rw [compositeLoops_ok visible xFits yFits fits] at ended
      obtain rfl := Except.ok.inj ended
      exact drawOver_laid number

/-- A dark picture of two pixels by two. -/
def darkSquare : Raster PixelGrid where
  size := .floored 2 2
  color := .rgba8
  content := fun _ _ => ⟨10, 20, 30, 255⟩

/-- A bright pixel. -/
def brightDot : Raster PixelGrid where
  size := .floored 1 1
  color := .rgba8
  content := fun _ _ => ⟨250, 250, 250, 200⟩

theorem compositeLoops_laid_brightDot :
    ∃ grid, compositeLoops darkSquare brightDot (1, 1) .full = .ok grid ∧
      Laid darkSquare brightDot (1, 1) grid := by
  have fits : CoordinateFits 1 := by
    unfold CoordinateFits
    decide
  have ended : ∃ grid, compositeLoops darkSquare brightDot (1, 1) .full = .ok grid :=
    ⟨_, rfl⟩
  obtain ⟨grid, ended⟩ := ended
  exact ⟨grid, ended, compositeLoops_laid FloatVal.noConfusion fits fits ended⟩

/-- A library that composites as the service does. -/
structure Imaging.Composites (lib : Imaging PixelGrid) : Prop where
  draw : lib.draw = drawOver
  sourceOver : lib.sourceOver = ImageResizer.sourceOver

variable {lib : Imaging PixelGrid}

theorem compositeOver_laid {result : Raster PixelGrid} (composites : lib.Composites)
    (number : opacity.value ≠ .nan)
    (ended : compositeOver lib canvas overlay position opacity = .ok result) :
    result.size = canvas.size ∧ Laid canvas overlay position result.content := by
  unfold compositeOver at ended
  split at ended
  case isTrue =>
      obtain rfl := Except.ok.inj ended
      exact ⟨rfl, laid_canvas⟩
  case isFalse =>
      obtain ⟨_, _, ended⟩ := (Outcome.bind_ok_iff _ _ _).mp ended
      obtain ⟨_, _, ended⟩ := (Outcome.bind_ok_iff _ _ _).mp ended
      obtain rfl := Except.ok.inj ended
      rw [composites.draw, composites.sourceOver]
      exact ⟨rfl, drawOver_laid number⟩

theorem buildShadowLayer_size {layer shadow : Raster PixelGrid} {sigma : F32}
    (ended : buildShadowLayer lib layer sigma = .ok shadow) : shadow.size = layer.size := by
  obtain ⟨_, _, converted⟩ := (Outcome.bind_ok_iff _ _ _).mp ended
  change Raster.toColor lib _ _ = _ at converted
  have kept := toColor_size lib converted
  exact kept

/-- Something was drawn at a place of some size, if anything was: what lies beside it is as it
was, and nothing has become less opaque. -/
structure Overlaid (place : Size) (position : Int × Int) (canvas result : Raster PixelGrid) :
    Prop where
  size : result.size = canvas.size
  outside : ∀ x y, overlayIndex canvas.size place position x y = none →
    result.content x y = canvas.content x y
  alpha : ∀ x y, (canvas.content x y).a ≤ (result.content x y).a

theorem Overlaid.trans {place : Size} {shaded result : Raster PixelGrid}
    (first : Overlaid place position canvas shaded)
    (second : Overlaid place position shaded result) : Overlaid place position canvas result where
  size := second.size.trans first.size
  outside x y misses :=
    (second.outside x y (first.size.symm ▸ misses)).trans (first.outside x y misses)
  alpha x y := UInt8.le_trans (first.alpha x y) (second.alpha x y)

theorem compositeOver_overlaid {result : Raster PixelGrid} (composites : lib.Composites)
    (number : opacity.value ≠ .nan)
    (ended : compositeOver lib canvas overlay position opacity = .ok result) :
    Overlaid overlay.size position canvas result := by
  obtain ⟨size, laid⟩ := compositeOver_laid composites number ended
  exact ⟨size, laid.outside, laid.alpha⟩

theorem drawShadow_overlaid {watermark : WatermarkQuery} {shaded : Raster PixelGrid}
    (composites : lib.Composites)
    (ended : drawShadow lib watermark canvas overlay position = .ok shaded) :
    Overlaid overlay.size position canvas shaded := by
  have unshaded (same : .ok canvas = (.ok shaded : Stage (Raster PixelGrid))) :
      Overlaid overlay.size position canvas shaded := by
    obtain rfl := Except.ok.inj same
    exact ⟨rfl, fun _ _ _ => rfl, fun _ _ => UInt8.le_refl _⟩
  unfold drawShadow at ended
  cases shadow : watermark.shadow with
  | none =>
      rw [shadow] at ended
      exact unshaded ended
  | some sigma =>
      rw [shadow] at ended
      dsimp only at ended
      split at ended
      case isTrue =>
          obtain ⟨layer, built, ended⟩ := (Outcome.bind_ok_iff _ _ _).mp ended
          rw [← buildShadowLayer_size built]
          exact compositeOver_overlaid composites (FloatVal.noConfusion) ended
      case isFalse => exact unshaded ended

/-- The size a watermark is drawn at. -/
def drawnSize (lib : Imaging PixelGrid) (watermark : WatermarkQuery) (base layer : Size) : Size :=
  turnedSize lib watermark (scaledSize watermark base layer)

/-- A watermark, its shadow included, changes the picture under itself only, and nowhere makes
it less opaque. -/
theorem applyWatermark_overlaid {watermark : WatermarkQuery} {base layer result : Raster PixelGrid}
    (composites : lib.Composites) (number : watermark.opacity.value ≠ .nan)
    (converted : base.toRgba8 lib = .ok canvas)
    (ended : applyWatermark lib watermark base layer = .ok result) :
    Overlaid (drawnSize lib watermark base.size layer.size)
      (watermarkOrigin watermark base.size (drawnSize lib watermark base.size layer.size))
      canvas result := by
  obtain ⟨scaled, resized, ended⟩ := (Outcome.bind_ok_iff _ _ _).mp ended
  obtain ⟨rgba, copied, ended⟩ := (Outcome.bind_ok_iff _ _ _).mp ended
  obtain ⟨turned, rotated, ended⟩ := (Outcome.bind_ok_iff _ _ _).mp ended
  obtain ⟨position, placed, ended⟩ := (Outcome.bind_ok_iff _ _ _).mp ended
  obtain ⟨canvas', converted', ended⟩ := (Outcome.bind_ok_iff _ _ _).mp ended
  obtain ⟨shaded, drawn, composited⟩ := (Outcome.bind_ok_iff _ _ _).mp ended
  obtain rfl := Except.ok.inj (converted.symm.trans converted')
  have size : turned.size = drawnSize lib watermark base.size layer.size := by
    rw [scaleWatermark_eq] at resized
    have scaledIs := resize_size lib layer _ _ scaled resized
    have turnedIs := congrArg Shape.size ((turnWatermark_endsWhen ..).of_ok rotated)
    have rgbaIs : rgba.size = scaledSize watermark base.size layer.size :=
      (toColor_size lib copied).trans scaledIs
    exact turnedIs.trans (congrArg (turnedSize lib watermark) rgbaIs)
  have origin := (watermarkPosition_endsWhen ..).of_ok placed
  rw [← size, ← origin]
  apply (drawShadow_overlaid composites drawn).trans
  exact compositeOver_overlaid composites (mt (clampUnit_eq_nan_iff _).mp number) composited

/-- `wm:1:soea`, with a shadow. -/
def cornerWatermark : WatermarkQuery where
  opacity := F32.one
  position := .southEast
  xOffset := F32.zero
  yOffset := F32.zero
  scale := F32.zero
  url := none
  size := none
  rotate := F32.zero
  shadow := some F32.one

theorem applyWatermark_overlaid_corner :
    ∃ result, applyWatermark .pixels cornerWatermark darkSquare brightDot = .ok result ∧
      Overlaid (.floored 1 1) (1, 1) darkSquare result := by
  have origin : watermarkOrigin cornerWatermark darkSquare.size brightDot.size = (1, 1) := by
    decide +kernel
  have fits : PositionFits cornerWatermark darkSquare.size brightDot.size := by
    rw [PositionFits, origin]
    unfold CoordinateFits
    decide
  have ended :
      ∃ result, applyWatermark .pixels cornerWatermark darkSquare brightDot = .ok result := by
    change ∃ result,
      (watermarkPosition cornerWatermark darkSquare.size brightDot.size >>= _) = .ok result
    rw [watermarkPosition_ok _ _ fits, origin]
    exact ⟨_, rfl⟩
  obtain ⟨result, ended⟩ := ended
  have overlaid := applyWatermark_overlaid ⟨rfl, rfl⟩ FloatVal.noConfusion rfl ended
  have size : drawnSize .pixels cornerWatermark darkSquare.size brightDot.size = .floored 1 1 := by
    decide +kernel
  rw [size] at overlaid
  exact ⟨result, ended, origin ▸ overlaid⟩

end Layers

end ImageResizer
