import ImageResizer.Blending.Singles
import ImageResizer.NoPanic.Geometry
import ImageResizer.Transform

/-!
# Flattening in single precision

`flatten_onto_background` weighs two channels in `f32`.  An exact weighted mean of two
channels by an alpha has the odd denominator 255, so it is never a tie, and the errors on the
way are too small to reach one: the channels are those of exact arithmetic.
-/

namespace ImageResizer

open Rounding

section Flatten

/-- A channel over a background, rounded once and half up: what the blend is meant to be. -/
def exactBlend (alpha channel background : UInt8) : UInt8 :=
  .ofNat ((2 * (channel.toNat * alpha.toNat + background.toNat * (255 - alpha.toNat)) + 255) / 510)

variable (alpha channel background : UInt8)

/-- A channel is at most 255, so an error in its weight counts 255 times at most. -/
theorem scaled_near {weight exact error : Rat} {channel : UInt8} (near : |weight - exact| ≤ error) :
    |channel.toNat * weight - channel.toNat * exact| ≤ 255 * error := by
  rw [← mul_sub, abs_mul, abs_of_nonneg (Nat.cast_nonneg _)]
  apply mul_le_mul _ near (abs_nonneg _) (by norm_num)
  exact_mod_cast toNat_le channel

/-- A product of a channel and a weight, rounded. -/
theorem single_scaled_near {weight : NNRat} (small : weight ≤ 1) (channel : UInt8) :
    |(single (channel.toNat * weight) : Rat) - channel.toNat * weight| ≤
      255 / 2 ^ 23 + 1 / 2 ^ 140 := by
  have bounded : ((channel.toNat * weight : NNRat) : Rat) ≤ 255 := by
    have product : (channel.toNat : NNRat) * weight ≤ 255 * 1 :=
      mul_le_mul' (by exact_mod_cast toNat_le channel) small
    exact_mod_cast product.trans_eq (mul_one _)
  have near := single_near bounded
  push_cast at near
  exact near

theorem single_scaled_le {weight : NNRat} (small : weight ≤ 1) (channel : UInt8) :
    single (channel.toNat * weight) ≤ 255 := by
  have product : (channel.toNat : NNRat) * weight ≤ (255 : Nat) * 1 :=
    mul_le_mul' (by exact_mod_cast toNat_le channel) small
  rw [mul_one] at product
  exact_mod_cast single_le_natCast product (by norm_num)

/-- The blend of `flatten_onto_background`, before it is rounded to a channel. -/
def flattenMean (alpha channel background : UInt8) : NNRat :=
  let opacity := single (alpha.toNat / (255 : Nat))
  single (single (channel.toNat * opacity) + single (background.toNat * single (1 - opacity)))

/-- One rounding after another, it stays nearer to the exact blend than that is to a tie. -/
theorem flattenMean_near :
    |(flattenMean alpha channel background : Rat) -
      (channel.toNat * alpha.toNat + background.toNat * (255 - alpha.toNat) : Nat) / (255 : Nat)| <
      1 / (2 * (255 : Nat)) := by
  have alphaSmall := toNat_le alpha
  have fraction : ((alpha.toNat / 255 : NNRat) : Rat) ≤ 1 := by
    push_cast
    rw [div_le_one (by norm_num)]
    exact_mod_cast alphaSmall
  have opacityNear := single_near fraction
  have opacitySmall : single (alpha.toNat / 255) ≤ 1 := single_le_one (by exact_mod_cast fraction)
  dsimp only [flattenMean]
  generalize single (alpha.toNat / 255) = opacity at opacityNear opacitySmall ⊢
  have restSmall : single (1 - opacity) ≤ 1 := single_le_one tsub_le_self
  have opacityNonneg : (0 : Rat) ≤ opacity := opacity.2
  have restBound : ((1 - opacity : NNRat) : Rat) ≤ 1 := by
    rw [NNRat.coe_sub opacitySmall]
    push_cast
    linarith
  have restNear := single_near restBound
  rw [NNRat.coe_sub opacitySmall] at restNear
  generalize single (1 - opacity) = rest at restNear restSmall ⊢
  have channelNear := single_scaled_near opacitySmall channel
  have backgroundNear := single_scaled_near restSmall background
  have channelBound := single_scaled_le opacitySmall channel
  have backgroundBound := single_scaled_le restSmall background
  generalize single (channel.toNat * opacity) = drawn at channelNear channelBound ⊢
  generalize single (background.toNat * rest) = shown at backgroundNear backgroundBound ⊢
  have sumBound : ((drawn + shown : NNRat) : Rat) ≤ 510 := by
    have sum := add_le_add channelBound backgroundBound
    norm_num at sum
    exact_mod_cast sum
  have sumNear := single_near sumBound
  generalize single (drawn + shown) = mean at sumNear ⊢
  have restExact : |(rest : Rat) - (1 - alpha.toNat / 255)| ≤ 2 * (1 / 2 ^ 23 + 1 / 2 ^ 140) := by
    push_cast at opacityNear restNear
    rw [abs_le] at opacityNear restNear ⊢
    constructor <;> linarith
  push_cast at opacityNear
  have channelExact := @scaled_near _ _ _ channel opacityNear
  have backgroundExact := @scaled_near _ _ _ background restExact
  have exact_ : ((channel.toNat * alpha.toNat + background.toNat * (255 - alpha.toNat) : Nat) : Rat)
      / (255 : Nat) =
      channel.toNat * (alpha.toNat / 255) + background.toNat * (1 - alpha.toNat / 255) := by
    rw [Nat.cast_add, Nat.cast_mul, Nat.cast_mul, Nat.cast_sub alphaSmall]
    push_cast
    ring
  rw [exact_]
  push_cast at sumNear ⊢
  calc |(mean : Rat) - (channel.toNat * (alpha.toNat / 255) +
          background.toNat * (1 - alpha.toNat / 255))|
      ≤ 510 / 2 ^ 23 + 1 / 2 ^ 140 + 2 * (255 / 2 ^ 23 + 1 / 2 ^ 140) +
          3 * (255 * (1 / 2 ^ 23 + 1 / 2 ^ 140)) := by
        rw [abs_le] at *
        constructor <;> linarith
    _ < 1 / (2 * 255) := by norm_num

theorem flattenChannel_eq :
    Imaging.pixels.flattenChannel alpha channel background =
      exactBlend alpha channel background := by
  have rounded := halfUp_of_near (by decide) (flattenMean_near alpha channel background)
  change toChannel (flattenMean alpha channel background) = _
  rw [toChannel, rounded, exactBlend]
  congr 1
  apply min_eq_right
  have channelSmall := toNat_le channel
  have backgroundSmall := toNat_le background
  have alphaSmall := toNat_le alpha
  apply Nat.lt_succ_iff.mp
  rw [Nat.div_lt_iff_lt_mul (by norm_num)]
  have weighed :
      channel.toNat * alpha.toNat + background.toNat * (255 - alpha.toNat) ≤ 255 * 255 := by
    calc channel.toNat * alpha.toNat + background.toNat * (255 - alpha.toNat)
        ≤ 255 * alpha.toNat + 255 * (255 - alpha.toNat) := by gcongr
      _ = 255 * 255 := by omega
  omega

/-- A pixel over a background. -/
def exactFlatten (background : Rgb) (pixel : Rgba8) : Rgba8 :=
  ⟨exactBlend pixel.a pixel.r background.r, exactBlend pixel.a pixel.g background.g,
    exactBlend pixel.a pixel.b background.b, 255⟩

theorem exactBlend_full : exactBlend 255 channel background = channel := by
  have channelSmall := toNat_le channel
  have whole : (2 * (channel.toNat * (255 : UInt8).toNat +
      background.toNat * (255 - (255 : UInt8).toNat)) + 255) / 510 = channel.toNat := by
    change (2 * (channel.toNat * 255 + background.toNat * 0) + 255) / 510 = _
    omega
  rw [exactBlend, whole, UInt8.ofNat_toNat]

theorem exactBlend_clear : exactBlend 0 channel background = background := by
  have backgroundSmall := toNat_le background
  have whole : (2 * (channel.toNat * (0 : UInt8).toNat +
      background.toNat * (255 - (0 : UInt8).toNat)) + 255) / 510 = background.toNat := by
    change (2 * (channel.toNat * 0 + background.toNat * 255) + 255) / 510 = _
    omega
  rw [exactBlend, whole, UInt8.ofNat_toNat]

/-- The two cases that `flatten_onto_background` sets apart are cases of the blend. -/
theorem flattenPixel_eq (background : Rgb) (pixel : Rgba8) :
    flattenPixel .pixels background pixel = exactFlatten background pixel := by
  unfold flattenPixel exactFlatten
  split
  case isTrue full =>
      obtain ⟨r, g, b, a⟩ := pixel
      subst full
      simp only [exactBlend_full]
  case isFalse =>
      split
      case isTrue clear => simp only [clear, exactBlend_clear]
      case isFalse => simp only [flattenChannel_eq]

theorem through_rgb8 (background : Rgb) (pixel : Rgba8) :
    (exactFlatten background pixel).through .rgb8 = exactFlatten background pixel := rfl

/-- A picture is flattened as exact arithmetic would flatten it. -/
theorem flattenOntoBackground_exact {image flat : Raster PixelGrid} {background : Rgb}
    (ended : flattenOntoBackground .pixels image background = .ok flat) :
    flat.size = image.size ∧ flat.color = .rgb8 ∧
      ∀ x y, flat.content x y = exactFlatten background (image.content x y) := by
  obtain ⟨rgba, converted, ended⟩ := (Outcome.bind_ok_iff _ _ _).mp ended
  obtain ⟨_, _, ended⟩ := (Outcome.bind_ok_iff _ _ _).mp ended
  obtain rfl := Except.ok.inj ended
  have same : rgba.size = image.size ∧ rgba.content = image.content := by
    unfold Raster.toRgba8 Raster.toColor at converted
    split at converted
    case isTrue =>
        obtain rfl := Except.ok.inj converted
        exact ⟨rfl, rfl⟩
    case isFalse =>
        obtain ⟨_, _, converted⟩ := (Outcome.bind_ok_iff _ _ _).mp converted
        obtain rfl := Except.ok.inj converted
        exact ⟨rfl, rfl⟩
  refine ⟨same.1, rfl, fun x y => ?_⟩
  change (flattenPixel .pixels background (rgba.content x y)).through .rgb8 = _
  rw [flattenPixel_eq, through_rgb8, same.2]

/-- A translucent pixel, on its own. -/
def translucentDot : Raster PixelGrid where
  size := .floored 1 1
  color := .rgba8
  content := fun _ _ => ⟨200, 100, 0, 128⟩

theorem flattenOntoBackground_exact_translucent :
    ∃ flat, flattenOntoBackground .pixels translucentDot ⟨255, 255, 255⟩ = .ok flat ∧
      flat.content 0 0 = ⟨227, 177, 127, 255⟩ := by
  refine ⟨_, rfl, ?_⟩
  rw [(@flattenOntoBackground_exact translucentDot _ _ rfl).2.2]
  decide

end Flatten

end ImageResizer
