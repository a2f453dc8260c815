import ImageResizer.Foundation.FloatArith
import ImageResizer.Foundation.Numeral

/-!
# Numerals that read as a finite value

A magnitude rounds to a finite value of a format as long as it stays half a last place
below the power of two past its largest value.  A numeral reads as a finite value when it
is a number of such a magnitude, and neither NaN nor an infinity by name.
-/

namespace FloatVal

/-- `>= 0.0`, which is false of NaN. -/
def nonnegative : FloatVal → Bool
  | .nan => false
  | .inf negative => !negative
  | .finite negative magnitude => !negative || decide (magnitude = 0)

/-- A finite value that is neither negative nor zero is positive. -/
theorem isPositive_of_nonzero {value : FloatVal} (finite : value.isFinite = true)
    (notNegative : value.less (.ofNat 0) = false) (nonzero : value.nonzero = true) :
    value.isPositive = true := by
  cases value with
  | nan => cases finite
  | inf negative => cases finite
  | finite negative magnitude =>
      have present : magnitude ≠ 0 := of_decide_eq_true nonzero
      have positive : 0 < magnitude := pos_iff_ne_zero.mpr present
      cases negative with
      | false => simpa [isPositive] using positive
      | true => simp [less, ofNat, signed, present] at notNegative

theorem nonnegative_of_finite {value : FloatVal} (finite : value.isFinite = true)
    (notNegative : value.less (.ofNat 0) = false) : value.nonnegative = true := by
  cases value with
  | nan => cases finite
  | inf negative => cases finite
  | finite negative magnitude =>
      cases negative with
      | false => rfl
      | true =>
          simp only [less, ofNat, signed] at notNegative
          simpa [nonnegative] using notNegative

end FloatVal

namespace Rounding

/-- A half on top of an odd number goes up, to the even one. -/
theorem nearestEven_odd_add_half {n : Nat} (odd : n % 2 = 1) :
    nearestEven ((n : NNRat) + 1 / 2) = n + 1 := by
  have floor : ⌊(n : NNRat) + 1 / 2⌋₊ = n := by
    apply (Nat.floor_eq_iff zero_le).mpr
    constructor
    · exact le_add_of_nonneg_right zero_le
    · exact add_lt_add_of_le_of_lt le_rfl (by norm_num)
  have rest : (n : NNRat) + 1 / 2 - n = 1 / 2 := add_tsub_cancel_left ..
  rw [nearestEven, floor, rest, if_neg (lt_irrefl _), if_neg (lt_irrefl _), if_neg]
  simp [odd]

/-- What rounds to less than an even number is more than a half below it. -/
theorem nearestEven_lt_iff {value : NNRat} {n : Nat} (positive : 0 < n) (even : n % 2 = 0) :
    nearestEven value < n ↔ value + 1 / 2 < n := by
  constructor
  · intro below
    by_contra reaches
    obtain ⟨before, rfl⟩ := Nat.exists_eq_add_of_lt positive
    rw [Nat.zero_add] at below even reaches
    have half : (before : NNRat) + 1 / 2 ≤ value := by
      have reached := not_lt.mp reaches
      rw [Nat.cast_add, Nat.cast_one, ← add_half_add_half] at reached
      exact le_of_add_le_add_right reached
    have least := nearestEven_mono half
    rw [nearestEven_odd_add_half (by omega)] at least
    exact absurd below (not_lt.mpr least)
  · intro below
    have near := (nearestEven_bounds value).1.trans_lt below
    exact_mod_cast near

end Rounding

namespace BinaryFloat

variable {precision : Nat} {low high : Int}

section Place

variable (magnitude : NNRat)

theorem magnitude_lt_zpow {place : Int} (reached : Rounding.lastPlace precision magnitude ≤ place) :
    magnitude < 2 ^ ((precision : Int) + place) := by
  have above := @Int.lt_zpow_succ_log_self NNRat _ _ _ _ 2 (by decide) magnitude
  have exponents : Int.log 2 magnitude + 1 ≤ (precision : Int) + place := by
    unfold Rounding.lastPlace at reached
    omega
  calc magnitude < 2 ^ (Int.log 2 magnitude + 1) := above
    _ ≤ 2 ^ ((precision : Int) + place) := zpow_le_zpow_right₀ (by norm_num) exponents

theorem zpow_le_magnitude {place : Int} (positive : 0 < precision) (nonnegative : 0 ≤ place)
    (past : place < Rounding.lastPlace precision magnitude) :
    2 ^ ((precision : Int) + place) ≤ magnitude := by
  rcases eq_or_ne magnitude 0 with rfl | nonzero
  case inl =>
      rw [Rounding.lastPlace, Int.log_zero_right] at past
      omega
  case inr =>
      have below : ((2 : Nat) : NNRat) ^ Int.log 2 magnitude ≤ magnitude :=
        Int.zpow_log_le_self (by decide) (pos_iff_ne_zero.mpr nonzero)
      have exponents : (precision : Int) + place ≤ Int.log 2 magnitude := by
        unfold Rounding.lastPlace at past
        omega
      calc (2 : NNRat) ^ ((precision : Int) + place)
          ≤ 2 ^ Int.log 2 magnitude := zpow_le_zpow_right₀ (by norm_num) exponents
        _ ≤ magnitude := below

end Place

/-- The result is finite unless the last place, with a carry into the next one, lies past the
largest exponent. -/
theorem round_isFinite_iff_place (positive : 0 < precision) (negative : Bool)
    (magnitude : NNRat) :
    (round positive negative magnitude : BinaryFloat precision low high).value.isFinite = true ↔
      max (Rounding.lastPlace precision magnitude) low < high ∨
        max (Rounding.lastPlace precision magnitude) low = high ∧
          Rounding.nearestEven (magnitude / 2 ^ high) < 2 ^ precision := by
  unfold round
  have mantissa : Rounding.nearestEven
      (magnitude / 2 ^ max (Rounding.lastPlace precision magnitude) low) ≤ 2 ^ precision := by
    have below := magnitude_lt_zpow magnitude (le_max_left (Rounding.lastPlace precision magnitude) low)
    rw [zpow_add₀ (by norm_num), zpow_natCast] at below
    have scaled := (div_lt_iff₀ (Rounding.two_zpow_pos _)).mpr below
    have rounded := Rounding.nearestEven_mono scaled.le
    have whole := Rounding.nearestEven_natCast (2 ^ precision)
    push_cast at whole
    rwa [whole] at rounded
  simp only [Nat.cast_ofNat]
  split
  case isTrue fits =>
      simp only [FloatVal.isFinite, true_iff]
      rcases fits.2.lt_or_eq with inside | last
      · exact Or.inl inside
      · have small := fits.1
        rw [last] at small
        exact Or.inr ⟨last, small⟩
  case isFalse misfit =>
      split
      case isTrue carried =>
          simp only [FloatVal.isFinite, true_iff]
          exact Or.inl (Int.lt_of_add_one_le carried.2)
      case isFalse past =>
          simp only [FloatVal.isFinite, Bool.false_eq_true, false_iff]
          rintro (inside | ⟨last, small⟩)
          · rcases mantissa.lt_or_eq with small | full
            · exact misfit ⟨small, inside.le⟩
            · exact past ⟨full, Int.add_one_le_of_lt inside⟩
          · rw [← last] at small
            exact misfit ⟨small, last.le⟩

/-- The magnitudes that do not round to an infinity. -/
theorem round_isFinite_iff (positive : 0 < precision) (range : low ≤ high ∧ 0 ≤ high)
    (negative : Bool) (magnitude : NNRat) :
    (round positive negative magnitude : BinaryFloat precision low high).value.isFinite = true ↔
      magnitude + 2 ^ (high - 1) < 2 ^ ((precision : Int) + high) := by
  rw [round_isFinite_iff_place]
  have halved : (2 : NNRat) ^ (high - 1) + 2 ^ (high - 1) = 2 ^ high := by
    rw [← two_mul, ← zpow_one_add₀ (by norm_num)]
    congr 1
    omega
  rcases lt_trichotomy (max (Rounding.lastPlace precision magnitude) low) high
    with inside | last | past
  · have below := magnitude_lt_zpow magnitude
      ((le_max_left _ _).trans (Int.le_sub_one_of_lt inside))
    have room : (2 : NNRat) ^ (high - 1) ≤ 2 ^ ((precision : Int) + (high - 1)) :=
      zpow_le_zpow_right₀ (by norm_num) (by omega)
    have doubled : (2 : NNRat) ^ ((precision : Int) + (high - 1)) +
        2 ^ ((precision : Int) + (high - 1)) = 2 ^ ((precision : Int) + high) := by
      rw [zpow_add₀ (by norm_num), ← mul_add, halved, ← zpow_add₀ (by norm_num)]
    simp only [inside, true_or, true_iff]
    rw [← doubled]
    exact add_lt_add_of_lt_of_le below room
  · have even : 2 ^ precision % 2 = 0 := by
      rw [Nat.pow_mod, Nat.mod_self, Nat.zero_pow positive, Nat.zero_mod]
    have unit := Rounding.two_zpow_pos high
    have half : (1 : NNRat) / 2 = 2 ^ (high - 1) / 2 ^ high := by
      rw [eq_div_iff unit.ne', ← halved]
      ring
    simp only [last, lt_irrefl, false_or, true_and]
    rw [Rounding.nearestEven_lt_iff (by positivity) even, half, ← add_div, div_lt_iff₀ unit,
      zpow_add₀ (by norm_num), zpow_natCast, Nat.cast_pow, Nat.cast_ofNat]
  · have place : high < Rounding.lastPlace precision magnitude := by
      rcases lt_max_iff.mp past with reached | lowest
      · exact reached
      · exact absurd lowest (not_lt.mpr range.1)
    have reached := zpow_le_magnitude magnitude positive range.2 place
    constructor
    · rintro (inside | ⟨last, _⟩)
      · exact absurd inside past.not_gt
      · exact absurd last past.ne'
    · intro below
      exact absurd (below.trans_le reached) (not_lt.mpr (le_add_of_nonneg_right zero_le))

end BinaryFloat

namespace F32

/-- The numeral is a number that `f32` does not round to an infinity. -/
def readsFinite (s : List Char) : Bool :=
  match Text.parseFloatNumeral s with
  | some (.number _ magnitude) => decide (magnitude + (2 ^ 103 : Nat) < (2 ^ 128 : Nat))
  | _ => false

/-- A numeral reads as a finite value exactly if it says a number below the overflow
threshold. -/
theorem parse_isFinite_iff {s : List Char} {value : F32} (parsed : parse s = some value) :
    value.value.isFinite = readsFinite s := by
  unfold parse Text.parseFloat at parsed
  unfold readsFinite
  cases numeral : Text.parseFloatNumeral s with
  | none =>
      rw [numeral] at parsed
      cases parsed
  | some numeral' =>
      rw [numeral] at parsed
      obtain rfl := Option.some.inj parsed
      cases numeral' with
      | nan => rfl
      | infinity negative => rfl
      | number negative magnitude =>
          have range := BinaryFloat.round_isFinite_iff
            (show 0 < 24 by decide) (show (-149 : Int) ≤ 104 ∧ (0 : Int) ≤ 104 by decide)
            negative magnitude
          apply Bool.eq_iff_iff.mpr
          rw [decide_eq_true_iff, Nat.cast_pow, Nat.cast_pow]
          exact range

end F32
