import Mathlib

/-!
# Floating-point values

The values of a binary floating-point type: signed rational magnitudes, the two
infinities and one NaN.  Zero keeps its sign.  A format is fixed by its precision
and exponent range, and a value of the format carries the proof that its magnitude
is representable in it, so widening to a larger format is the identity on values.
-/

/-- A floating-point datum, of any format. -/
inductive FloatVal where
  | nan
  | inf (negative : Bool)
  | finite (negative : Bool) (magnitude : NNRat)
  deriving DecidableEq

namespace FloatVal

/-- `x > 0.0`, which is false of NaN and of both zeros. -/
def isPositive : FloatVal → Bool
  | .nan => false
  | .inf negative => !negative
  | .finite negative magnitude => !negative && decide (0 < magnitude)

/-- The magnitude is an integer of at most `precision` bits scaled by a power of two
whose exponent lies in the range. -/
def Representable (precision : Nat) (low high : Int) : FloatVal → Prop
  | .nan | .inf _ => True
  | .finite _ magnitude =>
      ∃ (mantissa : Nat) (exponent : Int), mantissa < 2 ^ precision ∧
        low ≤ exponent ∧ exponent ≤ high ∧
        (magnitude : Rat) = mantissa * (2 : Rat) ^ exponent

end FloatVal

/-- The values of one binary format. -/
structure BinaryFloat (precision : Nat) (low high : Int) where
  value : FloatVal
  representable : value.Representable precision low high
  deriving DecidableEq

/-- `f32`. -/
abbrev F32 := BinaryFloat 24 (-149) 104

/-- `f64`. -/
abbrev F64 := BinaryFloat 53 (-1074) 971

namespace BinaryFloat

variable {precision : Nat} {low high : Int}

@[ext]
theorem ext {first second : BinaryFloat precision low high}
    (same : first.value = second.value) : first = second := by
  cases first
  cases second
  simpa using same

/-- A small natural number. -/
def ofNat (n : Nat) (small : n < 2 ^ precision) (range : low ≤ 0 ∧ 0 ≤ high) :
    BinaryFloat precision low high where
  value := .finite false n
  representable := ⟨n, 0, small, range.1, range.2, by simp⟩

end BinaryFloat
