import ImageResizer.Foundation.FloatVal
import ImageResizer.Foundation.Rounding

/-!
# Double-precision arithmetic

The operations on floating-point values that pixel arithmetic is made of, with the
results a double holds.  Widening a single to a double changes no value, so both kinds
of operand are a `FloatVal`.  The exponent range is unbounded here: products and
quotients of pixel counts and single-precision factors stay well inside it.
-/

/-- The double nearest to a magnitude. -/
def double (value : NNRat) : NNRat := Rounding.nearest 53 value

/-- The double nearest to a signed value. -/
def doubleSigned (value : Rat) : Rat :=
  if value < 0 then -(double (-value).toNNRat : Rat) else double value.toNNRat

namespace FloatVal

def ofNat (n : Nat) : FloatVal := .finite false n

/-- The value with its sign, for finite values. -/
def signed (negative : Bool) (magnitude : NNRat) : Rat :=
  if negative then -magnitude else magnitude

def mul : FloatVal → FloatVal → FloatVal
  | .nan, _ | _, .nan => .nan
  | .inf first, .inf second => .inf (first != second)
  | .inf first, .finite second magnitude =>
      if magnitude = 0 then .nan else .inf (first != second)
  | .finite first magnitude, .inf second =>
      if magnitude = 0 then .nan else .inf (first != second)
  | .finite first magnitude, .finite second factor =>
      .finite (first != second) (double (magnitude * factor))

/-- `<`, which is false when either side is NaN. -/
def less : FloatVal → FloatVal → Bool
  | .nan, _ | _, .nan => false
  | .inf first, .inf second => first && !second
  | .inf first, .finite _ _ => first
  | .finite _ _, .inf second => !second
  | .finite first magnitude, .finite second other =>
      decide (signed first magnitude < signed second other)

/-- `f64::max`: a NaN loses to any other value. -/
def max : FloatVal → FloatVal → FloatVal
  | .nan, second => second
  | first, .nan => first
  | first, second => if first.less second then second else first

/-- `f64::round`: halves go away from zero. -/
def round : FloatVal → FloatVal
  | .finite negative magnitude => .finite negative (Rounding.halfUp magnitude)
  | other => other

def ceil : FloatVal → FloatVal
  | .finite false magnitude => .finite false ⌈magnitude⌉₊
  | .finite true magnitude => .finite true ⌊magnitude⌋₊
  | other => other

/-- `as` to an unsigned integer type whose largest value is given: NaN and everything
negative become zero, and what is too large becomes the largest. -/
def toUnsigned (largest : Nat) : FloatVal → Nat
  | .nan => 0
  | .inf negative => if negative then 0 else largest
  | .finite true _ => 0
  | .finite false magnitude => min largest ⌊magnitude⌋₊

/-- `as` to a signed integer type of the given range. -/
def toSigned (smallest largest : Int) : FloatVal → Int
  | .nan => 0
  | .inf negative => if negative then smallest else largest
  | .finite true magnitude => Max.max smallest (-(⌊magnitude⌋₊ : Int))
  | .finite false magnitude => min largest (⌊magnitude⌋₊ : Int)

def isFinite : FloatVal → Bool
  | .finite _ _ => true
  | _ => false

/-- `(0.0..=1.0).contains`, which is false of NaN. -/
def withinUnit : FloatVal → Bool
  | .finite negative magnitude =>
      (!negative || decide (magnitude = 0)) && decide (magnitude ≤ 1)
  | _ => false

/-- `abs() >= 1.0`. -/
def atLeastOne : FloatVal → Bool
  | .nan => false
  | .inf _ => true
  | .finite _ magnitude => decide (1 ≤ magnitude)

/-- `!= 0.0`, which holds of NaN. -/
def nonzero : FloatVal → Bool
  | .finite _ magnitude => decide (magnitude ≠ 0)
  | _ => true

/-- `<= 0.0`. -/
def nonpositive : FloatVal → Bool
  | .nan => false
  | .inf negative => negative
  | .finite negative magnitude => negative || decide (magnitude = 0)

/-- The magnitude of `clamp(0.0, 1.0)`; NaN stays NaN. -/
def unitClamp : FloatVal → Option NNRat
  | .nan => none
  | .inf negative => some (if negative then 0 else 1)
  | .finite true _ => some 0
  | .finite false magnitude => some (min magnitude 1)

/-- `clamp(0.0, 1.0)`. -/
def clampUnit (value : FloatVal) : FloatVal :=
  match value.unitClamp with
  | none => .nan
  | some magnitude => .finite false magnitude

theorem clampUnit_clampUnit (value : FloatVal) : value.clampUnit.clampUnit = value.clampUnit := by
  have clamped {magnitude : NNRat} (small : magnitude ≤ 1) :
      (finite false magnitude).clampUnit = .finite false magnitude :=
    congrArg (finite false) (min_eq_left small)
  cases value with
  | nan => rfl
  | inf negative => cases negative <;> rfl
  | finite negative magnitude =>
      cases negative with
      | true => exact clamped zero_le_one
      | false => exact clamped (min_le_right _ _)

theorem mul_finite (first second : NNRat) :
    mul (.finite false first) (.finite false second) =
      .finite false (double (first * second)) := rfl

theorem max_finite_false (first second : NNRat) :
    max (.finite false first) (.finite false second) = .finite false (Max.max first second) := by
  simp only [max, less, signed, Bool.false_eq_true, if_false, decide_eq_true_eq,
    NNRat.cast_lt]
  split
  case isTrue below => rw [max_eq_right below.le]
  case isFalse above => rw [max_eq_left (not_lt.mp above)]

end FloatVal
