import ImageResizer.Foundation.FloatVal
import ImageResizer.Foundation.Rounding
import ImageResizer.Foundation.Text

/-!
# Reading numerals

`str::parse` at the signed integer types and at the floating-point types.  A decimal
numeral denotes a rational; a format then holds the nearest value it has, ties to even,
with gradual underflow and overflow to infinity.
-/

namespace BinaryFloat

variable {precision : Nat} {low high : Int}

/-- The value of the format nearest to a magnitude, with this sign. -/
def round (positive : 0 < precision) (negative : Bool) (magnitude : NNRat) :
    BinaryFloat precision low high :=
  let place := max (Rounding.lastPlace precision magnitude) low
  let mantissa := Rounding.nearestEven (magnitude / ((2 : Nat) : NNRat) ^ place)
  if fits : mantissa < 2 ^ precision ∧ place ≤ high then
    ⟨.finite negative (mantissa * ((2 : Nat) : NNRat) ^ place),
      mantissa, place, fits.1, le_max_right _ _, fits.2, by push_cast; rfl⟩
  else if carried : mantissa = 2 ^ precision ∧ place + 1 ≤ high then
    -- Rounding up filled the mantissa, which moves to the next exponent.
    ⟨.finite negative ((2 ^ (precision - 1) : Nat) * ((2 : Nat) : NNRat) ^ (place + 1)),
      2 ^ (precision - 1), place + 1, Nat.pow_lt_pow_right (by decide) (by omega),
      (le_max_right (Rounding.lastPlace precision magnitude) low).trans (by omega), carried.2, by push_cast; rfl⟩
  else ⟨.inf negative, trivial⟩

end BinaryFloat

namespace Text

/-- A leading sign and what follows it. -/
def takeSign : List Char → Bool × List Char
  | '-' :: rest => (true, rest)
  | '+' :: rest => (false, rest)
  | text => (false, text)

/-- `str::parse` of a signed integer type with this range. -/
def parseSigned (smallest largest : Int) (s : List Char) : Option Int :=
  let (negative, digits) := takeSign s
  if digits ≠ [] ∧ digits.all Char.isDigit then
    let magnitude : Int := Nat.ofDigitChars 10 digits 0
    let value := if negative then -magnitude else magnitude
    if smallest ≤ value ∧ value ≤ largest then some value else none
  else none

/-- What a floating-point numeral says, before any rounding. -/
inductive FloatNumeral where
  | nan
  | infinity (negative : Bool)
  | number (negative : Bool) (magnitude : NNRat)

/-- The decimal exponent after the digits: absent, or an `e` and a signed integer. -/
def parseExponent : List Char → Option Int
  | [] => some 0
  | c :: rest =>
      let (negative, digits) := takeSign rest
      if (c = 'e' ∨ c = 'E') ∧ digits ≠ [] ∧ digits.all Char.isDigit then
        let magnitude : Int := Nat.ofDigitChars 10 digits 0
        some (if negative then -magnitude else magnitude)
      else none

/-- Digits with at most one point, at least one digit, and an exponent. -/
def parseMagnitude (s : List Char) : Option NNRat := do
  let whole := s.takeWhile Char.isDigit
  let rest := s.dropWhile Char.isDigit
  let afterPoint := if rest.head? = some '.' then rest.tail else []
  let fraction := afterPoint.takeWhile Char.isDigit
  let tail := if rest.head? = some '.' then afterPoint.dropWhile Char.isDigit else rest
  let exponent ← if whole = [] ∧ fraction = [] then none else parseExponent tail
  some (Nat.ofDigitChars 10 (whole ++ fraction) 0 * ((10 : Nat) : NNRat) ^ (exponent - fraction.length))

def parseFloatNumeral (s : List Char) : Option FloatNumeral :=
  let (negative, body) := takeSign s
  match String.ofList (body.map Char.toLower) with
  | "nan" => some .nan
  | "inf" | "infinity" => some (.infinity negative)
  | _ => (parseMagnitude body).map (.number negative)

/-- `str::parse` of a floating-point type. -/
def parseFloat {precision : Nat} {low high : Int} (positive : 0 < precision) (s : List Char) :
    Option (BinaryFloat precision low high) :=
  (parseFloatNumeral s).map fun
    | .nan => ⟨.nan, trivial⟩
    | .infinity negative => ⟨.inf negative, trivial⟩
    | .number negative magnitude => .round positive negative magnitude

end Text

/-- `str::parse::<f32>`. -/
def F32.parse (s : List Char) : Option F32 := Text.parseFloat (by decide) s

/-- `str::parse::<f64>`. -/
def F64.parse (s : List Char) : Option F64 := Text.parseFloat (by decide) s

example : Text.parseSigned (-2 ^ 31) (2 ^ 31 - 1) "-90".toList = some (-90) := by decide
