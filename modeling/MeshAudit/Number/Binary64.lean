import MeshAudit.Text.Integer

/-!
# Double-precision numbers

A number with a fractional part is a double-precision value, kept as its sign and its magnitude
word, whose lower fifty-two bits are the fraction and whose upper eleven the exponent. All
arithmetic is exact: a ratio of whole numbers is rounded once, to the nearest value and to the
even one of two.
-/

namespace MeshAudit

/-- A double-precision value. -/
structure Binary64 where
  /-- The sign, which a zero has as well. -/
  negative : Bool
  /-- Exponent field and fraction as one word. -/
  magnitude : Nat
  deriving DecidableEq, Repr

namespace Binary64

/-- Weight of the exponent field in the magnitude word. -/
def fieldUnit : Nat := Nat.pow 2 52

/-- Magnitude word of the infinities; larger words stand for no number. -/
def infinityWord : Nat := 2047 * fieldUnit

/-- Whether the value is a real number. -/
def isFinite (x : Binary64) : Bool := x.magnitude < infinityWord

/-- Whether the value stands for no number. -/
def isNaN (x : Binary64) : Bool := infinityWord < x.magnitude

/-- The infinity of a sign. -/
def infinity (negative : Bool) : Binary64 := ⟨negative, infinityWord⟩

/-- The value that stands for no number. -/
def nan : Binary64 := ⟨false, infinityWord + fieldUnit / 2⟩

/-- The zero of a sign. -/
def zero (negative : Bool) : Binary64 := ⟨negative, 0⟩

/-- Whole significand of a finite value. -/
def significand (x : Binary64) : Nat :=
  if x.magnitude < fieldUnit then x.magnitude else fieldUnit + x.magnitude % fieldUnit

/-- Power of two that the significand of a finite value is multiplied by. -/
def exponent (x : Binary64) : Int := (max 1 (x.magnitude / fieldUnit) : Nat) - 1075

/-- A count of units of a power of a base, as numerator and denominator. -/
def powerRatio (base count : Nat) (exponent : Int) : Nat × Nat :=
  if 0 ≤ exponent then (count * base.pow exponent.toNat, 1)
  else (count, base.pow (-exponent).toNat)

/-- Absolute value of a finite number as numerator and denominator. -/
def ratio (x : Binary64) : Nat × Nat := powerRatio 2 x.significand x.exponent

/-- The whole number nearest to a ratio, the even one of two. -/
def roundHalfEven (num den : Nat) : Nat :=
  let quotient := num / den
  let rest := num % den
  if 2 * rest < den ∨ (2 * rest = den ∧ quotient % 2 = 0) then quotient else quotient + 1

/-- The ratio measured in units of a power of two. -/
def inUnits (num den : Nat) (exponent : Int) : Nat × Nat :=
  if 0 ≤ exponent then (num, den * Nat.pow 2 exponent.toNat)
  else (num * Nat.pow 2 (-exponent).toNat, den)

/-- The nearest double-precision value to a ratio of a sign; too large a ratio is infinite. The unit
is chosen so that the significand has fifty-three bits, or is the smallest one. -/
def ofRatio (negative : Bool) (num den : Nat) : Binary64 :=
  if num = 0 then zero negative
  else
    let guess : Int := max ((num.log2 : Int) - den.log2 - 53) (-1074)
    let (n, d) := inUnits num den guess
    let exponent := if n / d < Nat.pow 2 53 then guess else guess + 1
    let (n, d) := inUnits num den exponent
    -- rounding up to the next power of two carries into the exponent field by itself
    ⟨negative, min infinityWord ((exponent + 1074).toNat * fieldUnit + roundHalfEven n d)⟩

/-- Number of decimal digits of a whole number. -/
def digitCount (n : Nat) : Nat := (Nat.toDigits 10 n).length

/-- The nearest double-precision value to a decimal number given by its digits and power of ten.
Powers far outside the range are not computed. -/
def ofDecimal (negative : Bool) (digits : Nat) (exponent : Int) : Binary64 :=
  let size := digitCount digits + exponent
  if digits = 0 ∨ size < -400 then zero negative
  else if 400 < size then infinity negative
  else
    let (num, den) := powerRatio 10 digits exponent
    ofRatio negative num den

/-- The rounded product of two finite values. -/
def mul (x y : Binary64) : Binary64 :=
  ofRatio (x.negative != y.negative) (x.ratio.1 * y.ratio.1) (x.ratio.2 * y.ratio.2)

/-- The rounded quotient of two finite values, the second not zero. -/
def div (x y : Binary64) : Binary64 :=
  ofRatio (x.negative != y.negative) (x.ratio.1 * y.ratio.2) (x.ratio.2 * y.ratio.1)

/-- The value with the opposite sign. -/
def neg (x : Binary64) : Binary64 := { x with negative := !x.negative }

/-- The value as a signed 64-bit integer: the fraction is dropped, a value outside the range gives
the nearer end, and no number gives zero. -/
def toInt64 (x : Binary64) : Int :=
  if x.isNaN then 0
  else
    let (num, den) := x.ratio
    let whole : Int := (num / den : Nat)
    max Text.minInt64 (min Text.maxInt64 (if x.negative then -whole else whole))

/-- Equality of values: the two zeros are equal, and all values that stand for no number are. -/
def sameValue (x y : Binary64) : Bool :=
  (x.isNaN && y.isNaN) || (x.magnitude == 0 && y.magnitude == 0) || x == y

end Binary64

end MeshAudit
