/-!
Quotients of natural numbers: exact values between integers and written numbers.
-/
namespace SpanLexer

/-- A quotient; the denominator is meant to be positive. -/
structure Ratio where
  numerator : Nat
  denominator : Nat
  deriving DecidableEq, Repr

namespace Ratio

/-- A natural number. -/
def ofNat (n : Nat) : Ratio := ⟨n, 1⟩

/-- A quotient times a power, which may have a negative exponent. -/
def scale (ratio : Ratio) (base : Nat) (exponent : Int) : Ratio :=
  ⟨ratio.numerator * Nat.pow base exponent.toNat,
    ratio.denominator * Nat.pow base (-exponent).toNat⟩

/-- The greatest natural number that does not exceed a quotient. -/
def floor (ratio : Ratio) : Nat :=
  ratio.numerator / ratio.denominator

/-- The nearest natural number, a tie going to the even one. -/
def round (ratio : Ratio) : Nat :=
  let rest := 2 * (ratio.numerator % ratio.denominator)
  if ratio.denominator < rest ∨ (rest = ratio.denominator ∧ ratio.floor % 2 = 1) then
    ratio.floor + 1
  else ratio.floor

/-- The exponent of the greatest power of two that does not exceed a positive quotient. Between
the lengths of its terms it is off by one at most. -/
def order (ratio : Ratio) : Int :=
  let guess : Int := (ratio.numerator.log2 : Int) - ratio.denominator.log2
  if 0 < (ratio.scale 2 (-guess)).floor then guess else guess - 1

end Ratio

end SpanLexer
