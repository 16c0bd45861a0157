import SpanLexer.Number.Ratio

/-!
Binary floating point formats, and the number of a format that is nearest to a quotient.

A number of a format has as many significant bits as fit behind the least exponent; a quotient is
rounded to the nearest of them, a tie going to the even one. One that exceeds the greatest exponent
is infinite.
-/
namespace SpanLexer

/-- A binary floating point format: a sign, an exponent and a fraction. -/
structure BinaryFormat where
  exponentBits : Nat
  fractionBits : Nat
  deriving DecidableEq, Repr

/-- The number `significand * 2 ^ exponent`. -/
structure Binary where
  significand : Nat
  exponent : Int
  deriving DecidableEq, Repr

/-- The exact value. -/
def Binary.ratio (number : Binary) : Ratio :=
  (Ratio.ofNat number.significand).scale 2 number.exponent

namespace BinaryFormat

/-- Sixteen bits. -/
def half : BinaryFormat := ⟨5, 10⟩

/-- Thirty-two bits. -/
def single : BinaryFormat := ⟨8, 23⟩

/-- Sixty-four bits. -/
def double : BinaryFormat := ⟨11, 52⟩

/-- The number of octets. -/
def size (format : BinaryFormat) : Nat :=
  (1 + format.exponentBits + format.fractionBits) / 8

/-- What is added to an exponent when it is stored; also the greatest exponent of a leading bit. -/
def bias (format : BinaryFormat) : Nat :=
  Nat.pow 2 (format.exponentBits - 1) - 1

/-- The least exponent of a last bit. -/
def leastExponent (format : BinaryFormat) : Int :=
  1 - (format.bias : Int) - format.fractionBits

/-- The significand that has only its leading bit. -/
def unit (format : BinaryFormat) : Nat :=
  Nat.pow 2 format.fractionBits

/-- The number of the format that is nearest to a quotient, as if exponents had no upper end. -/
def nearest (format : BinaryFormat) (ratio : Ratio) : Binary :=
  let aligned := ratio.order - format.fractionBits
  let exponent := if aligned < format.leastExponent then format.leastExponent else aligned
  let significand := (ratio.scale 2 (-exponent)).round
  if significand = 2 * format.unit then ⟨format.unit, exponent + 1⟩ else ⟨significand, exponent⟩

/-- Whether a number of the format is below its upper end. -/
def isFinite (format : BinaryFormat) (number : Binary) : Bool :=
  number.exponent + format.fractionBits ≤ format.bias

/-- A number of the format as it is stored, without its sign. A significand without the leading bit
stands with the least exponent, which is stored as zero. -/
def bits (format : BinaryFormat) (number : Binary) : Nat :=
  if number.significand < format.unit then number.significand
  else if format.isFinite number then
    (number.exponent - format.leastExponent + 1).toNat * format.unit +
      (number.significand - format.unit)
  else (2 * format.bias + 1) * format.unit

end BinaryFormat

end SpanLexer
