import SpanLexer.Number.Binary

/-!
Decimals: how a floating point number is read and written.

A written decimal stands for the double nearest to it. A double is written with the fewest digits
that read back as the same double and, of those, the ones nearest to its value; positionally while
the point stands at most four zeros before or sixteen digits after the first digit, otherwise with
an exponent.
-/
namespace SpanLexer

/-- A decimal as it is written: `digits * 10 ^ exponent` with a sign. -/
structure Decimal where
  negative : Bool
  digits : Nat
  exponent : Int
  deriving DecidableEq, Repr

namespace Decimal

/-- The decimal digits of a number. -/
def numeral (n : Nat) : List Char :=
  Nat.toDigits 10 n

/-- Where the point stands, counted from the first digit. -/
def point (decimal : Decimal) : Int :=
  (numeral decimal.digits).length + decimal.exponent

/-- The exact value without its sign. -/
def ratio (decimal : Decimal) : Ratio :=
  (Ratio.ofNat decimal.digits).scale 10 decimal.exponent

/-- No double is as large as a decimal whose point stands further from its first digit, and none
but zero is as small as one whose point stands that far before it. -/
def farthest : Int := 400

/-- The double a decimal stands for, without its sign. -/
def double (decimal : Decimal) : Binary :=
  if decimal.digits = 0 ∨ decimal.point < -farthest then ⟨0, 0⟩
  else if farthest < decimal.point then ⟨1, farthest * 4⟩
  else BinaryFormat.double.nearest decimal.ratio

/-- Whether a decimal stands for zero. -/
def isZero (decimal : Decimal) : Bool :=
  decimal.double.significand = 0

/-- The decimals with the given exponent next to a double that read back as it: none, one, or the
nearer of two. -/
def nextTo? (number : Binary) (exponent : Int) : Option Decimal :=
  let steps := number.ratio.scale 10 (-exponent)
  let reads (digits : Nat) : Bool := (Decimal.mk false digits exponent).double = number
  match reads steps.floor, reads (steps.floor + 1) with
  | true, true => some ⟨false, steps.round, exponent⟩
  | true, false => some ⟨false, steps.floor, exponent⟩
  | false, true => some ⟨false, steps.floor + 1, exponent⟩
  | false, false => none

/-- The shortest decimal that reads back as a positive double. Seventeen digits are enough. -/
def shortest (number : Binary) : Decimal :=
  let raised := (number.ratio.scale 10 farthest).floor
  let leading : Int := (numeral raised).length - farthest
  let found := (List.range 17).findSome? fun (more : Nat) => nextTo? number (leading - 1 - more)
  found.getD ⟨false, (number.ratio.scale 10 (17 - leading)).round, leading - 17⟩

/-- Digits without the zeros at the end. -/
def significant (digits : List Char) : List Char :=
  (digits.reverse.dropWhile (· = '0')).reverse

/-- Digits with the point among them, before them or behind them. -/
def positional (digits : List Char) (point : Int) : List Char :=
  if point ≤ 0 then '0' :: '.' :: List.replicate (-point).toNat '0' ++ digits
  else if digits.length ≤ point then
    digits ++ List.replicate (point.toNat - digits.length) '0' ++ ['.', '0']
  else digits.take point.toNat ++ '.' :: digits.drop point.toNat

/-- Digits with the point behind the first, and an exponent of two digits at least. -/
def scientific (digits : List Char) (point : Int) : List Char :=
  let power := point - 1
  let written := numeral power.natAbs
  let fraction := if digits.length ≤ 1 then [] else '.' :: digits.drop 1
  digits.take 1 ++ fraction ++ ['e', if power < 0 then '-' else '+'] ++
    List.replicate (2 - written.length) '0' ++ written

/-- The double a decimal stands for, as it is written. -/
def render (decimal : Decimal) : String :=
  let number := decimal.double
  let sign := if decimal.negative then "-" else ""
  if number.significand = 0 then sign ++ "0.0"
  else if !BinaryFormat.double.isFinite number then sign ++ "inf"
  else
    let shown := shortest number
    let digits := significant (numeral shown.digits)
    let written := if -4 < shown.point ∧ shown.point ≤ 16 then positional digits shown.point
      else scientific digits shown.point
    sign ++ String.ofList written

end Decimal

end SpanLexer
