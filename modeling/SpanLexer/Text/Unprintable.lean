import SpanLexer.Text.Unprintable.Ranges

/-!
Unprintable characters: those that have to be written by their code point to be seen.

The ranges are ascending, so a look-up ends at the first range that lies beyond the code point. For
the characters of a plain text that is one of the first.
-/
namespace SpanLexer.Unprintable

/-- All unprintable code points as closed ranges in ascending order. -/
def ranges : List (Nat × Nat) :=
  basicPlane ++ otherPlanes

/-- Whether one of the ascending ranges holds the code point. -/
def covers : List (Nat × Nat) → Nat → Bool
  | [], _ => false
  | (low, high) :: others, codePoint =>
    low ≤ codePoint && (codePoint ≤ high || covers others codePoint)

/-- Whether a character has to be written by its code point to be seen. -/
def holds (unit : Char) : Bool :=
  covers ranges unit.toNat

end SpanLexer.Unprintable
