import SpanLexer.Fault

/-!
Spans: the part of a sequence between two positions.

A span is two numbers and nothing checks them. Read against a sequence, a negative position counts
from the end, one past either end is taken as that end, and a span that ends before it starts is
empty.
-/
namespace SpanLexer

/-- The part from `start` up to, and without, `stop`. -/
structure Span where
  start : Int
  stop : Int
  deriving DecidableEq, Repr

namespace Span

/-- The greatest length a span can be asked for: what a signed number of 64 bits can hold. -/
def maxLength : Int := 9223372036854775807

/-- The number of units a span covers, when that is a length at all. -/
def length? (span : Span) : Except Fault Nat :=
  if span.stop - span.start < 0 then .error .lengthNegative
  else if maxLength < span.stop - span.start then .error .lengthOverflow
  else .ok (span.stop - span.start).toNat

/-- Where a position lies in a sequence of the given size. -/
def clip (size : Nat) (position : Int) : Nat :=
  if position < 0 then (position + size).toNat else min position.toNat size

/-- The part of a sequence a span stands for. -/
def slice {α : Type} (span : Span) (sequence : List α) : List α :=
  let low := clip sequence.length span.start
  (sequence.drop low).take (clip sequence.length span.stop - low)

/-- A span as it is written. -/
def render (span : Span) : String :=
  s!"Span(start={span.start}, end={span.stop})"

end Span

end SpanLexer
