import SpanLexer.Span
import SpanLexer.Text.Latin1

/-!
Buffers: the sequences of units that patterns are matched against.

A buffer holds characters or octets. Either way its units are characters, an octet being read as
Latin-1; `units` is that view. The operations that patterns use (`unit?`, `holdsAt`, `textOf`)
work on what is stored, so a literal is encoded rather than the octets decoded.
-/
namespace SpanLexer

/-- How octets are stored: fixed once and for all, growable in place, seen through a view, or held
in a numeric array. -/
inductive Storage where
  | fixed
  | growable
  | view
  | array
  deriving DecidableEq, Repr

/-- A sequence of units. -/
inductive Buffer where
  | text (characters : List Char)
  | octets (storage : Storage) (contents : List UInt8)
  deriving DecidableEq

namespace Buffer

/-- What the type of a buffer is called. -/
def typeName : Buffer → String
  | .text _ => "str"
  | .octets .fixed _ => "bytes"
  | .octets .growable _ => "bytearray"
  | .octets .view _ => "memoryview"
  | .octets .array _ => "ndarray"

/-- The number of units. -/
def size : Buffer → Nat
  | .text characters => characters.length
  | .octets _ contents => contents.length

/-- The units of a buffer, whatever it stores. -/
def units : Buffer → List Char
  | .text characters => characters
  | .octets _ contents => contents.map Latin1.decode

/-- The unit at a position. -/
def unit? : Buffer → Nat → Option Char
  | .text characters, position => characters[position]?
  | .octets _ contents, position => contents[position]?.map Latin1.decode

/-- Whether a literal stands at a position. Characters are compared up to the limit; octets are
compared as far as the literal reaches, and a literal that has no octets stands nowhere. -/
def holdsAt (position limit : Nat) (literal : List Char) : Buffer → Bool
  | .text characters => literal.isPrefixOf ((characters.drop position).take (limit - position))
  | .octets _ contents =>
    match Latin1.encodeAll? literal with
    | none => false
    | some encoded => (contents.drop position).take encoded.length == encoded

/-- The units a span stands for. -/
def textOf (span : Span) : Buffer → List Char
  | .text characters => span.slice characters
  | .octets _ contents => (span.slice contents).map Latin1.decode

theorem length_units (buffer : Buffer) : buffer.units.length = buffer.size := by
  cases buffer <;> simp [units, size]

theorem unit?_eq_getElem? (buffer : Buffer) (position : Nat) :
    buffer.unit? position = buffer.units[position]? := by
  cases buffer <;> simp [unit?, units]

theorem textOf_eq_slice (buffer : Buffer) (span : Span) :
    buffer.textOf span = span.slice buffer.units := by
  cases buffer <;> simp [textOf, units, Span.slice, List.map_take, List.map_drop]

end Buffer

end SpanLexer
