import SpanLexer.Buffer.Source

/-!
Cursors: a window of a buffer and a position in it.

The window, from `origin` up to `limit`, never changes; every move is checked against it, and a
refused move leaves the position where it was. `rest` is the view of what remains: the units from
the position up to the limit that are still in the buffer.
-/
namespace SpanLexer

/-- A position in a window of a buffer. -/
structure Cursor where
  buffer : Buffer
  origin : Nat
  position : Nat
  limit : Nat

namespace Cursor

/-- The position is in the window. -/
def Valid (cursor : Cursor) : Prop :=
  cursor.origin ≤ cursor.position ∧ cursor.position ≤ cursor.limit

/-- The window is still in the buffer. -/
def Inside (cursor : Cursor) : Prop :=
  cursor.Valid ∧ cursor.limit ≤ cursor.buffer.size

/-- A cursor at the start of a window. Without a stop the window reaches to the buffer's end. -/
def ofBuffer (buffer : Buffer) (start : Int) (stop : Option Int) : Except Fault Cursor :=
  let stop := stop.getD buffer.size
  if 0 ≤ start ∧ start ≤ stop ∧ stop ≤ buffer.size then
    .ok ⟨buffer, start.toNat, start.toNat, stop.toNat⟩
  else
    .error (.windowOutside start stop buffer.size)

/-- The same window at another position. -/
def moveTo (cursor : Cursor) (position : Nat) : Cursor :=
  ⟨cursor.buffer, cursor.origin, position, cursor.limit⟩

/-- The number of units up to the limit. -/
def remaining (cursor : Cursor) : Nat :=
  cursor.limit - cursor.position

/-- Moves to a position of the window. -/
def seek (cursor : Cursor) (target : Int) : Except Fault Cursor :=
  if cursor.origin ≤ target ∧ target ≤ cursor.limit then .ok (cursor.moveTo target.toNat)
  else .error (.seekOutside target cursor.origin cursor.limit)

/-- Consumes units. -/
def advance (cursor : Cursor) (amount : Int) : Except Fault Cursor :=
  if 0 ≤ amount ∧ amount ≤ cursor.remaining then
    .ok (cursor.moveTo (cursor.position + amount.toNat))
  else .error (.advanceOutside amount cursor.remaining)

/-- The remaining unit of the given index. -/
def unitAt (cursor : Cursor) (index : Int) : Except Fault Char :=
  if 0 ≤ index ∧ index < cursor.remaining then
    match cursor.buffer.unit? (cursor.position + index.toNat) with
    | some unit => .ok unit
    | none => .error .unitGone
  else .error (.indexOutside index)

/-- Whether the remaining units start with a literal. -/
def startsWith (cursor : Cursor) (literal : List Char) : Bool :=
  literal.length ≤ cursor.remaining &&
    cursor.buffer.holdsAt cursor.position cursor.limit literal

/-- The span of everything consumed since the given position. -/
def spanFrom (cursor : Cursor) (position : Int) : Span :=
  ⟨position, cursor.position⟩

/-- The units that remain, as far as the buffer still holds them. -/
def rest (cursor : Cursor) : List Char :=
  cursor.buffer.textOf ⟨cursor.position, cursor.limit⟩

/-- A cursor as it is written. -/
def render (cursor : Cursor) : String :=
  s!"Cursor(position={cursor.position}, remaining=" ++ Quoted.quote cursor.rest ++ ")"

@[simp] theorem moveTo_position (cursor : Cursor) (position : Nat) :
    (cursor.moveTo position).position = position := rfl

@[simp] theorem moveTo_moveTo (cursor : Cursor) (first second : Nat) :
    (cursor.moveTo first).moveTo second = cursor.moveTo second := rfl

@[simp] theorem moveTo_self (cursor : Cursor) : cursor.moveTo cursor.position = cursor := rfl

end Cursor

end SpanLexer
