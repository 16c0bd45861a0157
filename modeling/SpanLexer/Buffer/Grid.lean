import SpanLexer.Span

/-!
Grids: items arranged in rows along a first dimension.

A view or an array is sliced, stepped through and assigned by its rows. With one dimension a row
is one item; without any there are no rows to speak of, only the one item.
-/
namespace SpanLexer

/-- Rows of items, as octets. -/
structure Grid where
  dimensions : Nat
  rowItems : Nat
  rows : List (List UInt8)

/-- Consecutive parts of the given size; a part that would be short is left out. -/
def chunks {α : Type} (size : Nat) (sequence : List α) : List (List α) :=
  (List.range (sequence.length / size)).map fun index =>
    (sequence.drop (index * size)).take size

/-- The items that remain when, after the first `skip` ones, all but every `gap + 1`st is left
out. -/
def everyNth {α : Type} (gap : Nat) : Nat → List α → List α
  | _, [] => []
  | 0, item :: rest => item :: everyNth gap gap rest
  | skip + 1, _ :: rest => everyNth gap skip rest

/-- Every `step`th item from the front, or from the back when the step is negative. -/
def stride {α : Type} (step : Int) (items : List α) : List α :=
  everyNth (step.natAbs - 1) 0 (if step < 0 then items.reverse else items)

/-- The place an index stands for; a negative one counts from the end. -/
def place? (size : Nat) (index : Int) : Option Nat :=
  let position := if index < 0 then index + size else index
  if 0 ≤ position ∧ position < size then some position.toNat else none

namespace Grid

/-- The number of items a shape holds. -/
def extent (shape : List Nat) : Nat :=
  shape.foldl (· * ·) 1

/-- Items in the given shape, or in a single dimension. -/
def ofItems (items : List (List UInt8)) : Option (List Nat) → Grid
  | none => ⟨1, 1, items⟩
  | some [] => ⟨0, 1, items⟩
  | some (_ :: inner) =>
    ⟨inner.length + 1, extent inner, (chunks (extent inner) items).map List.flatten⟩

/-- All octets, row after row. -/
def contents (grid : Grid) : List UInt8 :=
  grid.rows.flatten

/-- Every `step`th row. -/
def pick (grid : Grid) (step : Int) : Grid :=
  ⟨grid.dimensions, grid.rowItems, stride step grid.rows⟩

/-- The octets of the rows a span stands for. -/
def slice (grid : Grid) (span : Span) : List UInt8 :=
  (span.slice grid.rows).flatten

/-- The grid with every item of one row replaced. -/
def fill (grid : Grid) (row : Nat) (item : List UInt8) : Grid :=
  ⟨grid.dimensions, grid.rowItems,
    grid.rows.set row (List.replicate grid.rowItems item).flatten⟩

end Grid

end SpanLexer
