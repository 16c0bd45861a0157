import SpanLexer.Buffer
import SpanLexer.Buffer.Grid
import SpanLexer.Buffer.Item

/-!
Sources: what may be offered as a buffer.

Texts and octets are buffers as they are. A view is one when it has a single dimension and is
either on octets or without gaps; an array when it is a one dimensional array of octets; plain
data never. A source that is no buffer can still be divided by its rows, and growable octets,
views and arrays can be changed after a cursor has been put on them.
-/
namespace SpanLexer

/-- The item format of a view, by its one letter code. -/
structure Format where
  code : Char
  deriving DecidableEq, Repr

namespace Format

/-- The format of plain octets. -/
def octet : Format := ⟨'B'⟩

/-- What the items are; an unknown code stands for octets. -/
def itemType (format : Format) : ItemType :=
  (ItemType.ofCode? format.code).getD (.unsigned 1)

end Format

/-- A view on stored octets. -/
structure View where
  grid : Grid
  format : Format
  contiguous : Bool

/-- A numeric array. -/
structure NumericArray where
  grid : Grid
  elementType : String

/-- Anything that may be offered as a buffer. -/
inductive Source where
  | text (characters : List Char)
  | fixed (contents : List UInt8)
  | growable (contents : List UInt8)
  | view (seen : View)
  | array (held : NumericArray)
  | datum (value : Datum)

namespace View

/-- A view on octets, in turn cast to a format, given a shape and taken in steps. A shape brings
back the octet format; steps count rows and leave no gaps when they are 1 or pick one row. -/
def ofOctets (octets : List UInt8) (format : Option Format) (shape : Option (List Nat))
    (step : Option Int) : Except SourceFault View := do
  let cast := format.getD .octet
  if octets.length % cast.itemType.size ≠ 0 then throw .viewItemBroken
  match shape with
  | none => pure ()
  | some extents =>
    if octets.isEmpty then throw .viewNothingShaped
    if extents.contains 0 then throw .viewShapeEmpty
    if Grid.extent extents ≠ octets.length then throw .viewShapeMismatch
  let format := if shape.isSome then .octet else cast
  let grid := Grid.ofItems (chunks format.itemType.size octets) shape
  match step with
  | none => return ⟨grid, format, true⟩
  | some step =>
    if grid.dimensions = 0 then throw .viewScalar
    if step = 0 then throw .stepZero
    let picked := grid.pick step
    return ⟨picked, format, step = 1 || picked.rows.length = 1⟩

/-- Assigns one item. -/
def assign (view : View) (index value : Int) : Except SourceFault View := do
  if view.grid.dimensions = 0 then throw .viewScalar
  if 1 < view.grid.dimensions then throw .viewRowAssigned
  match place? view.grid.rows.length index with
  | none => throw .viewIndexOutside
  | some row =>
    if view.format.itemType = .character then throw (.viewType view.format.code)
    match view.format.itemType.encode? value with
    | none => throw (.viewValue view.format.code)
    | some item => return ⟨view.grid.fill row item, view.format, view.contiguous⟩

end View

namespace NumericArray

/-- What the items are; an unknown name stands for octets. -/
def itemType (array : NumericArray) : ItemType :=
  (ItemType.ofName? array.elementType).getD (.unsigned 1)

/-- An array of octets, in turn converted to an element type, given a shape and taken in steps. -/
def ofOctets (octets : List UInt8) (elementType : String) (shape : Option (List Nat))
    (step : Option Int) : Except SourceFault NumericArray := do
  let type := (ItemType.ofName? elementType).getD (.unsigned 1)
  match shape with
  | none => pure ()
  | some extents =>
    if Grid.extent extents ≠ octets.length then throw (.arrayShapeMismatch octets.length extents)
  let grid := Grid.ofItems (octets.map type.ofOctet) shape
  match step with
  | none => return ⟨grid, elementType⟩
  | some step =>
    if grid.dimensions = 0 then throw .arrayScalar
    if step = 0 then throw .stepZero
    return ⟨grid.pick step, elementType⟩

/-- The reason why an item cannot hold a value. -/
def refusal (array : NumericArray) (value : Int) : SourceFault :=
  match array.itemType with
  | .binary _ => .arrayOverflow
  | .complex _ => .arrayOverflow
  | _ => .arrayInteger value array.elementType

/-- Assigns all items of one row. -/
def assign (array : NumericArray) (index value : Int) : Except SourceFault NumericArray := do
  if array.grid.dimensions = 0 then throw .arrayScalar
  match place? array.grid.rows.length index with
  | none => throw (.arrayIndexOutside index array.grid.rows.length)
  | some row =>
    match array.itemType.encode? value with
    | none => throw (array.refusal value)
    | some item => return ⟨array.grid.fill row item, array.elementType⟩

end NumericArray

namespace Source

/-- What a source is made of, before it is made. -/
inductive Offer where
  | text (characters : List Char)
  | fixed (octets : List UInt8)
  | growable (octets : List UInt8)
  | view (octets : List UInt8) (format : Option Format) (shape : Option (List Nat))
      (step : Option Int)
  | array (octets : List UInt8) (elementType : String) (shape : Option (List Nat))
      (step : Option Int)
  | datum (value : Datum)

/-- Why a source is not accepted as a buffer, if it is not. -/
def refusal? : Source → Option SourceFault
  | .text _ => none
  | .fixed _ => none
  | .growable _ => none
  | .view seen =>
    if seen.grid.dimensions ≠ 1 then some (.viewDimensions seen.grid.dimensions)
    else if seen.format ≠ .octet ∧ !seen.contiguous then some .viewWithGaps
    else none
  | .array held =>
    if held.grid.dimensions ≠ 1 ∨ held.elementType ≠ "uint8" then
      some (.arrayUnsupported held.grid.dimensions held.elementType)
    else none
  | .datum value => some (.notBuffer value.typeName)

/-- What a source holds now, seen as a buffer. -/
def contents : Source → Buffer
  | .text characters => .text characters
  | .fixed octets => .octets .fixed octets
  | .growable octets => .octets .growable octets
  | .view seen => .octets .view seen.grid.contents
  | .array held => .octets .array held.grid.contents
  | .datum _ => .text []

/-- The buffer a source makes, if it is accepted as one. -/
def buffer (source : Source) : Except Fault Buffer :=
  match source.refusal? with
  | some why => .error (.source why)
  | none => .ok source.contents

/-- What a span of the source itself stands for: a span of its characters, octets or rows. -/
def part (span : Span) : Source → Except SourceFault (List Char)
  | .view seen =>
    if seen.grid.dimensions = 0 then .error .viewScalar
    else .ok ((seen.grid.slice span).map Latin1.decode)
  | .array held =>
    if held.grid.dimensions = 0 then .error .arrayScalar
    else .ok ((held.grid.slice span).map Latin1.decode)
  | .datum value => .error (.notDivisible value.typeName)
  | source => .ok (source.contents.textOf span)

/-- Assigns one octet, item or row in place. -/
def poke (index value : Int) : Source → Except Fault Source
  | .text _ => .error (.source (.notAssignable "str"))
  | .fixed _ => .error (.source (.notAssignable "bytes"))
  | .growable octets =>
    match (ItemType.unsigned 1).encode? value, place? octets.length index with
    | some [octet], some position => .ok (.growable (octets.set position octet))
    | some _, _ => .error .unitGone
    | none, _ => .error (.source .notOctet)
  | .view seen =>
    match seen.assign index value with
    | .ok changed => .ok (.view changed)
    | .error why => .error (.source why)
  | .array held =>
    match held.assign index value with
    | .ok changed => .ok (.array changed)
    | .error why => .error (.source why)
  | .datum value => .error (.source (.notAssignable value.typeName))

/-- Keeps the octets up to a position; a negative one counts from the end. Sources other than
growable octets keep their length. -/
def truncate (stop : Int) : Source → Source
  | .growable octets => .growable (octets.take (Span.clip octets.length stop))
  | source => source

/-- Puts octets at the end. Sources other than growable octets keep their length. -/
def extend (more : List UInt8) : Source → Source
  | .growable octets => .growable (octets ++ more)
  | source => source

namespace Offer

/-- The source that is offered, if it can be made. A datum that is a text is one like any text. -/
def make : Offer → Except SourceFault Source
  | .text characters => .ok (.text characters)
  | .fixed octets => .ok (.fixed octets)
  | .growable octets => .ok (.growable octets)
  | .view octets format shape step => (View.ofOctets octets format shape step).map .view
  | .array octets elementType shape step =>
    (NumericArray.ofOctets octets elementType shape step).map .array
  | .datum (.text value) => .ok (.text value.toList)
  | .datum value => .ok (.datum value)

end Offer

end Source

end SpanLexer
