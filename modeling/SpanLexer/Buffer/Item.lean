import SpanLexer.Number.Binary

/-!
Items of views and arrays: how an integer is stored in a few octets.

An item is a truth value, a character, an integer of a fixed width, a binary floating point number
or a pair of those. Octets are stored least significant first. An integer that becomes a floating
point number is rounded to the nearest double and from there to the nearest number of the format,
a tie going to the even one.
-/
namespace SpanLexer

/-- The lowest `width` octets of a number, least significant first. -/
def littleEndian : Nat → Nat → List UInt8
  | 0, _ => []
  | width + 1, n => UInt8.ofNat n :: littleEndian width (n / 256)

/-- The octets of an integer in a binary format, unless it exceeds what a double can be. -/
def BinaryFormat.encode? (format : BinaryFormat) (n : Int) : Option (List UInt8) :=
  let first := double.nearest (.ofNat n.natAbs)
  if double.isFinite first then
    let magnitude := format.bits (format.nearest first.ratio)
    let sign := if n < 0 then Nat.pow 2 (format.exponentBits + format.fractionBits) else 0
    some (littleEndian format.size (sign + magnitude))
  else none

/-- What the items of a view or an array are. -/
inductive ItemType where
  | truth
  | character
  | signed (size : Nat)
  | unsigned (size : Nat)
  | binary (format : BinaryFormat)
  | complex (format : BinaryFormat)
  deriving DecidableEq, Repr

namespace ItemType

/-- The number of octets of one item. -/
def size : ItemType → Nat
  | .truth => 1
  | .character => 1
  | .signed size => size
  | .unsigned size => size
  | .binary format => format.size
  | .complex format => 2 * format.size

/-- The octets of an integer as an item, when the item can hold it. No integer is a character. -/
def encode? : ItemType → Int → Option (List UInt8)
  | .truth, n => some [if n = 0 then 0 else 1]
  | .character, _ => none
  | .signed size, n =>
    let bound : Int := Nat.pow 2 (8 * size - 1)
    if -bound ≤ n ∧ n < bound then
      some (littleEndian size (if n < 0 then n + 2 * bound else n).toNat)
    else none
  | .unsigned size, n =>
    let bound : Int := Nat.pow 2 (8 * size)
    if 0 ≤ n ∧ n < bound then some (littleEndian size n.toNat) else none
  | .binary format, n => format.encode? n
  | .complex format, n => (format.encode? n).map (· ++ littleEndian format.size 0)

/-- The octets of an octet that is converted to an item; a small signed item takes it as it is
stored. -/
def ofOctet (type : ItemType) (octet : UInt8) : List UInt8 :=
  (type.encode? octet.toNat).getD [octet]

/-- The item type of an array, by name. -/
def ofName? : String → Option ItemType
  | "bool" => some .truth
  | "int8" => some (.signed 1)
  | "int16" => some (.signed 2)
  | "int32" => some (.signed 4)
  | "int64" => some (.signed 8)
  | "uint8" => some (.unsigned 1)
  | "uint16" => some (.unsigned 2)
  | "uint32" => some (.unsigned 4)
  | "uint64" => some (.unsigned 8)
  | "float16" => some (.binary .half)
  | "float32" => some (.binary .single)
  | "float64" => some (.binary .double)
  | "complex64" => some (.complex .single)
  | "complex128" => some (.complex .double)
  | _ => none

/-- The item type of a view, by its one letter code. -/
def ofCode? : Char → Option ItemType
  | '?' => some .truth
  | 'c' => some .character
  | 'b' => some (.signed 1)
  | 'B' => some (.unsigned 1)
  | 'h' => some (.signed 2)
  | 'H' => some (.unsigned 2)
  | 'i' => some (.signed 4)
  | 'I' => some (.unsigned 4)
  | 'l' => some (.signed 8)
  | 'L' => some (.unsigned 8)
  | 'q' => some (.signed 8)
  | 'Q' => some (.unsigned 8)
  | 'n' => some (.signed 8)
  | 'N' => some (.unsigned 8)
  | 'f' => some (.binary .single)
  | 'd' => some (.binary .double)
  | _ => none

end ItemType

end SpanLexer
