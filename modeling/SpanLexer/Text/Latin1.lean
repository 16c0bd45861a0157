/-!
Octets and characters: the 256 octets stand for the first 256 characters.

`decode` is total and `encode?` is its partial inverse, so an octet sequence can be read as text
and a literal can be compared with octets without decoding them.
-/
namespace SpanLexer.Latin1

/-- The character an octet stands for. -/
def decode (octet : UInt8) : Char :=
  Char.ofUInt8 octet

/-- The octet of a character, which only the first 256 characters have. -/
def encode? (unit : Char) : Option UInt8 :=
  if unit.toNat < 256 then some (UInt8.ofNat unit.toNat) else none

/-- The octets of a text, when every one of its characters has one. -/
def encodeAll? : List Char → Option (List UInt8)
  | [] => some []
  | unit :: rest =>
    match encode? unit, encodeAll? rest with
    | some octet, some octets => some (octet :: octets)
    | _, _ => none

/-- The octets of a text whose characters all have one; any other character counts modulo 256. -/
def octets (text : List Char) : List UInt8 :=
  text.map fun unit => UInt8.ofNat unit.toNat

theorem toNat_decode (octet : UInt8) : (decode octet).toNat = octet.toNat := by
  exact UInt8.toNat_toUInt32 octet

theorem encode?_decode (octet : UInt8) : encode? (decode octet) = some octet := by
  have small := octet.toNat_lt
  simp only [encode?, toNat_decode]
  rw [if_pos (by omega)]
  simp

theorem decode_of_encode? {unit : Char} {octet : UInt8} (encoded : encode? unit = some octet) :
    decode octet = unit := by
  unfold encode? at encoded
  split at encoded
  · rename_i small
    cases encoded
    apply Char.toNat_inj.mp
    rw [toNat_decode]
    simp
    omega
  · cases encoded

end SpanLexer.Latin1
