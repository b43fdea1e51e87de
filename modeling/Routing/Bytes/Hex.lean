/-!
Bytes in hexadecimal, two digits of lower case for each.
-/

namespace Routing.Bytes

/-- A hexadecimal digit. -/
def hexChar (n : UInt8) : Char :=
  if n < 10 then Char.ofNat (48 + n.toNat) else Char.ofNat (87 + n.toNat)

/-- The digits of a byte. -/
def hexByte (b : UInt8) : List Char := [hexChar (b / 16), hexChar (b % 16)]

/-- The text of bytes in hexadecimal. -/
def hex (bytes : List UInt8) : String := String.ofList (bytes.flatMap hexByte)

/-- The bytes of a text in UTF-8. -/
def ofText (text : String) : List UInt8 := text.toUTF8.toList

/-- The text that the bytes are in UTF-8, if they are one. -/
def toText? (bytes : List UInt8) : Option String := String.fromUTF8? ⟨bytes.toArray⟩

/-- The lowest `count` bytes of a number, the lowest one first. -/
def littleEndian : (count : Nat) → Nat → List UInt8
  | 0, _ => []
  | count + 1, n => UInt8.ofNat (n % 256) :: littleEndian count (n / 256)

/-- The lowest `count` bytes of a number, the highest one first. -/
def bigEndian (count n : Nat) : List UInt8 := (littleEndian count n).reverse

end Routing.Bytes
