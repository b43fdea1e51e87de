import Routing.Decimal
import Routing.Text.Alphabet

/-!
The numbers of JSON: whole numbers of 64 bits, and binary numbers of 64 bits for all others.

A number is read from its digits in steps: as many of them as fit into 64 bits are a whole number,
which is then multiplied or divided by a power of ten. The digits after those no longer count. This
is exact for whole numbers and for short numerals; for long ones the result may be off by the last
bit. A number is written with the fewest digits that denote it.

    1   -3        whole
    1.0   1e5     binary, written with a point or an exponent
-/

namespace Routing.Json

open Text

/-- A number; a binary one is given by its bits. -/
inductive Number where
  | whole (value : Int)
  | binary (bits : UInt64)
  deriving DecidableEq, Repr, Inhabited

/-- The text of a number, taken apart. -/
structure Numeral where
  negative : Bool
  /-- The digits before the point. -/
  digits : List Char
  /-- The digits after the point, if there is one. -/
  fraction : Option (List Char)
  /-- The exponent, if there is one: whether it is negative, and its digits. -/
  exponent : Option (Bool × List Char)
  deriving DecidableEq, Repr

namespace Numeral

/-- Takes digits into a whole number as long as it fits into 64 bits. Gives the number, how many
digits were taken, and the digits that are left. -/
def absorb (n count : Nat) : List Char → Nat × Nat × List Char
  | [] => (n, count, [])
  | c :: cs =>
    if n * 10 + hexValue c < 0x10000000000000000 then absorb (n * 10 + hexValue c) (count + 1) cs
    else (n, count, c :: cs)

/-- A power of ten as a binary number. -/
def power (n : Nat) : Float := Float.ofScientific 1 false n

/-- Multiplies or divides by a power of ten, in steps of at most 308. `none` stands for a number
that is too large. The fuel bounds the number of steps. -/
def scale : (fuel : Nat) → Float → Int → Option Float
  | 0, f, _ => some f
  | fuel + 1, f, e =>
    if e.natAbs ≤ 308 then
      if 0 ≤ e then
        let f := f * power e.natAbs
        if f.isInf then none else some f
      else some (f / power e.natAbs)
    else if f == 0 then some f
    else if 0 ≤ e then none
    else scale fuel (f / power 308) (e + 308)

/-- The binary number `± n · 10 ^ e`. -/
def toBinary (negative : Bool) (n : Nat) (e : Int) : Option Number :=
  (scale 16 n.toUInt64.toFloat e).map fun f => .binary (if negative then -f else f).toBits

/-- Adds the exponent of the text to the one found so far. An exponent that does not fit into 31
bits makes the number zero or too large. -/
def withExponent (x : Numeral) (n : Nat) (e : Int) : Option Number :=
  match x.exponent with
  | none => toBinary x.negative n e
  | some (below, ds) =>
    let k := ds.foldl (fun k c => k * 10 + hexValue c) 0
    if k < 0x80000000 then
      toBinary x.negative n (if below then max (e - k) (-0x80000000) else min (e + k) 0x7FFFFFFF)
    else if n != 0 && !below then none
    else some (.binary (if x.negative then -0.0 else 0.0 : Float).toBits)

/-- The number that the text denotes. `none` stands for a number that is too large. -/
def toNumber? (x : Numeral) : Option Number :=
  let (n, _, left) := absorb 0 0 x.digits
  match x.fraction with
  | some ds =>
    let (n, count, _) := absorb n 0 ds
    x.withExponent n ((left.length : Int) - count)
  | none =>
    if x.exponent.isSome || !left.isEmpty then x.withExponent n left.length
    else if !x.negative then some (.whole n)
    else if n = 0 || n > 0x8000000000000000 then toBinary true n 0
    else some (.whole (-n))

end Numeral

/-- Digits with a point in the place that the exponent says, or else with an exponent, which is
used from `10 ^ 16` on and below `10 ^ -5`. -/
def decimalText (n : Decimal.Numeral) : String :=
  let ds := Nat.toDigits 10 n.digits
  let point := (ds.length : Int) + n.exponent
  let zeros (k : Int) := List.replicate k.toNat '0'
  String.ofList <|
    if 0 ≤ n.exponent ∧ point ≤ 16 then ds ++ zeros n.exponent ++ ['.', '0']
    else if 0 < point ∧ point ≤ 16 then ds.take point.toNat ++ '.' :: ds.drop point.toNat
    else if -5 < point ∧ point ≤ 0 then '0' :: '.' :: zeros (-point) ++ ds
    else
      let mantissa := match ds with
        | [d] => [d]
        | d :: rest => d :: '.' :: rest
        | [] => []
      let e := point - 1
      mantissa ++ 'e' :: (if 0 ≤ e then '+' else '-') :: Nat.toDigits 10 e.natAbs

/-- The text of the number with these bits. -/
def binaryText (bits : UInt64) : String :=
  let sign := if bits < 0x8000000000000000 then "" else "-"
  if bits &&& 0x7FFFFFFFFFFFFFFF = 0 then sign ++ "0.0"
  else sign ++ decimalText (Decimal.shortest (.ofBits bits))

/-- The text of a number. -/
def Number.text : Number → String
  | whole n => toString n
  | binary bits => binaryText bits

end Routing.Json
