/-!
Numbers in decimal digits.

A whole number may be given a least number of digits.

A binary number of 64 bits gets the shortest numeral that reads back as it. It stands for all reals
that round to it, an interval around its value. For one digit, two digits and so on, the two
numerals of that many digits next to the value are tried, until one lies in the interval. If both
do, the nearer one is taken. All of this is arithmetic on natural numbers.

            low                value                 high
    ─────────┼───────────────────┼────────────────────┼─────
       │                   │                    │              numerals of n digits
-/

namespace Routing.Decimal

/-- A number with at least `width` digits; zeros stand before it if it has fewer. -/
def padded (width n : Nat) : String :=
  let digits := Nat.toDigits 10 n
  String.ofList (List.replicate (width - digits.length) '0' ++ digits)

/-! ### The shortest numeral -/

/-- The number `digits · 10 ^ exponent`. -/
structure Numeral where
  digits : Nat
  exponent : Int
  deriving DecidableEq, Repr

/-- A positive binary number as `mantissa · 2 ^ exponent`; `even` says whether the ends of its
interval belong to it, and `narrow` whether the number below it is half as far away. -/
structure Binary where
  mantissa : Nat
  exponent : Int
  even : Bool
  narrow : Bool
  deriving DecidableEq, Repr

/-- The finite number with these bits, without its sign. -/
def Binary.ofBits (bits : UInt64) : Binary :=
  let fraction : Nat := (bits &&& 0xFFFFFFFFFFFFF).toNat
  let e : Nat := (bits >>> 52 &&& 0x7FF).toNat
  if e = 0 then ⟨fraction, -1074, fraction % 2 == 0, false⟩
  else ⟨0x10000000000000 + fraction, (e : Int) - 1075, fraction % 2 == 0, fraction == 0 && e > 1⟩

/-- `n · base ^ e` as a fraction. -/
def scaled (n base : Nat) (e : Int) : Nat × Nat :=
  if 0 ≤ e then (n * base.pow e.toNat, 1) else (n, base.pow (-e).toNat)

/-- Is the fraction `p` less than the fraction `q`? -/
def less (p q : Nat × Nat) : Bool := p.1 * q.2 < q.1 * p.2

/-- The greatest `n` with `n · 10 ^ e` at most the fraction. -/
def floorAt (e : Int) (q : Nat × Nat) : Nat :=
  let unit := scaled 1 10 e
  q.1 * unit.2 / (q.2 * unit.1)

/-- Counts up from a guess to the least exponent whose power of ten exceeds the fraction. -/
def raise (q : Nat × Nat) : (fuel : Nat) → (e : Int) → Int
  | 0, e => e
  | fuel + 1, e => if less q (scaled 1 10 e) then e else raise q fuel (e + 1)

/-- The exponent of the least power of ten that exceeds the fraction. -/
def magnitude (q : Nat × Nat) : Int :=
  raise q 8 (((q.1.log2 : Int) - q.2.log2) * 30103 / 100000 - 2)

/-- The numerals of a grid next to the value that lie in its interval: the nearer one of them. -/
def nearest? (low value high : Nat × Nat) (even : Bool) (e : Int) : Option Nat :=
  let inside (n : Nat) : Bool :=
    let x := scaled n 10 e
    if even then !less x low && !less high x else less low x && less x high
  let below := floorAt e value
  let above := below + 1
  match inside below && below != 0, inside above with
  | false, false => none
  | true, false => some below
  | false, true => some above
  | true, true =>
    -- twice the value against the middle of the two
    let middle := scaled (below + above) 10 e
    let twice := (value.1 * 2, value.2)
    if less twice middle then some below
    else if less middle twice then some above
    else if below % 2 == 0 then some below else some above

/-- Tries one digit more at a time. -/
def search (low value high : Nat × Nat) (even : Bool) (top : Int) :
    (fuel count : Nat) → Numeral
  | 0, count => ⟨floorAt (top - count) value, top - count⟩
  | fuel + 1, count =>
    match nearest? low value high even (top - count) with
    | some n => ⟨n, top - count⟩
    | none => search low value high even top fuel (count + 1)

/-- Drops the zeros at the end of the digits. -/
def Numeral.trim (n : Numeral) : (fuel : Nat) → Numeral
  | 0 => n
  | fuel + 1 =>
    if n.digits % 10 == 0 && n.digits != 0 then
      Numeral.trim ⟨n.digits / 10, n.exponent + 1⟩ fuel
    else n

/-- The shortest numeral for a positive binary number. -/
def shortest (b : Binary) : Numeral :=
  let bound (quarters : Nat) := scaled quarters 2 (b.exponent - 2)
  let value := bound (4 * b.mantissa)
  let low := bound (4 * b.mantissa - if b.narrow then 1 else 2)
  let high := bound (4 * b.mantissa + 2)
  (search low value high b.even (magnitude value) 17 1).trim 20

end Routing.Decimal
