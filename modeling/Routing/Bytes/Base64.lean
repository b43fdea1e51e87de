/-!
Bytes in Base64: three bytes become four digits of six bits. Where one or two bytes are left at the
end, the missing digits are `=`.

    bytes    01100101 00110000 ........
    digits   011001 010011 0000.. ......      Z T A =

Only what writing produces is read: the digits are complete, nothing stands between them, and the
bits that are left over are zero.
-/

namespace Routing.Bytes.Base64

/-- The digit of a value below 64. -/
def digit (n : Nat) : Char :=
  if n < 26 then Char.ofNat (65 + n)
  else if n < 52 then Char.ofNat (71 + n)
  else if n < 62 then Char.ofNat (n - 4)
  else if n = 62 then '+'
  else '/'

/-- The value of a digit. -/
def value? (c : Char) : Option Nat :=
  if 'A' ≤ c ∧ c ≤ 'Z' then some (c.toNat - 65)
  else if 'a' ≤ c ∧ c ≤ 'z' then some (c.toNat - 71)
  else if '0' ≤ c ∧ c ≤ '9' then some (c.toNat + 4)
  else if c = '+' then some 62
  else if c = '/' then some 63
  else none

/-- The four digits of three bytes. -/
def digits (a b c : Nat) : List Char :=
  [digit (a / 4), digit (a % 4 * 16 + b / 16), digit (b % 16 * 4 + c / 64), digit (c % 64)]

/-- Writes bytes. -/
def encode : List UInt8 → List Char
  | [] => []
  | [a] => (digits a.toNat 0 0).take 2 ++ ['=', '=']
  | [a, b] => (digits a.toNat b.toNat 0).take 3 ++ ['=']
  | a :: b :: c :: rest => digits a.toNat b.toNat c.toNat ++ encode rest

/-- The three bytes of four values below 64. -/
def bytes (a b c d : Nat) : List UInt8 :=
  [UInt8.ofNat (a * 4 + b / 16), UInt8.ofNat (b % 16 * 16 + c / 4), UInt8.ofNat (c % 4 * 64 + d)]

/-- Reads bytes. -/
def decode : List Char → Option (List UInt8)
  | [] => some []
  | [a, b, '=', '='] => do
    let a ← value? a
    let b ← value? b
    if b % 16 = 0 then return (bytes a b 0 0).take 1 else none
  | [a, b, c, '='] => do
    let a ← value? a
    let b ← value? b
    let c ← value? c
    if c % 4 = 0 then return (bytes a b c 0).take 2 else none
  | a :: b :: c :: d :: rest => do
    return bytes (← value? a) (← value? b) (← value? c) (← value? d) ++ (← decode rest)
  | _ => none

end Routing.Bytes.Base64
