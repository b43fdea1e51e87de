/-!
Sets of code points, kept as ascending ranges that do not touch.

The character tables of this library are written down as text, one range after another in
hexadecimal (`"30-39 41-5A 5F"`), and read once by `CodeSet.ofText`. Membership is a binary search,
so a table of some hundred ranges costs about ten comparisons.

    ranges:   [30,39]   [41,5A]   [5F,5F]
                 ▲
    50 ──▶ middle first: [41,5A] holds it
-/

namespace Routing.Text

/-- An inclusive range of code points. -/
structure CodeRange where
  lo : Nat
  hi : Nat
  deriving DecidableEq, Repr, Inhabited

/-- A set of code points: its ranges, in ascending order. -/
structure CodeSet where
  ranges : Array CodeRange
  deriving DecidableEq, Repr, Inhabited

/-- The value of a hexadecimal digit; any other character counts as zero. -/
def hexValue (c : Char) : Nat :=
  if '0' ≤ c ∧ c ≤ '9' then c.toNat - '0'.toNat
  else if 'A' ≤ c ∧ c ≤ 'F' then c.toNat - 'A'.toNat + 10
  else if 'a' ≤ c ∧ c ≤ 'f' then c.toNat - 'a'.toNat + 10
  else 0

namespace CodeSet

/-- Where the reader of a table stands: the finished ranges, the lower end read before a hyphen,
and the number being read. -/
structure Reading where
  finished : Array CodeRange
  lower : Option Nat
  value : Option Nat

/-- Ends the range being read, if there is one. -/
def Reading.finish (r : Reading) : Array CodeRange :=
  match r.lower, r.value with
  | some lo, some hi => r.finished.push ⟨lo, hi⟩
  | none, some n => r.finished.push ⟨n, n⟩
  | _, none => r.finished

/-- Reads one character of a table. -/
def Reading.step (r : Reading) (c : Char) : Reading :=
  if c == ' ' || c == '\n' then ⟨r.finish, none, none⟩
  else if c == '-' then ⟨r.finished, r.value, none⟩
  else { r with value := some (r.value.getD 0 * 16 + hexValue c) }

/-- Reads a table written as hexadecimal ranges with blanks or ends of lines between them. -/
def ofText (text : String) : CodeSet :=
  ⟨(text.toList.foldl Reading.step ⟨#[], none, none⟩).finish⟩

/-- Searches the ranges with index in `[lo, hi)`; the fuel bounds the number of halvings. -/
def search (ranges : Array CodeRange) (n : Nat) : (fuel lo hi : Nat) → Bool
  | 0, _, _ => false
  | fuel + 1, lo, hi =>
    if lo < hi then
      match ranges[(lo + hi) / 2]? with
      | none => false
      | some r =>
        if n < r.lo then search ranges n fuel lo ((lo + hi) / 2)
        else if r.hi < n then search ranges n fuel ((lo + hi) / 2 + 1) hi
        else true
    else false

/-- Is the character in the set? -/
def contains (s : CodeSet) (c : Char) : Bool :=
  search s.ranges c.toNat (s.ranges.size + 1) 0 s.ranges.size

/-- The number of ranges. -/
def size (s : CodeSet) : Nat := s.ranges.size

end CodeSet

end Routing.Text
