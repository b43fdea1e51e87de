import Routing.Text.CodeSet

/-!
Ascending lists of ranges that do not touch, as sets of code points. Such a list is determined by
its set, so two sets are equal when their lists are.

    41-5A, 61-7A   complement   0-40, 5B-60, 7B-10FFFF
-/

namespace Routing.Text

/-- The greatest code point. -/
def maxCode : Nat := 0x10FFFF

namespace RangeList

/-- Joins ranges that touch. The ranges ascend by their lower ends, and `current` is the one before
them. -/
def joinFrom (current : CodeRange) : List CodeRange → List CodeRange
  | [] => [current]
  | r :: rs =>
    if r.lo ≤ current.hi + 1 then joinFrom ⟨current.lo, max current.hi r.hi⟩ rs
    else current :: joinFrom r rs

/-- The set of all that lies in one of the ranges. -/
def ofRanges (ranges : List CodeRange) : List CodeRange :=
  match ranges.mergeSort fun a b => a.lo ≤ b.lo with
  | [] => []
  | r :: rs => joinFrom r rs

/-- What lies in one of two sets. -/
def union (a b : List CodeRange) : List CodeRange := ofRanges (a ++ b)

/-- What lies between the ranges and after them, from `next` on. -/
def gapsFrom (next : Nat) : List CodeRange → List CodeRange
  | [] => if next ≤ maxCode then [⟨next, maxCode⟩] else []
  | r :: rs =>
    if next < r.lo then ⟨next, r.lo - 1⟩ :: gapsFrom (r.hi + 1) rs else gapsFrom (r.hi + 1) rs

/-- What does not lie in a set. -/
def compl (a : List CodeRange) : List CodeRange := gapsFrom 0 a

/-- What lies in both of two sets. -/
def inter (a b : List CodeRange) : List CodeRange := compl (union (compl a) (compl b))

/-- What lies in the first of two sets only. -/
def diff (a b : List CodeRange) : List CodeRange := compl (union (compl a) b)

end RangeList

end Routing.Text
