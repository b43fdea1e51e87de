import Routing.Text.CaseOrbit
import Routing.Text.RangeList

/-!
Character classes: which characters one step of an expression may take.

A class is kept as the formula it was written as, and not as a list of ranges. The set operations
of an expression (`[a-z&&[^aeiou]]`) are then the Boolean operations, and no range arithmetic
stands between a class and its meaning.

    [a-z&&[^e]]   ──▶   inter (range a z) (compl (range e e))
-/

namespace Routing.Regex

open Text

/-- A class of characters, as a formula. -/
inductive CharClass where
  /-- No character. -/
  | nothing
  /-- The characters from `lo` to `hi`, both included. -/
  | range (lo hi : Char)
  /-- The characters of a table. -/
  | table (set : CodeSet)
  /-- The decimal digits of Unicode. -/
  | digit
  /-- The white space of Unicode. -/
  | space
  /-- The word characters of Unicode. -/
  | word
  | union (a b : CharClass)
  | inter (a b : CharClass)
  | diff (a b : CharClass)
  /-- The characters of exactly one of the two. -/
  | symmDiff (a b : CharClass)
  | compl (a : CharClass)
  /-- The characters that differ from a member at most in case. -/
  | anyCase (a : CharClass)
  /-- The same, where only the letters below 128 have a case. -/
  | anyAsciiCase (a : CharClass)
  deriving DecidableEq, Repr, Inhabited

namespace CharClass

/-- Is the character in the class? -/
def contains : CharClass → Char → Bool
  | nothing, _ => false
  | range lo hi, c => lo.toNat ≤ c.toNat && c.toNat ≤ hi.toNat
  | table set, c => set.contains c
  | digit, c => isDigit c
  | space, c => isWhiteSpace c
  | word, c => isWord c
  | union a b, c => a.contains c || b.contains c
  | inter a b, c => a.contains c && b.contains c
  | diff a b, c => a.contains c && !b.contains c
  | symmDiff a b, c => a.contains c != b.contains c
  | compl a, c => !a.contains c
  | anyCase a, c => (caseOrbit c).any a.contains
  | anyAsciiCase a, c => a.contains c || a.contains (otherAsciiCase c)

/-- The class of one character. -/
def single (c : Char) : CharClass := range c c

/-- Every character. -/
def any : CharClass := compl nothing

/-- The class of the listed characters and ranges. -/
def ofRanges (ranges : List (Char × Char)) : CharClass :=
  ranges.foldl (fun a r => union a (range r.1 r.2)) nothing

/-- The decimal digits below 128. -/
def asciiDigit : CharClass := range '0' '9'

/-- The white space below 128. -/
def asciiSpace : CharClass := ofRanges [('\t', '\r'), (' ', ' ')]

/-- The word characters below 128. -/
def asciiWord : CharClass := ofRanges [('0', '9'), ('A', 'Z'), ('_', '_'), ('a', 'z')]

/-- The classes with a name of the form `[:name:]`. -/
def ofPosixName : String → Option CharClass
  | "alnum" => some (ofRanges [('0', '9'), ('A', 'Z'), ('a', 'z')])
  | "alpha" => some (ofRanges [('A', 'Z'), ('a', 'z')])
  | "ascii" => some (range '\x00' '\x7F')
  | "blank" => some (ofRanges [('\t', '\t'), (' ', ' ')])
  | "cntrl" => some (ofRanges [('\x00', '\x1F'), ('\x7F', '\x7F')])
  | "digit" => some asciiDigit
  | "graph" => some (range '!' '~')
  | "lower" => some (range 'a' 'z')
  | "print" => some (range ' ' '~')
  | "punct" => some (ofRanges [('!', '/'), (':', '@'), ('[', '\x60'), ('\x7B', '~')])
  | "space" => some asciiSpace
  | "upper" => some (range 'A' 'Z')
  | "word" => some asciiWord
  | "xdigit" => some (ofRanges [('0', '9'), ('A', 'F'), ('a', 'f')])
  | _ => none

/-- A set together with all that differs from a member at most in case. -/
def closeUnderCase (ranges : List CodeRange) : List CodeRange :=
  let set : CodeSet := ⟨ranges.toArray⟩
  let orbits := caseOrbits.toList.filter fun orbit => orbit.any fun n => set.contains (Char.ofNat n)
  RangeList.union ranges (orbits.flatten.map fun n => ⟨n, n⟩)

/-- The letters below 128 that lie in a set, as the letters of the other case. -/
def otherAsciiCases (ranges : List CodeRange) : List CodeRange :=
  let upper := RangeList.inter ranges [⟨'A'.toNat, 'Z'.toNat⟩]
  let lower := RangeList.inter ranges [⟨'a'.toNat, 'z'.toNat⟩]
  upper.map (fun r => ⟨r.lo + 32, r.hi + 32⟩) ++ lower.map fun r => ⟨r.lo - 32, r.hi - 32⟩

/-- The members of a class, as ascending ranges. -/
def ranges : CharClass → List CodeRange
  | nothing => []
  | range lo hi => if lo.toNat ≤ hi.toNat then [⟨lo.toNat, hi.toNat⟩] else []
  | table set => set.ranges.toList
  | digit => digitSet.ranges.toList
  | space => whiteSpaceSet.ranges.toList
  | word => wordSet.ranges.toList
  | union a b => RangeList.union a.ranges b.ranges
  | inter a b => RangeList.inter a.ranges b.ranges
  | diff a b => RangeList.diff a.ranges b.ranges
  | symmDiff a b =>
    RangeList.diff (RangeList.union a.ranges b.ranges) (RangeList.inter a.ranges b.ranges)
  | compl a => RangeList.compl a.ranges
  | anyCase a => closeUnderCase a.ranges
  | anyAsciiCase a => RangeList.union a.ranges (otherAsciiCases a.ranges)

/-- Do two classes have the same members? -/
def agrees (a b : CharClass) : Bool := a == b || a.ranges == b.ranges

end CharClass

end Routing.Regex
