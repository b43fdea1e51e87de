import Routing.Regex.Node

/-!
The size of an expression when it is compiled for bytes.

A character beyond 127 takes several bytes. A class is therefore a set of sequences of byte ranges,
and takes one state for each byte, where sequences that start alike share the states of their start.

    80-7FF        [C2-DF][80-BF]                             2 states
    800-FFFF      [E0][A0-BF][80-BF]   [E1-EF][80-BF][80-BF]   6 states

Repetitions stand written out, so their size grows with their counts.
-/

namespace Routing.Regex

open Text

/-- The code points that so many continuation bytes tell apart. -/
def blockSize : Nat → Nat
  | 0 => 1
  | n + 1 => 64 * blockSize n

/-- A range of code points with `n` continuation bytes as sequences of ranges. The first range of a
sequence counts blocks, the others the places in a block. -/
def byteSequences : (n : Nat) → (lo hi : Nat) → List (List CodeRange)
  | 0, lo, hi => [[⟨lo, hi⟩]]
  | n + 1, lo, hi =>
    let size := blockSize (n + 1)
    let (first, last) := (lo / size, hi / size)
    if first = last then
      (byteSequences n (lo % size) (hi % size)).map (⟨first, first⟩ :: ·)
    else
      let startsInside := lo % size != 0
      let endsInside := hi % size != size - 1
      let start := if startsInside then first + 1 else first
      let upTo := if endsInside then last else last + 1
      (if startsInside then
        (byteSequences n (lo % size) (size - 1)).map (⟨first, first⟩ :: ·) else []) ++
      (if start < upTo then [⟨start, upTo - 1⟩ :: List.replicate n ⟨0, 63⟩] else []) ++
      (if endsInside then
        (byteSequences n 0 (hi % size)).map (⟨last, last⟩ :: ·) else [])

/-- The code points with the same number of continuation bytes, and that number. -/
def byteLengths : List (CodeRange × Nat) :=
  [(⟨0, 0x7F⟩, 0), (⟨0x80, 0x7FF⟩, 1), (⟨0x800, 0xD7FF⟩, 2), (⟨0xE000, 0xFFFF⟩, 2),
    (⟨0x10000, maxCode⟩, 3)]

/-- The sequences for a set of code points. -/
def sequencesOf (ranges : List CodeRange) : List (List CodeRange) :=
  byteLengths.flatMap fun (part, n) =>
    ranges.flatMap fun r =>
      let (lo, hi) := (max r.lo part.lo, min r.hi part.hi)
      if lo ≤ hi then byteSequences n lo hi else []

/-- The number of ranges that two sequences of one length share at their start. -/
def sharedLength (a b : List CodeRange) : Nat :=
  if a.length = b.length then ((a.zip b).takeWhile fun (x, y) => x == y).length else 0

/-- The number of states for sequences, after the sequence `before`. -/
def stateCount (before : List CodeRange) : List (List CodeRange) → Nat
  | [] => 0
  | s :: rest => s.length - sharedLength before s + stateCount s rest

/-- The bytes that a state takes. -/
def stateSize : Nat := 32

/-- The bytes that a class takes. -/
def CharClass.cost (set : CharClass) : Nat :=
  let ranges := set.ranges
  if ranges.all (·.hi < 128) then 2 * stateSize + 8 * ranges.length
  else
    let sequences := sequencesOf ranges
    (stateCount [] sequences + 2) * stateSize + 4 * sequences.length

namespace Node

/-- The bytes that an expression takes. -/
def cost : Node → Nat
  | empty | look _ => stateSize
  | char (.range lo hi) =>
    if lo = hi then lo.utf8Size * stateSize else (CharClass.range lo hi).cost
  | char set => set.cost
  | capture _ _ a => a.cost + 2 * stateSize
  | cat a b => a.cost + b.cost
  | alt a b => a.cost + b.cost + stateSize + 8
  | iter a lo hi _ =>
    match hi with
    | some hi => lo * a.cost + (hi - lo) * (a.cost + stateSize + 8) + stateSize
    | none => max 1 lo * a.cost + 3 * stateSize

end Node

end Routing.Regex
