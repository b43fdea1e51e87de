import Routing.Regex.Program

/-!
The search for a match.

A thread is a place in the program together with a place in the text. The search follows the most
preferred thread as long as it can, and goes back to the one that was put off last when it cannot.
Whatever has led to no match once will not do so later, so no thread is followed twice: the search
ends, and takes no longer than there are pairs of places.

    a*ab  on  "aab"      a a ✗   a a b ✓

The first thread to reach the end of the program is the match that the expression prefers.
-/

namespace Routing.Regex

open Text

/-- A match in the making: where it stands, and the marks it has set, the latest first. -/
structure Cursor where
  pos : Nat
  marks : List (Nat × Nat)
  deriving DecidableEq, Repr, Inhabited

namespace Cursor

/-- Notes the present place under a mark. -/
def note (k : Cursor) (slot : Nat) : Cursor := { k with marks := (slot, k.pos) :: k.marks }

/-- The place that was last noted under a mark. -/
def mark? (k : Cursor) (slot : Nat) : Option Nat := k.marks.lookup slot

/-- What a group took last. -/
def span? (k : Cursor) (group : Nat) : Option (Nat × Nat) := do
  return (← k.mark? (2 * group), ← k.mark? (2 * group + 1))

end Cursor

/-- Is there a word character at this place? -/
def wordAt (unicode : Bool) (c : Option Char) : Bool :=
  match c with
  | none => false
  | some c => if unicode then isWord c else isAsciiWord c

/-- Does the test hold at this place of the text? -/
def Look.holds (text : Array Char) (pos : Nat) (test : Look) : Bool :=
  let before := if pos = 0 then none else text[pos - 1]?
  let after := text[pos]?
  match test with
  | .start => before.isNone
  | .stop => after.isNone
  | .lineStart => before.isNone || before == some '\n'
  | .lineStop => after.isNone || after == some '\n'
  | .lineStartCrlf =>
    before.isNone || before == some '\n' || (before == some '\r' && after != some '\n')
  | .lineStopCrlf =>
    after.isNone || after == some '\r' || (after == some '\n' && before != some '\r')
  | .boundary u => wordAt u before != wordAt u after
  | .notBoundary u => wordAt u before == wordAt u after
  | .wordStart u => !wordAt u before && wordAt u after
  | .wordStop u => wordAt u before && !wordAt u after
  | .wordStartHalf u => !wordAt u before
  | .wordStopHalf u => !wordAt u after

/-- A place in the program, and a place in the text with the marks set on the way. -/
structure Thread where
  step : Nat
  cursor : Cursor
  deriving DecidableEq, Repr, Inhabited

/-- The threads that a step leads to, the preferred one first. -/
def Instr.follow (text : Array Char) (step : Nat) (k : Cursor) : Instr → List Thread
  | char set =>
    match text[k.pos]? with
    | some c => if set.contains c then [⟨step + 1, { k with pos := k.pos + 1 }⟩] else []
    | none => []
  | look test => if test.holds text k.pos then [⟨step + 1, k⟩] else []
  | mark slot => [⟨step + 1, k.note slot⟩]
  | jump target => [⟨target, k⟩]
  | fork first second => [⟨first, k⟩, ⟨second, k⟩]

/-- The threads that a thread leads to. -/
def Thread.next (program : Program) (text : Array Char) (t : Thread) : List Thread :=
  match program[t.step]? with
  | some i => i.follow text t.step t.cursor
  | none => []

/-- The pairs of places that have been visited: for each place of the text, the number whose bits
are the places of the program. -/
structure Visited where
  steps : Array Nat
  deriving DecidableEq, Repr

namespace Visited

/-- Nothing has been visited on a text of this size. -/
def nowhere (size : Nat) : Visited := ⟨Array.replicate (size + 1) 0⟩

/-- Has the thread's pair of places been visited? -/
def contains (v : Visited) (t : Thread) : Bool := (v.steps.getD t.cursor.pos 0).testBit t.step

/-- Visits the thread's pair of places. -/
def insert (v : Visited) (t : Thread) : Visited :=
  ⟨v.steps.modify t.cursor.pos (· ||| 1 <<< t.step)⟩

end Visited

/-- Follows threads, the first of them first, until one comes to the end of the program. Gives also
what has been visited. The fuel bounds the number of threads. -/
def run (program : Program) (text : Array Char) :
    (fuel : Nat) → Visited → List Thread → Option Cursor × Visited
  | 0, v, _ => (none, v)
  | _, v, [] => (none, v)
  | fuel + 1, v, t :: ts =>
    if v.contains t then run program text fuel v ts
    else if t.step = program.size then (some t.cursor, v)
    else run program text fuel (v.insert t) (t.next program text ++ ts)

/-- The number of threads that there can be on a text of this size: each pair of places leads to two
at most. -/
def threadBound (program : Program) (size : Nat) : Nat :=
  2 * (program.size + 1) * (size + 1) + 2

/-- Searches from one start after another. -/
def searchFrom (program : Program) (text : Array Char) :
    (starts : List Nat) → Visited → Option Cursor
  | [], _ => none
  | pos :: starts, v =>
    match run program text (threadBound program text.size) v [⟨0, ⟨pos, []⟩⟩] with
    | (some k, _) => some k
    | (none, v) => searchFrom program text starts v

/-- The preferred match at the first place where there is one. -/
def Program.search (program : Program) (text : Array Char) : Option Cursor :=
  searchFrom program text (List.range (text.size + 1)) (.nowhere text.size)

end Routing.Regex
