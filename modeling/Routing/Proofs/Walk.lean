import Routing.Proofs.Dict
import Routing.Proofs.Regex.Ends
import Routing.Route.Matching

/-!
A reference for the matching of paths: a walk over the segments themselves, without an expression
for the whole of them. It tries what each segment can take at a place, one choice after another, and
goes back when the rest does not fit.

    <a:.+>(/<b>)   on  x/y      a = x/y        first choice, takes all of the path
                                a = x/         nothing takes the y
                                a = x, b = y   would do, but comes too late

What the walk finds is the first of all ways through the segments that takes the whole path. The
ways are listed in the order in which they are tried.
-/

namespace Routing

/-- A way through segments: where it comes to, and what it gave to the parameters, each with the
places between which it stands. -/
structure Way where
  stop : Nat
  taken : List (String × Nat × Nat)
  deriving DecidableEq, Repr

/-- The way, after a way through what comes before. -/
def Way.after (w v : Way) : Way := ⟨w.stop, v.taken ++ w.taken⟩

/-- The texts that a way gives to the parameters. -/
def Way.texts (text : Array Char) (w : Way) : List (String × String) :=
  w.taken.map fun e => (e.1, Route.sliceText text e.2)

/-- The entries with a text that is not empty: a parameter that took the empty text has no value. -/
def valued (texts : List (String × String)) : List (String × String) := texts.filter (·.2 ≠ "")

/-- The ends of what a constraint takes from a place on, in the order in which it prefers them. -/
def constraintEnds (constraint : String) (text : Array Char) (pos : Nat) : List Nat :=
  match Regex.ofString constraint with
  | .ok r => r.program.ends text pos
  | .error _ => []

namespace Segment

mutual

/-- The ways through a segment from a place on. A literal takes its text, a parameter what its
constraint takes, and an optional part all of its segments or else nothing. -/
def ways (text : Array Char) : Segment → Nat → List Way
  | literal s, pos => if s.toList <+: text.toList.drop pos then [⟨pos + s.length, []⟩] else []
  | parameter name constraint, pos =>
    (constraintEnds constraint text pos).map fun stop => ⟨stop, [(name, pos, stop)]⟩
  | optional children, pos => allWays text children pos ++ [⟨pos, []⟩]

/-- The ways through segments one after another. -/
def allWays (text : Array Char) : List Segment → Nat → List Way
  | [], pos => [⟨pos, []⟩]
  | s :: ss, pos =>
    (s.ways text pos).flatMap fun w => (allWays text ss w.stop).map (·.after w)

end

end Segment

/-- Walks over the segments of a route: the defaults, replaced and added to by the values of the
first way that takes the whole path. -/
def Route.walk (r : Route) (path : String) : Option Params :=
  let text := (normalizePath path).toList.toArray
  ((Segment.allWays text r.segments 0).find? (·.stop = text.size)).map fun w =>
    r.defaults.putAll (valued (w.texts text))

end Routing
