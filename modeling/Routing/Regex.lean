import Routing.Regex.Parser
import Routing.Regex.Match

/-!
Regular expressions: their text, what it means, and the search for a match.

An expression is matched leftmost first. Of the matches that start at the first possible place the
one is taken that the expression prefers, which need not be the longest.
-/

namespace Routing

open Regex

/-- An expression with its text and its program. -/
structure Regex where
  source : String
  node : Node
  program : Program
  compiled : program = node.program
  deriving DecidableEq, Repr

instance : Inhabited Regex := ⟨"", .empty, _, rfl⟩

namespace Regex

/-- Reads an expression. -/
def ofString (source : String) : Except Fault Regex := do
  return ⟨source, ← Node.ofText source.toList, _, rfl⟩

/-- The number of the group with this name. -/
def group? (r : Regex) (name : String) : Option Nat := r.node.group? name

/-- Does the expression match some part of the text? -/
def isMatch (r : Regex) (text : String) : Bool := (r.program.search text.toList.toArray).isSome

/-- A text as an expression for itself: a backslash before each character with a meaning. -/
def escape (text : String) : String :=
  String.ofList (text.toList.flatMap fun c => if isMeta c then ['\\', c] else [c])

end Regex

end Routing
