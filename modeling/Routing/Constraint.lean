import Routing.Dict
import Routing.Fault
import Routing.Segment

/-!
Constraints: the expressions that the values of parameters have to match.

A parameter takes its constraint from the table of the route, else from the pattern, else it is
`defaultConstraint`. A constraint is a piece of an expression. It is checked by itself, between
anchors, so that a bad one is reported under the name of its parameter.
-/

namespace Routing

/-- The values of parameters. -/
abbrev Params := Dict String

/-- Constraints by the names of parameters. -/
abbrev ConstraintTable := Dict String

/-- One or more characters other than the separator. -/
def defaultConstraint : String := "[^/]+"

/-- The expression that a whole value has to match. -/
def anchored (fragment : String) : String := "^(?:" ++ fragment ++ ")$"

/-- Reads the constraint of a parameter as the expression for whole values. -/
def readConstraint (name fragment : String) : Except PatternFault Regex :=
  match Regex.ofString (anchored fragment) with
  | .ok r => .ok r
  | .error _ => .error (.badConstraint name)

/-- Checks a constraint. An empty one is refused, since a parameter takes at least one
character. -/
def checkConstraint (name fragment : String) : Except PatternFault Unit :=
  if fragment = "" then .error (.emptyConstraint name)
  else (readConstraint name fragment).map fun _ => ()

namespace ConstraintTable

/-- Checks all constraints, in the order of their names. -/
def check (table : ConstraintTable) : Except PatternFault Unit :=
  table.entries.forM fun e => checkConstraint e.1 e.2

/-- The constraint of a parameter, with the one that its pattern gives. -/
def resolve (table : ConstraintTable) (name : String) (inline : Option String) : String :=
  ((table.get? name).or inline).getD defaultConstraint

end ConstraintTable

end Routing
