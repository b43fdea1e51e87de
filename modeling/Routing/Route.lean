import Routing.Event
import Routing.Pattern

/-!
Routes: compiled patterns.

A route holds the segments of its pattern and what is derived from them: the expression for paths,
the group of the expression that each parameter stands for, and the check for the values of each
parameter. All routes are made by `Route.assemble`, whether they come from a pattern or from written
data, so the derived parts belong to the segments.
-/

namespace Routing

/-- What a route is given besides its pattern. -/
structure RouteOptions where
  /-- Values of parameters that a path or a caller leaves out. -/
  defaults : Params
  /-- Constraints that go before those of the pattern. -/
  constraints : ConstraintTable
  deriving DecidableEq, Inhabited

/-- A compiled route. -/
structure Route where
  pattern : String
  segments : List Segment
  /-- The expression for whole paths. -/
  expression : Regex
  /-- The group of each parameter in the expression. -/
  slots : List Nat
  /-- The check for the values of each parameter. -/
  checks : List Regex
  defaults : Params
  /-- The names of the parameters, from left to right. -/
  names : List String
  deriving DecidableEq, Inhabited

namespace Route

/-- The groups of parameters in an expression; the first of them has the given number. -/
def findSlots (expression : Regex) : (index : Nat) → List String → Except PatternFault (List Nat)
  | _, [] => .ok []
  | index, name :: names =>
    match expression.group? (Segment.groupName index) with
    | none => .error (.noCapture name)
    | some slot => do return slot :: (← findSlots expression (index + 1) names)

/-- Makes a route of its parts. -/
def assemble (pattern : String) (segments : List Segment) (expression : String)
    (defaults : Params) (names : List String) : Except PatternFault Route := do
  let regex ← match Regex.ofString expression with
    | .ok r => .ok r
    | .error _ => .error .badExpression
  let slots ← findSlots regex 0 names
  let checks ← (Segment.allParameters segments).mapM fun p => readConstraint p.1 p.2
  return ⟨pattern, segments, regex, slots, checks, defaults, names⟩

/-- Compiles a pattern, with the reason if that fails. -/
def compileReason (pattern : String) (options : RouteOptions) : Except PatternFault Route := do
  options.constraints.check
  let (segments, names) ← Pattern.read options.constraints pattern
  assemble pattern segments (Segment.expression segments) options.defaults names

/-- Compiles a pattern. -/
def compile (pattern : String) (options : RouteOptions) : Except Fault Route :=
  match compileReason pattern options with
  | .ok r => .ok r
  | .error reason => .error (.pattern pattern reason)

/-- What is reported when a pattern is compiled: the constraints that none of its parameters
uses. -/
def compileEvents (pattern : String) (options : RouteOptions) : List Event :=
  match do options.constraints.check; Pattern.read options.constraints pattern with
  | .error _ => []
  | .ok (_, names) =>
    (options.constraints.keys.filter fun name => !names.contains name).map fun name =>
      ⟨.warn, "Constraint names a parameter the pattern does not declare",
        [("pattern", .text pattern), ("parameter", .text name)]⟩

/-- The same route with other defaults. -/
def withDefaults (r : Route) (defaults : Params) : Route := { r with defaults }

/-- Is the pattern nothing but literal text? -/
def isStatic (r : Route) : Bool := r.segments.all Segment.isLiteral

/-- May the parameter have this value? No parameter may be empty, and a name that the route does
not have accepts nothing. -/
def accepts (r : Route) (name value : String) : Bool :=
  value != "" &&
    match r.names.idxOf? name with
    | none => false
    | some i => (r.checks[i]?).any (·.isMatch value)

end Route

end Routing
