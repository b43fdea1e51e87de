import Routing.Route.Matching

/-!
Building paths and URLs from a route and the values of its parameters.

A parameter takes the value given for it, else its default. It resolves if there is such a value and
the route accepts it; a given value that is not accepted does not fall back to the default. An
optional part in which a parameter does not resolve is left out. Outside of the optional parts every
parameter has to resolve.

    (<controller>(/<action>(/<id>)))   with   controller = news, id = 42   gives   news
-/

namespace Routing

namespace Route

/-- The value of a parameter, if it resolves. -/
def resolve (r : Route) (params : Params) (name : String) : Option String :=
  ((params.get? name).or (r.defaults.get? name)).filter (r.accepts name)

mutual

/-- The text of a segment, or the name of the first parameter that does not resolve. -/
def buildSegment (resolve : String → Option String) : Segment → Except String String
  | .literal text => .ok text
  | .parameter name _ =>
    match resolve name with
    | some value => .ok value
    | none => .error name
  | .optional children =>
    match buildSegments resolve children with
    | .ok text => .ok text
    | .error _ => .ok ""

/-- The text of segments one after another. -/
def buildSegments (resolve : String → Option String) : List Segment → Except String String
  | [] => .ok ""
  | s :: ss => do
    let text ← buildSegment resolve s
    let rest ← buildSegments resolve ss
    return text ++ rest

end

/-- Builds the path of a route. A route without parameters has its pattern for a path. -/
def uri (r : Route) (params : Params) : Except Fault String :=
  if r.isStatic then .ok r.pattern
  else match buildSegments (r.resolve params) r.segments with
    | .ok text => .ok text
    | .error name => .error (.missingParameter r.pattern name)

end Route

/-- Scheme and host of a URL. -/
structure Origin where
  protocol : String
  host : String
  deriving DecidableEq

/-- Joins a base and a path by one slash. -/
def joinBase (base uri : String) : String :=
  String.ofList (dropSlashesRight base.toList ++ '/' :: dropSlashes uri.toList)

namespace Route

/-- Builds the URL of a route: the path after the base, and all of it after the origin. -/
def url (r : Route) (params : Params) (base : String) (origin : Option Origin) :
    Except Fault String := do
  let path := joinBase base (← r.uri params)
  return match origin with
    | some o => o.protocol ++ "://" ++ o.host ++ path
    | none => path

end Route

end Routing
