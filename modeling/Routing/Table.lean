import Routing.Route.Building

/-!
Tables of routes. A table holds routes under distinct names, in the order in which the names were
first used. A path belongs to the first route that matches it, so a specific route has to stand
before a general one.

A route under a name that is in use takes the place of the old one.

    names:    admin      blog      #2
    index:    admin ↦ 0, blog ↦ 1, #2 ↦ 2

Each registered route has an identity of its own. Two routes that are equal are still two.
-/

namespace Routing

/-- A registered route. -/
structure Handle where
  /-- The identity of the route: no other registration has it. -/
  id : Nat
  route : Route
  deriving DecidableEq, Inhabited

/-- A table of routes. -/
structure RouteTable where
  /-- The routes under their names, in the order of matching. -/
  entries : List (String × Handle)
  /-- The place of each name among the entries. -/
  index : Dict Nat
  deriving DecidableEq

/-- A path that a table has found a route for. -/
structure RouteMatch where
  name : String
  handle : Handle
  params : Params
  deriving DecidableEq

namespace RouteTable

/-- The table without routes. -/
def empty : RouteTable := ⟨[], .empty⟩

instance : Inhabited RouteTable := ⟨empty⟩

/-- The names in the order of matching. -/
def names (t : RouteTable) : List String := t.entries.map (·.1)

/-- The routes under their names, without their identities. -/
def routes (t : RouteTable) : List (String × Route) := t.entries.map fun e => (e.1, e.2.route)

/-- The number of routes. -/
def size (t : RouteTable) : Nat := t.entries.length

/-- Do two tables hold equal routes under the same names, in the same order? -/
def agrees (t u : RouteTable) : Bool := t.routes = u.routes

/-- Puts a route under a name: in the place of the one that is there, else at the end. -/
def insert (t : RouteTable) (name : String) (handle : Handle) : RouteTable :=
  match t.index.get? name with
  | some i => { t with entries := t.entries.set i (name, handle) }
  | none => ⟨t.entries ++ [(name, handle)], t.index.insert name t.entries.length⟩

/-- The route under a name. -/
def lookup (t : RouteTable) (name : String) : Option Handle :=
  match t.index.get? name with
  | some i => (t.entries[i]?).map (·.2)
  | none => none

/-- The name that is made of a number. -/
def ordinalName (k : Nat) : String := "#" ++ toString k

/-- The first number from `k` on whose name is free. There are at most `fuel` names to step over. -/
def freeOrdinal (t : RouteTable) : (fuel : Nat) → (k : Nat) → Nat
  | 0, k => k
  | fuel + 1, k => if t.index.contains (ordinalName k) then freeOrdinal t fuel (k + 1) else k

/-- The name of a route that is registered without one. -/
def freshName (t : RouteTable) : String := ordinalName (t.freeOrdinal t.size t.size)

/-- The name under which a route is registered. -/
def nameFor (t : RouteTable) (name : Option String) : String := name.getD t.freshName

/-- Compiles a pattern and registers the route with the given identity. -/
def register (t : RouteTable) (id : Nat) (name : Option String) (pattern : String)
    (options : RouteOptions) : Except Fault (RouteTable × Handle) :=
  match Route.compile pattern options with
  | .ok route => .ok (t.insert (t.nameFor name) ⟨id, route⟩, ⟨id, route⟩)
  | .error cause => .error (.registration (t.nameFor name) cause)

/-- What is reported by `register`. -/
def registerEvents (t : RouteTable) (name : Option String) (pattern : String)
    (options : RouteOptions) : List Event :=
  let fields := [("route", .text (t.nameFor name)), ("pattern", .text pattern)]
  Route.compileEvents pattern options ++
    match Route.compile pattern options with
    | .ok _ => [⟨.debug, "Registered route", fields⟩]
    | .error cause => [⟨.error, "Route failed to compile: " ++ cause.message, fields⟩]

/-- The first route that matches a path. -/
def firstMatch (t : RouteTable) (path : String) : Option RouteMatch :=
  t.entries.findSome? fun (name, handle) =>
    (handle.route.matchPath path).map fun params => ⟨name, handle, params⟩

/-- What is reported by `firstMatch`. -/
def firstMatchEvents (t : RouteTable) (path : String) : List Event :=
  match t.firstMatch path with
  | some _ => []
  | none =>
    [⟨.debug, "No route matches path", [("path", .text path), ("routes", .count t.size)]⟩]

/-- The name under which the route of this identity is registered. -/
def nameOf (t : RouteTable) (id : Nat) : Option String :=
  (t.entries.find? (·.2.id == id)).map (·.1)

/-- The route under a name that has to be there. -/
def demand (t : RouteTable) (name : String) : Except Fault Route :=
  match t.lookup name with
  | some handle => .ok handle.route
  | none => .error (.routeNotFound name)

/-- Builds the path of the route under a name. -/
def uri (t : RouteTable) (name : String) (params : Params) : Except Fault String := do
  (← t.demand name).uri params

/-- Builds the URL of the route under a name. -/
def url (t : RouteTable) (name : String) (params : Params) (base : String)
    (origin : Option Origin) : Except Fault String := do
  (← t.demand name).url params base origin

end RouteTable

end Routing
