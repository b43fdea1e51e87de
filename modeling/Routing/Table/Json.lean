import Routing.Route.Json
import Routing.Table

/-!
Tables as JSON: the routes with their names, in the order of matching.

A table that is read has new identities for its routes, and no name may stand in it twice.
-/

namespace Routing

open Json

/-- A route with its name as it is written. -/
structure NamedRoute where
  name : String
  route : Route
  deriving DecidableEq

namespace NamedRoute

/-- A named route as JSON. -/
def toJson (n : NamedRoute) : Value :=
  .object [("name", .text n.name), ("route", n.route.toJson)]

/-- The fields of a named route while it is read. -/
structure Draft where
  name : Option String
  route : Option Route

/-- Reads one field. -/
def Draft.read (depth : Nat) (d : Draft) (name : String) (t : Tree) : Decoded Draft := do
  match name with
  | "name" => return { d with name := ← Tree.once d.name t.toText }
  | _ => return { d with route := ← Tree.once d.route (Route.decode depth t) }

/-- Decodes a named route. -/
def decode (depth : Nat) (t : Tree) : Decoded NamedRoute := do
  let d ← t.toRecord ["name", "route"] Draft.read ⟨none, none⟩ depth
  return ⟨← Tree.needed d.name, ← Tree.needed d.route⟩

end NamedRoute

namespace RouteTable

/-- A table as JSON. -/
def toJson (t : RouteTable) : Value :=
  .object [("routes", .array (t.routes.map fun r => NamedRoute.toJson ⟨r.1, r.2⟩))]

/-- The table of named routes; the first one gets the identity `id`, and so on. -/
def ofNamed (t : RouteTable) (id : Nat) : List NamedRoute → Except Fault RouteTable
  | [] => .ok t
  | n :: ns =>
    if t.index.contains n.name then .error (.data (.repeatedRoute n.name))
    else ofNamed (t.insert n.name ⟨id, n.route⟩) (id + 1) ns

/-- Decodes a table; the first route gets the identity `id`, and so on. -/
def decode (id : Nat) (depth : Nat) (t : Tree) : Decoded RouteTable := do
  let routes ← t.toRecord ["routes"]
    (fun depth (old : Option (List NamedRoute)) _ t =>
      Tree.once old (t.toList depth NamedRoute.decode)) none depth
  match ofNamed .empty id (← Tree.needed routes) with
  | .ok table => .ok table
  | .error fault => .error (.refused fault)

end RouteTable

end Routing
