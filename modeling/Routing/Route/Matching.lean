import Routing.Route

/-!
Matching paths. A path is matched without the slashes at its ends, and gives the defaults of the
route together with the values found in the path.

    admin(/<controller>)   on   /admin/users/    gives   controller = users
-/

namespace Routing

/-- The text without the slashes at its start. -/
def dropSlashes (cs : List Char) : List Char := cs.dropWhile (· == '/')

/-- The text without the slashes at its end. -/
def dropSlashesRight (cs : List Char) : List Char := (dropSlashes cs.reverse).reverse

/-- The path without the slashes at its ends. -/
def normalizePath (path : String) : String :=
  String.ofList (dropSlashesRight (dropSlashes path.toList))

namespace Route

/-- The text that a match has between two places. -/
def sliceText (text : Array Char) (span : Nat × Nat) : String :=
  String.ofList (text.extract span.1 span.2).toList

/-- The values that a match gives to the parameters. A parameter that took no part has none, and
neither has one that took the empty text. -/
def captured (r : Route) (text : Array Char) (found : Regex.Cursor) : List (String × String) :=
  (r.names.zip r.slots).filterMap fun (name, slot) =>
    match (found.span? slot).map (sliceText text) with
    | none => none
    | some value => if value = "" then none else some (name, value)

/-- Matches a path: the defaults, replaced and added to by the values in the path. -/
def matchPath (r : Route) (path : String) : Option Params :=
  let text := (normalizePath path).toList.toArray
  (r.expression.program.search text).map fun found =>
    (r.captured text found).foldl (fun d e => d.insert e.1 e.2) r.defaults

end Route

end Routing
