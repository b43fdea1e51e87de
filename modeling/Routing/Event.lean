/-!
Events: what the library reports about its work, besides the results.

An event is a value like any other. A function whose work is reported has a companion that gives
the events of the same call, in order.
-/

namespace Routing

/-- How important an event is. -/
inductive EventLevel where
  | error
  | warn
  | info
  | debug
  deriving DecidableEq, Repr

/-- The name of a level. -/
def EventLevel.name : EventLevel → String
  | error => "ERROR"
  | warn => "WARN"
  | info => "INFO"
  | debug => "DEBUG"

/-- The value of a field of an event. -/
inductive EventField where
  | text (value : String)
  | count (value : Nat)
  deriving DecidableEq, Repr

/-- A reported event. -/
structure Event where
  level : EventLevel
  message : String
  fields : List (String × EventField)
  deriving DecidableEq, Repr

end Routing
