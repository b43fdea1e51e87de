import Routing.Decimal

/-!
The values of a TOML document.

How a table came to be decides what may still be added to it. A table with a header of its own is
complete after it; a table that is only named on the way to another one may get its header later; a
table made by dotted keys grows with further dotted keys; a table between braces is closed.
-/

namespace Routing.Toml

/-- How a table came to be. -/
inductive Form where
  /-- By a header. -/
  | header
  /-- On the way to the table of a header. -/
  | implied
  /-- By dotted keys. -/
  | dotted
  /-- Between braces. -/
  | inline
  deriving DecidableEq, Repr

/-- A value of a document. -/
inductive Item where
  | text (value : String)
  | integer (value : Int)
  /-- A binary number, by its bits. -/
  | float (bits : UInt64)
  | boolean (value : Bool)
  /-- A date, a time or both, in the form in which it is written out. -/
  | datetime (value : String)
  | array (items : List Item)
  | table (form : Form) (members : List (String × Item))
  /-- Tables that share the headers `[[...]]`. -/
  | tables (tables : List (List (String × Item)))
  deriving Inhabited

/-- The members of a table. -/
abbrev Members := List (String × Item)

/-- The value of a member. -/
def Members.find? (ms : Members) (key : String) : Option Item :=
  (List.find? (fun e : String × Item => e.1 == key) ms).map (·.2)

/-- Sets the value of a member; a new one comes last. -/
def Members.set (ms : Members) (key : String) (item : Item) : Members :=
  if ms.any (·.1 == key) then ms.map fun e => if e.1 == key then (key, item) else e
  else ms ++ [(key, item)]

/-- Removes a member. -/
def Members.remove (ms : Members) (key : String) : Members := ms.filter (·.1 != key)

/-- Goes down a path of keys and changes the members at its end. Tables on the way that are missing
are made: implied ones on the way of a header, dotted ones on the way of a dotted key. A dotted key
does not lead through a table with a header. The change is told the form of the table at the end. -/
def descend (byDots : Bool) (change : Form → Members → Option Members) :
    (path : List String) → Form → Members → Option Members
  | [], form, ms => change form ms
  | key :: path, _, ms =>
    match ms.find? key with
    | none => do
      let form := if byDots then Form.dotted else Form.implied
      return ms.set key (.table form (← descend byDots change path form []))
    | some (.table form inner) =>
      if form = .inline ∨ (byDots ∧ form = .header) then none
      else do return ms.set key (.table form (← descend byDots change path form inner))
    | some (.tables ts) =>
      match ts.reverse with
      | [] => none
      | last :: before => do
        return ms.set key
          (.tables ((← descend byDots change path .header last) :: before).reverse)
    | some _ => none

/-- Adds the value of a dotted key to a table. Its last key must be new, and a table that the path
leads into must have been made by dotted keys. -/
def Members.add (ms : Members) (own : Form) (path : List String) (key : String) (item : Item) :
    Option Members :=
  descend true (fun form ms =>
    if (form = .dotted) = (path = []) ∨ (ms.find? key).isSome then none
    else some (ms.set key item)) path own ms

end Routing.Toml
