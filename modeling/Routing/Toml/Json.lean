import Routing.Json.Value
import Routing.Toml.Document

/-!
TOML values as JSON values. Dates and times become texts, and numbers that are not finite become
`null`.

A table can also stand for a date or a time. It does if its first key is the one that is reserved
for this: its value is then taken for the table, and has to be the text of a date or a time.

    d = { "$__toml_private_datetime" = "1979-05-27 07:32:00z" }   ──▶   "1979-05-27T07:32:00Z"
-/

namespace Routing.Toml

/-- Is the binary number with these bits finite? -/
def isFinite (bits : UInt64) : Bool := bits >>> 52 &&& 0x7FF != 0x7FF

/-- The key of a table that stands for a date or a time. -/
def datetimeKey : String := "$__toml_private_datetime"

/-- What a table stands for, if it has the values `values` where it is one like any other. -/
def Members.asJson (ms : Members) (values : Option (List (String × Json.Value))) :
    Option Json.Value :=
  match ms with
  | [] => values.map .object
  | (key, item) :: _ =>
    if key = datetimeKey then
      match item with
      | .text s => (readLooseDatetime s).map .text
      | _ => none
    else values.map .object

mutual

/-- A value as JSON. -/
def Item.toJson? : Item → Option Json.Value
  | .text s => some (.text s)
  | .integer n => some (.number (.whole n))
  | .float bits => some (if isFinite bits then .number (.binary bits) else .null)
  | .boolean b => some (.bool b)
  | .datetime s => some (.text s)
  | .array items => (itemsToJson? items).map .array
  | .table _ members => Members.asJson members (membersToJson? [] members)
  | .tables ts => (tablesToJson? ts).map .array

/-- Values as JSON. -/
def itemsToJson? : List Item → Option (List Json.Value)
  | [] => some []
  | i :: is => do return (← i.toJson?) :: (← itemsToJson? is)

/-- The members of a table as JSON, in ascending order of their keys. -/
def membersToJson? (sorted : List (String × Json.Value)) :
    List (String × Item) → Option (List (String × Json.Value))
  | [] => some sorted
  | (k, i) :: ms => do membersToJson? (Dict.insertEntry k (← i.toJson?) sorted) ms

/-- Tables as JSON. -/
def tablesToJson? : List (List (String × Item)) → Option (List Json.Value)
  | [] => some []
  | ms :: ts => do return (← Members.asJson ms (membersToJson? [] ms)) :: (← tablesToJson? ts)

end

/-- Reads a document as JSON. -/
def readJson (text : String) : Option Json.Value := do
  let ms ← read text
  ms.asJson (membersToJson? [] ms)

end Routing.Toml
