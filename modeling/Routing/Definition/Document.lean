import Routing.Definition
import Routing.Files.Path
import Routing.Toml.Document

/-!
Definitions of routes in documents: a TOML or JSON document whose member `routes` lists them. The
order in the document is the order of registration.

    [[routes]]
    name = "admin"
    pattern = "admin(/<controller>)"
    constraints = { controller = "[a-z]+" }
-/

namespace Routing.RouteDefinition

open Toml

/-- A text. -/
def tomlText : Item → Option String
  | .text s => some s
  | _ => none

/-- The key under which a date or a time appears where a table is needed. -/
def datetimeKey : String := "$__toml_private_datetime"

/-- A dictionary of texts. A date or a time counts as one with a single entry. -/
def tomlTexts : Item → Option (Dict String)
  | .table _ members => do return .ofList (← members.mapM fun (k, i) => do return (k, ← tomlText i))
  | .datetime s => some (.ofList [(datetimeKey, s)])
  | _ => none

/-- A definition made of its fields. Only the pattern has to be there. -/
def ofTomlFields (field : String → Option Item) : Option RouteDefinition := do
  let optional {α : Type} (name : String) (missing : α) (read : Item → Option α) : Option α :=
    match field name with
    | some item => read item
    | none => some missing
  return ⟨← optional "name" none fun i => (tomlText i).map some,
    ← (field "pattern").bind tomlText, ← optional "defaults" .empty tomlTexts,
    ← optional "constraints" .empty tomlTexts⟩

/-- A definition given as a table, or as the array of its fields in order. -/
def ofToml? : Item → Option RouteDefinition
  | .table _ members => ofTomlFields (Members.find? members)
  | .array items =>
    let fields := ["name", "pattern", "defaults", "constraints"].zip items
    ofTomlFields (Members.find? fields)
  | _ => none

/-- The definitions of a document's table. -/
def ofMembers? (members : Members) : Option (List RouteDefinition) :=
  match Members.find? members "routes" with
  | none => some []
  | some (.array items) => items.mapM ofToml?
  | some (.tables ts) => ts.mapM fun ms => ofToml? (.table .header ms)
  | some _ => none

/-- Reads the definitions of a TOML document. -/
def ofTomlText (text : String) : Except Fault (List RouteDefinition) :=
  match (Toml.read text).bind ofMembers? with
  | some ds => .ok ds
  | none => .error (.config (.malformed "routes TOML"))

/-- Reads the definitions of a JSON document. -/
def ofJsonText (text : String) : Except Fault (List RouteDefinition) :=
  match Json.decode decodeFile text with
  | .ok ds => .ok ds
  | .error _ => .error (.config (.malformed "routes JSON"))

/-- Reads the definitions of a file, of which the content is missing if it cannot be read as text.
The extension says what kind of document it is. -/
def ofFile (path : String) (content : Option String) : Except Fault (List RouteDefinition) :=
  match content with
  | none => .error (.config (.unreadable "routes" path))
  | some text =>
    match Files.pathExtension? path with
    | some "toml" => ofTomlText text
    | some "json" => ofJsonText text
    | _ => .error (.config (.unsupported path))

end Routing.RouteDefinition
