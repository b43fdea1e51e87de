import Routing.Bytes.Sha256
import Routing.Json.Decode
import Routing.Table

/-!
Definitions of routes: what an application declares, before anything is compiled.

The definitions of an application have a key. It is the hash of all of them, each written as JSON
with its length in front, so any change of a definition or of their order changes what is hashed.
-/

namespace Routing

open Json

/-- A declared route. -/
structure RouteDefinition where
  /-- The name to register the route under; without it, the table gives one. -/
  name : Option String
  pattern : String
  defaults : Params
  constraints : ConstraintTable
  deriving DecidableEq, Inhabited

namespace RouteDefinition

/-- The options to compile the pattern with. -/
def options (d : RouteDefinition) : RouteOptions := ⟨d.defaults, d.constraints⟩

/-- A definition as JSON. A name that is missing is left out. -/
def toJson (d : RouteDefinition) : Value :=
  .object <|
    (match d.name with
      | some name => [("name", .text name)]
      | none => []) ++
    [("pattern", .text d.pattern), ("defaults", .ofTexts d.defaults),
      ("constraints", .ofTexts d.constraints)]

/-- The fields of a definition while it is read. -/
structure Draft where
  name : Option (Option String)
  pattern : Option String
  defaults : Option Params
  constraints : Option ConstraintTable

/-- Reads one field. -/
def Draft.read (depth : Nat) (d : Draft) (name : String) (t : Tree) : Decoded Draft := do
  match name with
  | "name" => return { d with name := ← Tree.once d.name t.toText? }
  | "pattern" => return { d with pattern := ← Tree.once d.pattern t.toText }
  | "defaults" => return { d with defaults := ← Tree.once d.defaults (t.toTexts depth) }
  | _ => return { d with constraints := ← Tree.once d.constraints (t.toTexts depth) }

/-- The definition, when all fields have been read. Only the pattern has to be there. -/
def Draft.finish (d : Draft) : Decoded RouteDefinition := do
  return ⟨d.name.getD none, ← Tree.needed d.pattern, d.defaults.getD .empty,
    d.constraints.getD .empty⟩

/-- Decodes a definition. -/
def decode (depth : Nat) (t : Tree) : Decoded RouteDefinition := do
  (← t.toRecord ["name", "pattern", "defaults", "constraints"] Draft.read
    ⟨none, none, none, none⟩ depth).finish

/-- Decodes a list of definitions. -/
def decodeList (depth : Nat) (t : Tree) : Decoded (List RouteDefinition) := t.toList depth decode

/-- Decodes an object whose member `routes`, if it is there, is a list of definitions. -/
def decodeFile (depth : Nat) (t : Tree) : Decoded (List RouteDefinition) := do
  let routes ← t.toRecord ["routes"]
    (fun depth (old : Option (List RouteDefinition)) _ t => Tree.once old (decodeList depth t))
    none depth
  return routes.getD []

/-- The bytes of a definition in a key: its length in eight bytes, and its text. -/
def keyBytes (d : RouteDefinition) : List UInt8 :=
  let text := Bytes.ofText d.toJson.write
  Bytes.littleEndian 8 text.length ++ text

end RouteDefinition

/-- The bytes that are hashed for the key of definitions. -/
def keyBytes (definitions : List RouteDefinition) : List UInt8 :=
  definitions.flatMap RouteDefinition.keyBytes

/-- The key of definitions. -/
def keyOf (definitions : List RouteDefinition) : String :=
  Bytes.hex (Bytes.Sha256.hash (keyBytes definitions))

namespace RouteTable

/-- A table made of definitions, and what went wrong on the way. -/
structure Built where
  table : RouteTable
  faults : List Fault
  deriving DecidableEq

/-- Registers a definition. One that fails leaves the table as it is. -/
def Built.add (b : Built) (id : Nat) (d : RouteDefinition) : Built :=
  match b.table.register id d.name d.pattern d.options with
  | .ok (table, _) => { b with table }
  | .error fault => { b with faults := b.faults ++ [fault] }

/-- Registers definitions one after another; the first one gets the identity `id`, and so on. -/
def Built.addAll (b : Built) (id : Nat) : List RouteDefinition → Built
  | [] => b
  | d :: ds => (b.add id d).addAll (id + 1) ds

/-- The table of definitions. -/
def build (id : Nat) (definitions : List RouteDefinition) : Built :=
  Built.addAll ⟨.empty, []⟩ id definitions

/-- What is reported when definitions are registered. -/
def Built.addAllEvents (b : Built) (id : Nat) : List RouteDefinition → List Event
  | [] => []
  | d :: ds =>
    b.table.registerEvents d.name d.pattern d.options ++ (b.add id d).addAllEvents (id + 1) ds

/-- What is reported by `build`. -/
def buildEvents (definitions : List RouteDefinition) : List Event :=
  Built.addAllEvents ⟨.empty, []⟩ 0 definitions

end RouteTable

end Routing
