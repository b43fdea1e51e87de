import Routing.Json.Decode
import Routing.Route

/-!
Routes as JSON.

What is written of a route is its pattern, its segments, its expression, its defaults and the names
of its parameters. When a route is read, names and expression are compared with what the segments
give, and the rest is derived again.

A segment is an object whose member `kind` says which one it is, or the array of its kind and its
fields. Within another segment the kind may also be given by its number.
-/

namespace Routing

open Json

namespace Segment

mutual

/-- A segment as JSON. -/
def toJson : Segment → Value
  | literal text => .object [("kind", .text "literal"), ("text", .text text)]
  | parameter name constraint =>
    .object [("kind", .text "parameter"), ("name", .text name), ("constraint", .text constraint)]
  | optional children =>
    .object [("kind", .text "optional"), ("children", .array (listToJson children))]

/-- Segments as JSON. -/
def listToJson : List Segment → List Value
  | [] => []
  | s :: ss => s.toJson :: listToJson ss

end

/-- The kinds of segments, in the order of their numbers. -/
inductive Kind where
  | literal
  | parameter
  | optional
  deriving DecidableEq

/-- The kind with this name. -/
def Kind.ofName? : String → Option Kind
  | "literal" => some .literal
  | "parameter" => some .parameter
  | "optional" => some .optional
  | _ => none

/-- The kind that a tree gives, within another segment or not. -/
def Kind.ofTree (nested : Bool) : Tree → Decoded Kind
  | .text (some name) => Tree.needed (ofName? name)
  | .number n =>
    match nested, n.toNumber? with
    | true, some (.whole 0) => .ok .literal
    | true, some (.whole 1) => .ok .parameter
    | true, some (.whole 2) => .ok .optional
    | _, _ => .error .malformed
  | _ => .error .malformed

/-- The fields of a segment besides its kind, as members or in order. -/
inductive Fields where
  | named (members : List (Option String × Tree))
  | ordered (items : List Tree)

/-- Splits the kind of a segment from its fields. There must be exactly one kind. -/
def splitKind (nested : Bool) : Tree → Decoded (Kind × Fields)
  | .object members =>
    match members.filter (·.1 == some "kind") with
    | [(_, t)] => do return (← Kind.ofTree nested t, .named (members.filter (·.1 != some "kind")))
    | _ => .error .malformed
  | .array (t :: items) => do return (← Kind.ofTree nested t, .ordered items)
  | _ => .error .malformed

/-- The values of exactly the named fields. -/
def Fields.select (names : List String) : Fields → Decoded (List Tree)
  | named members =>
    names.mapM fun name =>
      match members.filter (·.1 == some name) with
      | [(_, t)] => .ok t
      | _ => .error .malformed
  | ordered items => if items.length = names.length then .ok items else .error .malformed

/-- Reads a segment whose tree is known to be complete. The depth bounds the nesting. -/
def ofTree : (depth : Nat) → (nested : Bool) → Tree → Decoded Segment
  | 0, _, _ => .error .malformed
  | depth + 1, nested, t => do
    let (kind, fields) ← splitKind nested t
    match kind with
    | .literal =>
      match ← fields.select ["text"] with
      | [text] => return .literal (← text.toText)
      | _ => .error .malformed
    | .parameter =>
      match ← fields.select ["name", "constraint"] with
      | [name, constraint] => return .parameter (← name.toText) (← constraint.toText)
      | _ => .error .malformed
    | .optional =>
      match ← fields.select ["children"] with
      | [.array items] => return .optional (← items.mapM (ofTree depth true))
      | _ => .error .malformed

/-- Decodes a segment. All of its tree has to be in order, also what the segment does not use. -/
def decode (depth : Nat) (t : Tree) : Decoded Segment := do
  let _ ← t.toValue depth
  ofTree depth false t

/-- Decodes segments. -/
def decodeList (depth : Nat) (t : Tree) : Decoded (List Segment) := t.toList depth decode

end Segment

/-- What is written of a route. -/
structure RouteRecord where
  pattern : String
  segments : List Segment
  expression : String
  defaults : Params
  names : List String
  deriving DecidableEq

namespace RouteRecord

/-- A record as JSON. -/
def toJson (r : RouteRecord) : Value :=
  .object [
    ("pattern", .text r.pattern),
    ("segments", .array (Segment.listToJson r.segments)),
    ("matching_expression", .text r.expression),
    ("defaults", .ofTexts r.defaults),
    ("parameter_names", .array (r.names.map .text))]

/-- The fields of a record while it is read. -/
structure Draft where
  pattern : Option String
  segments : Option (List Segment)
  expression : Option String
  defaults : Option Params
  names : Option (List String)

/-- Reads one field. -/
def Draft.read (depth : Nat) (d : Draft) (name : String) (t : Tree) : Decoded Draft := do
  match name with
  | "pattern" => return { d with pattern := ← Tree.once d.pattern t.toText }
  | "segments" => return { d with segments := ← Tree.once d.segments (Segment.decodeList depth t) }
  | "matching_expression" => return { d with expression := ← Tree.once d.expression t.toText }
  | "defaults" => return { d with defaults := ← Tree.once d.defaults (t.toTexts depth) }
  | _ => return { d with names := ← Tree.once d.names (t.toList depth fun _ => Tree.toText) }

/-- Decodes a record. -/
def decode (depth : Nat) (t : Tree) : Decoded RouteRecord := do
  let d ← t.toRecord ["pattern", "segments", "matching_expression", "defaults", "parameter_names"]
    Draft.read ⟨none, none, none, none, none⟩ depth
  return ⟨← Tree.needed d.pattern, ← Tree.needed d.segments, ← Tree.needed d.expression,
    ← Tree.needed d.defaults, ← Tree.needed d.names⟩

end RouteRecord

/-- The first name that stands in the list before, with its position. -/
def firstRepeated : (before : List String) → List String → Option (Nat × String)
  | _, [] => none
  | before, name :: names =>
    if before.contains name then some (before.length, name)
    else firstRepeated (before ++ [name]) names

namespace Route

/-- What is written of a route. -/
def toRecord (r : Route) : RouteRecord :=
  ⟨r.pattern, r.segments, r.expression.source, r.defaults, r.names⟩

/-- A route as JSON. -/
def toJson (r : Route) : Value := r.toRecord.toJson

/-- The route of a record whose names and expression are those of its segments. -/
def ofRecord (r : RouteRecord) : Except Fault Route :=
  let declared := (Segment.allParameters r.segments).map (·.1)
  if declared ≠ r.names then .error (.data (.namesDiffer r.pattern))
  else match firstRepeated [] declared with
    | some (position, name) => .error (.data (.repeatedParameter r.pattern name position))
    | none =>
      let expression := Segment.expression r.segments
      if expression ≠ r.expression then .error (.data (.expressionDiffers r.pattern))
      else match assemble r.pattern r.segments expression r.defaults r.names with
        | .ok route => .ok route
        | .error reason => .error (.pattern r.pattern reason)

/-- Decodes a route. -/
def decode (depth : Nat) (t : Tree) : Decoded Route := do
  match ofRecord (← RouteRecord.decode depth t) with
  | .ok r => .ok r
  | .error fault => .error (.refused fault)

end Route

end Routing
