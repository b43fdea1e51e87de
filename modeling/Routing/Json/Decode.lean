import Routing.Fault
import Routing.Json.Tree

/-!
From a document to a value of some type.

A decoder takes a tree apart from left to right and stops at the first thing that is wrong. It is
given the number of levels that containers may still be nested. Members that a type does not know
are skipped; for them it only matters that they are complete.
-/

namespace Routing.Json

/-- Why a document is not decoded. -/
inductive DecodeFault where
  /-- The document is broken, or its shape is wrong. -/
  | malformed
  /-- The shape is right, and the values do not go together. -/
  | refused (reason : Fault)
  deriving DecidableEq, Repr

/-- The text of a fault. -/
def DecodeFault.message : DecodeFault → String
  | malformed => "*"
  | refused reason => reason.message

/-- The result of decoding. -/
abbrev Decoded (α : Type) := Except DecodeFault α

/-- The number of levels that containers of a document may be nested. -/
def maxDepth : Nat := 127

/-- Decodes a whole document, after which nothing may follow. -/
def decode {α : Type} (decoder : (depth : Nat) → Tree → Decoded α) (text : String) :
    Decoded α := do
  let (tree, ended) := Tree.ofText text
  let value ← decoder maxDepth tree
  if ended then return value else .error .malformed

namespace Tree

/-- A text. -/
def toText : Tree → Decoded String
  | text (some s) => .ok s
  | _ => .error .malformed

/-- A text that may be left out by writing `null`. -/
def toText? : Tree → Decoded (Option String)
  | null => .ok none
  | t => t.toText.map some

/-- Items in order. -/
def toList {α : Type} (depth : Nat) (item : Nat → Tree → Decoded α) (t : Tree) :
    Decoded (List α) :=
  match depth, t with
  | depth + 1, array items => items.mapM (item depth)
  | _, _ => .error .malformed

/-- A dictionary. Of two members with one name the later one counts. -/
def toDict {α : Type} (depth : Nat) (value : Nat → Tree → Decoded α) (t : Tree) :
    Decoded (Dict α) :=
  match depth, t with
  | depth + 1, object members =>
    members.foldlM (fun d (name, t) =>
      match name with
      | none => .error .malformed
      | some name => do return d.insert name (← value depth t)) .empty
  | _, _ => .error .malformed

/-- A dictionary of texts. -/
def toTexts (depth : Nat) (t : Tree) : Decoded (Dict String) := t.toDict depth fun _ => toText

/-- The name of one of several choices: a text, or an object with this one member that is
`null`. -/
def toChoice (depth : Nat) : Tree → Decoded String
  | text (some s) => .ok s
  | object [(some s, null)] => if depth = 0 then .error .malformed else .ok s
  | _ => .error .malformed

/-- A record with the named fields, given as an object or as the array of its fields in order. The
record is filled field by field. -/
def toRecord {σ : Type} (names : List String) (field : Nat → σ → String → Tree → Decoded σ)
    (start : σ) (depth : Nat) (t : Tree) : Decoded σ :=
  match depth, t with
  | depth + 1, object members =>
    members.foldlM (fun s (name, t) =>
      match name with
      | none => .error .malformed
      | some name =>
        if names.contains name then field depth s name t
        else if t.complete then .ok s
        else .error .malformed) start
  | depth + 1, array items => do
    let s ← (names.zip items).foldlM (fun s (name, t) => field depth s name t) start
    if items.length ≤ names.length then .ok s else .error .malformed
  | _, _ => .error .malformed

/-- Fills a field that must not be filled twice. -/
def once {α : Type} (old : Option α) (read : Decoded α) : Decoded (Option α) :=
  match old with
  | some _ => .error .malformed
  | none => read.map some

/-- A field that must be there. -/
def needed {α : Type} : Option α → Decoded α
  | some a => .ok a
  | none => .error .malformed

mutual

/-- Any value. -/
def toValue (depth : Nat) : Tree → Decoded Value
  | broken => .error .malformed
  | null => .ok .null
  | bool b => .ok (.bool b)
  | number n =>
    match n.toNumber? with
    | some n => .ok (.number n)
    | none => .error .malformed
  | text (some s) => .ok (.text s)
  | text none => .error .malformed
  | array items =>
    if depth = 0 then .error .malformed
    else do return .array (← toValues (depth - 1) items)
  | object members =>
    if depth = 0 then .error .malformed
    else do return .object (← toMembers (depth - 1) [] members)

/-- Any values. -/
def toValues (depth : Nat) : List Tree → Decoded (List Value)
  | [] => .ok []
  | t :: ts => do
    let v ← toValue depth t
    let vs ← toValues depth ts
    return v :: vs

/-- The members of an object in ascending order of their names; of two members with one name the
later one counts. -/
def toMembers (depth : Nat) (sorted : List (String × Value)) :
    List (Option String × Tree) → Decoded (List (String × Value))
  | [] => .ok sorted
  | (none, _) :: _ => .error .malformed
  | (some name, t) :: ms => do
    let v ← toValue depth t
    toMembers depth (Dict.insertEntry name v sorted) ms

end

end Tree

end Routing.Json
