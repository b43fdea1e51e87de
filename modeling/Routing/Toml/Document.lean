import Routing.Toml.Scalar

/-!
TOML documents.

A document is read line by line. The lines after a header belong to its table, which is put into its
place when the next header comes or the document ends.

    a = 1            ──▶  the table without a header
    [b.c]
    d.e = 2          ──▶  b (implied) → c (by a header) → d (dotted) → e
-/

namespace Routing.Toml

mutual

/-- Reads a value. The depth is the number of levels that may still be nested; the fuel is a bound
on the steps. -/
def readValue : (fuel : Nat) → (depth : Nat) → List Char → Option (WithRest Item)
  | 0, _, _ => none
  | fuel + 1, depth, cs =>
    match cs with
    | '"' :: _ => (readText cs).map fun (s, rest) => (.text s, rest)
    | '\'' :: _ => (readText cs).map fun (s, rest) => (.text s, rest)
    | '[' :: cs =>
      if depth = 0 then none
      else (readItems fuel (depth - 1) cs).map fun (items, rest) => (.array items, rest)
    | '\x7B' :: cs =>
      if depth = 0 then none
      else
        match skipBlanks cs with
        | '\x7D' :: rest => some (.table .inline [], rest)
        | cs => (readPairs fuel (depth - 1) [] cs).map
          fun (members, rest) => (.table .inline members, rest)
    | 't' :: 'r' :: 'u' :: 'e' :: rest => some (.boolean true, rest)
    | 'f' :: 'a' :: 'l' :: 's' :: 'e' :: rest => some (.boolean false, rest)
    | cs => (readDatetime cs).or (readNumber cs)

/-- Reads the items of an array up to its end. A comma may follow the last one. -/
def readItems : (fuel : Nat) → (depth : Nat) → List Char → Option (WithRest (List Item))
  | 0, _, _ => none
  | fuel + 1, depth, cs =>
    match skipLines cs.length cs with
    | ']' :: rest => some ([], rest)
    | cs => do
      let (item, rest) ← readValue fuel depth cs
      match skipLines rest.length rest with
      | ',' :: rest => do
        let (items, rest) ← readItems fuel depth rest
        return (item :: items, rest)
      | ']' :: rest => return ([item], rest)
      | _ => none

/-- Reads the members of a table between braces up to its end; there is at least one. -/
def readPairs : (fuel : Nat) → (depth : Nat) → Members → List Char → Option (WithRest Members)
  | 0, _, _, _ => none
  | fuel + 1, depth, members, cs => do
    let (keys, rest) ← readKey cs
    match keys.reverse, rest with
    | key :: path, '=' :: rest => do
      let (item, rest) ← readValue fuel depth (skipBlanks rest)
      let members ← members.add .inline path.reverse key item
      match skipBlanks rest with
      | ',' :: rest => readPairs fuel depth members rest
      | '\x7D' :: rest => return (members, rest)
      | _ => none
    | _, _ => none

end

/-- A document while it is read. -/
structure Draft where
  /-- What is in its place already. -/
  root : Members
  /-- The path of the table that the next lines belong to. -/
  path : List String
  /-- Is it one of several tables of this path? -/
  oneOfMany : Bool
  /-- The members of that table. -/
  current : Members

namespace Draft

/-- Before the first line. -/
def start : Draft := ⟨[], [], false, []⟩

/-- Puts the current table into its place. -/
def settle (d : Draft) : Option Members :=
  match d.path.reverse with
  | [] => some d.current
  | key :: path =>
    descend false (fun _ ms =>
      if d.oneOfMany then
        match ms.find? key with
        | none => some (ms.set key (.tables [d.current]))
        | some (.tables ts) => some (ms.set key (.tables (ts ++ [d.current])))
        | some _ => none
      else some (ms.set key (.table .header d.current))) path.reverse .header d.root

/-- Starts the table of a header. A table that is only implied so far keeps its members. -/
def openTable (d : Draft) (path : List String) : Option Draft := do
  let root ← d.settle
  match path.reverse with
  | [] => none
  | key :: above =>
    let found ← parentOf above.reverse root
    match found.find? key with
    | none => return ⟨root, path, false, []⟩
    | some (.table .implied members) =>
      let root ← descend false (fun _ ms => some (ms.remove key)) above.reverse .header root
      return ⟨root, path, false, members⟩
    | some _ => none
where
  /-- The members of the table that a path leads to; there are none if it is not there yet. -/
  parentOf : List String → Members → Option Members
    | [], ms => some ms
    | key :: path, ms =>
      match ms.find? key with
      | none => some []
      | some (.table form inner) => if form = .inline then none else parentOf path inner
      | some (.tables ts) => (ts.getLast?).bind (parentOf path)
      | some _ => none

/-- Starts one more of the tables of a header. -/
def openOneOfMany (d : Draft) (path : List String) : Option Draft := do
  let root ← d.settle
  match path.reverse with
  | [] => none
  | key :: above =>
    let found ← openTable.parentOf above.reverse root
    match found.find? key with
    | none => return ⟨root, path, true, []⟩
    | some (.tables _) => return ⟨root, path, true, []⟩
    | some _ => none

/-- Adds a line with a key and its value to the current table. -/
def addPair (d : Draft) (keys : List String) (item : Item) : Option Draft :=
  match keys.reverse with
  | [] => none
  | key :: path => do
    return { d with current := ← d.current.add .header path.reverse key item }

/-- Reads a header, after its first bracket. -/
def readHeader (d : Draft) (cs : List Char) : Option (WithRest Draft) :=
  match cs with
  | '[' :: cs => do
    let (keys, rest) ← readKey cs
    match rest with
    | ']' :: ']' :: rest => do return (← d.openOneOfMany keys, ← readLineEnd rest)
    | _ => none
  | cs => do
    let (keys, rest) ← readKey cs
    match rest with
    | ']' :: rest => do return (← d.openTable keys, ← readLineEnd rest)
    | _ => none

/-- Reads a line with a key and its value. -/
def readPair (d : Draft) (cs : List Char) : Option (WithRest Draft) := do
  let (keys, rest) ← readKey cs
  match rest with
  | '=' :: rest => do
    let (item, rest) ← readValue (2 * rest.length + 2) depthLimit (skipBlanks rest)
    return (← d.addPair keys item, ← readLineEnd rest)
  | _ => none

/-- Reads all lines. The fuel is the length of the text. -/
def readLines : (fuel : Nat) → Draft → List Char → Option Draft
  | 0, d, _ => some d
  | fuel + 1, d, cs =>
    match skipBlanks cs with
    | [] => some d
    | '#' :: cs => do readLines fuel d (← readLineEnd ('#' :: cs))
    | '[' :: cs => do
      let (d, rest) ← d.readHeader cs
      readLines fuel d rest
    | cs =>
      match readNewline cs with
      | some rest => readLines fuel d rest
      | none => do
        let (d, rest) ← d.readPair cs
        readLines fuel d rest

end Draft

/-- The members of the document's table. A byte order mark may stand first. -/
def read (text : String) : Option Members := do
  let cs := match text.toList with
    | '\uFEFF' :: cs => cs
    | cs => cs
  (← Draft.start.readLines (cs.length + 1) cs).settle

end Routing.Toml
