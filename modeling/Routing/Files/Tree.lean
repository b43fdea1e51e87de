import Routing.Files.Path

/-!
A tree of directories and files.

Every operation is given a path as a text and goes through its pieces from the root on. A piece is
only taken in a directory, even where two points lead back out of it at once: below a file there is
nothing, and neither is there below a name that is missing.

    x/../y     leads to y if x is a directory, and nowhere else
-/

namespace Routing.Files

/-- A file, or a directory with what is in it. No two entries of a directory share a name. -/
inductive Tree where
  | file (content : String)
  | directory (entries : List (String × Tree))

/-- Why an operation fails. -/
inductive Refusal where
  /-- There is nothing under this path. -/
  | notFound
  /-- A file stands where a directory is needed, a directory where a file is needed, or there can be
  no such path. -/
  | other
  deriving DecidableEq, Repr

namespace Tree

/-- The directory with nothing in it. -/
def empty : Tree := .directory []

instance : Inhabited Tree := ⟨empty⟩

/-! ### Places -/

/-- What stands at a place. -/
def find? : Tree → Parts → Option Tree
  | t, [] => some t
  | .file _, _ :: _ => none
  | .directory entries, name :: rest =>
    match entries.lookup name with
    | some t => t.find? rest
    | none => none

/-- Sets what stands at a place: `node`, or nothing. The directories on the way have to be there;
the root stays what it is. -/
def set (node : Option Tree) : Parts → Tree → Tree
  | [], t => t
  | _ :: _, .file content => .file content
  | [name], .directory entries =>
    .directory (entries.filter (·.1 != name) ++ node.toList.map fun t => (name, t))
  | name :: rest, .directory entries =>
    match entries.lookup name with
    | some t => .directory (entries.filter (·.1 != name) ++ [(name, t.set node rest)])
    | none => .directory entries

/-- Puts something at a place. -/
def put (t : Tree) (place : Parts) (node : Tree) : Tree := t.set (some node) place

/-- Removes what stands at a place, and all that is in it. -/
def prune (t : Tree) (place : Parts) : Tree := t.set none place

/-- Goes through pieces, from the place `here` on. What stands at the end is not asked. -/
def walk (t : Tree) (here : Parts) : (pieces : List String) → Except Refusal Parts
  | [] => .ok here
  | piece :: rest =>
    match t.find? here, here.enter? piece with
    | none, _ => .error .notFound
    | some (.directory _), some there => t.walk there rest
    | _, _ => .error .other

/-! ### Paths -/

/-- The place that a path leads to. -/
def locate (t : Tree) (path : String) : Except Refusal Parts :=
  if isPassable path then t.walk [] (pieces path) else .error .other

/-- What a path leads to. -/
def look (t : Tree) (path : String) : Except Refusal Tree := do
  match t.find? (← t.locate path) with
  | some (.file content) => if asksDirectory path then .error .other else .ok (.file content)
  | some (.directory entries) => .ok (.directory entries)
  | none => .error .notFound

/-- Is there a directory? -/
def isDirectory (t : Tree) (path : String) : Bool :=
  match t.look path with
  | .ok (.directory _) => true
  | _ => false

/-- Is there a file? -/
def isFile (t : Tree) (path : String) : Bool :=
  match t.look path with
  | .ok (.file _) => true
  | _ => false

/-- The content of a file. -/
def read (t : Tree) (path : String) : Except Refusal String := do
  match ← t.look path with
  | .file content => .ok content
  | .directory _ => .error .other

/-- The names in a directory. -/
def list (t : Tree) (path : String) : Except Refusal (List String) := do
  match ← t.look path with
  | .file _ => .error .other
  | .directory entries => .ok (entries.map (·.1))

/-- Writes a file into a directory that is there; a file of that name is replaced. -/
def write (t : Tree) (path content : String) : Except Refusal Tree := do
  let place ← t.locate path
  match t.find? place, asksDirectory path with
  | some (.directory _), _ => .error .other
  | _, true => .error .other
  | _, false => .ok (t.put place (.file content))

/-- Removes a file. -/
def removeFile (t : Tree) (path : String) : Except Refusal Tree := do
  match ← t.look path with
  | .file _ => return t.prune (← t.locate path)
  | .directory _ => .error .other

/-- Removes a directory and all that is in it. -/
def removeDirectory (t : Tree) (path : String) : Except Refusal Tree := do
  match ← t.look path with
  | .file _ => .error .other
  | .directory _ => return t.prune (← t.locate path)

/-- Goes through pieces, from the directory `here` on, and makes the directories that are missing.
It ends at the first that cannot be made; those before it stay. -/
def makeWay (t : Tree) (here : Parts) : (pieces : List String) → Tree × Bool
  | [] => (t, true)
  | piece :: rest =>
    match here.enter? piece with
    | none => (t, false)
    | some there =>
      match t.find? there with
      | some (.directory _) => t.makeWay there rest
      | some (.file _) => (t, false)
      | none => (t.put there empty).makeWay there rest

/-- Makes a directory, and all directories on the way to it. The answer is whether it is there then;
the tree keeps what was made even if it is not. A point at the end makes nothing: what stands before
it has to be a directory already. -/
def makeDirectories (t : Tree) (path : String) : Tree × Bool :=
  if !isPassable path then (t, false)
  else if endsInPoint path then
    let (t, done) := t.makeWay [] (pieces (parent path))
    (t, done && t.isDirectory path)
  else t.makeWay [] (pieces path)

mutual

/-- All that is in a directory: the way from there, and what stands at its end. -/
def contents : Tree → List (Parts × Tree)
  | .file _ => []
  | .directory entries => contentsOf entries

/-- The entries of a directory, each with all that is in it. -/
def contentsOf : List (String × Tree) → List (Parts × Tree)
  | [] => []
  | (name, t) :: rest =>
    ([name], t) :: t.contents.map (fun (way, node) => (name :: way, node)) ++ contentsOf rest

end

end Tree

end Routing.Files
