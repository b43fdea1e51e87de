/-!
Paths of files: texts with a slash between their parts.

The text of a path is kept as it was put together, since it is reported in that form. What a path
says is given by its `pieces`: empty parts and single points count for nothing, and two points lead
back to the directory above. Where that is depends on the directories that are there, since a piece
can only be taken in a directory.

    logs//2024/./../x.log     pieces  logs, 2024, .., x.log     parent  logs//2024/./..
-/

namespace Routing.Files

/-- A place: the names of the directories on the way down to it, and its own name. -/
abbrev Parts := List String

/-- The number of bytes that a name can have. -/
def nameLimit : Nat := 255

/-- The number of bytes that a path can have. -/
def pathLimit : Nat := 4095

/-- Splits a text at the slashes. -/
def splitParts (cs : List Char) : List String :=
  (cs.splitOn '/').map String.ofList

/-- Does a part count for nothing? -/
def isIdle (part : String) : Bool := part == "" || part == "."

/-- The parts of a path that count, among them the ones that lead back. -/
def pieces (path : String) : List String :=
  (splitParts path.toList).filter fun p => !isIdle p

/-- Takes a piece after a place, unless it is too long for a name. There is nothing above the
root. -/
def Parts.enter? (here : Parts) (piece : String) : Option Parts :=
  if piece = ".." then some here.dropLast
  else if piece.utf8ByteSize ≤ nameLimit then some (here ++ [piece])
  else none

/-- Can a path be asked for at all? -/
def isPassable (path : String) : Bool :=
  path.utf8ByteSize ≤ pathLimit && !path.toList.contains '\x00'

/-- The last part of a path, be it idle or not. -/
def lastPart (path : String) : String := (splitParts path.toList).getLastD ""

/-- Can a path only lead to a directory? -/
def asksDirectory (path : String) : Bool := isIdle (lastPart path) || lastPart path == ".."

/-- Does a path end in a single point? Slashes may follow. -/
def endsInPoint (path : String) : Bool :=
  ((splitParts path.toList).filter (· != "")).getLast? == some "."

/-- Leaves out the idle parts at the end. -/
def dropIdle (parts : List String) : List String := (parts.reverse.dropWhile isIdle).reverse

/-- A path without its last piece. -/
def parent (path : String) : String :=
  "/".intercalate (dropIdle (dropIdle (splitParts path.toList)).dropLast)

/-- Appends a name to a path. A name that starts with a slash is a path of its own. -/
def join (dir name : String) : String :=
  if name.startsWith "/" then name
  else if dir = "" || dir.endsWith "/" then dir ++ name
  else dir ++ "/" ++ name

/-- The extension of a file's name: what follows its last point, unless it starts with that
point. -/
def extension? (name : String) : Option String :=
  let reversed := name.toList.reverse
  match reversed.dropWhile (· != '.') with
  | [] => none
  | [_] => none
  | _ => if name = ".." then none else some (String.ofList (reversed.takeWhile (· != '.')).reverse)

/-- The extension of the file that a path names. -/
def pathExtension? (path : String) : Option String := (pieces path).getLast?.bind extension?

end Routing.Files
