import Routing.Definition
import Routing.Files.Tree
import Routing.Table.Json

/-!
A cache of tables: compiled routes on disk, each table under a key.

An entry is a file whose name is the hash of its key. The first two digits of the hash name the
directory that the file is in.

    <dir>/3f/3fa1….json      format, key, table

What is found under a key is used only if it can be read, is whole, and is of the present format and
for this key. Anything else is a miss, and never a fault.
-/

namespace Routing

open Json

/-- A directory of cached tables. It is made when the first table is saved. -/
structure RouteCache where
  dir : String
  deriving DecidableEq

/-- What the file of an entry holds. -/
structure CacheEntry where
  format : Nat
  key : String
  table : RouteTable
  deriving DecidableEq

namespace CacheEntry

/-- The present format of entries. -/
def currentFormat : Nat := 1

/-- An entry as JSON. -/
def toJson (e : CacheEntry) : Value :=
  .object [("format", .nat e.format), ("key", .text e.key), ("table", e.table.toJson)]

/-- The number of a format: whole, not negative, and of 32 bits. -/
def decodeFormat : Tree → Decoded Nat
  | .number n =>
    match n.toNumber? with
    | some (.whole (.ofNat k)) => if k < 0x100000000 then .ok k else .error .malformed
    | _ => .error .malformed
  | _ => .error .malformed

/-- The fields of an entry while it is read. -/
structure Draft where
  format : Option Nat
  key : Option String
  table : Option RouteTable

/-- Reads one field. The first route of the table gets the identity `id`. -/
def Draft.read (id : Nat) (depth : Nat) (d : Draft) (name : String) (t : Tree) :
    Decoded Draft := do
  match name with
  | "format" => return { d with format := ← Tree.once d.format (decodeFormat t) }
  | "key" => return { d with key := ← Tree.once d.key t.toText }
  | _ => return { d with table := ← Tree.once d.table (RouteTable.decode id depth t) }

/-- Decodes an entry; the first route of its table gets the identity `id`, and so on. -/
def decode (id : Nat) (depth : Nat) (t : Tree) : Decoded CacheEntry := do
  let d ← t.toRecord ["format", "key", "table"] (Draft.read id) ⟨none, none, none⟩ depth
  return ⟨← Tree.needed d.format, ← Tree.needed d.key, ← Tree.needed d.table⟩

end CacheEntry

/-- What is found under a key. -/
inductive Cached where
  | hit (table : RouteTable)
  /-- There is no entry. -/
  | absent
  /-- There is something, and it is no file. -/
  | unreadable
  /-- The file does not hold an entry. -/
  | corrupt
  /-- The entry has another format, or is for another key. -/
  | stale (format : Nat)
  deriving DecidableEq

namespace Cached

/-- The table, if there is one to be used. -/
def table? : Cached → Option RouteTable
  | hit table => some table
  | _ => none

end Cached

namespace RouteCache

/-- The hash that an entry is named by. -/
def hashOf (key : String) : String := Bytes.hex (Bytes.Sha256.hash (Bytes.ofText key))

/-- The name of the directory for entries of this hash: the first two digits. -/
def shelfOf (hash : String) : String := String.ofList (hash.toList.take 2)

/-- The path of the directory that the entry of a key is in. -/
def shelfPath (c : RouteCache) (key : String) : String := Files.join c.dir (shelfOf (hashOf key))

/-- The path of the entry of a key. -/
def entryPath (c : RouteCache) (key : String) : String :=
  Files.join (c.shelfPath key) (hashOf key ++ ".json")

/-- Is there a file for this key? It may still be of no use. -/
def contains (c : RouteCache) (files : Files.Tree) (key : String) : Bool :=
  files.isFile (c.entryPath key)

/-! ### Saving -/

/-- Saves a table under a key, in place of the one that is there. The directories that are made on
the way stay even if that fails then. -/
def save (c : RouteCache) (files : Files.Tree) (key : String) (table : RouteTable) :
    Files.Tree × Except Fault Unit :=
  let text := (CacheEntry.toJson ⟨CacheEntry.currentFormat, key, table⟩).write
  match files.makeDirectories (c.shelfPath key) with
  | (files, false) => (files, .error .files)
  | (files, true) =>
    match files.write (c.entryPath key) text with
    | .error _ => (files, .error .files)
    | .ok files => (files, .ok ())

/-- What is reported by `save`. -/
def saveEvents (c : RouteCache) (files : Files.Tree) (key : String) (table : RouteTable) :
    List Event :=
  match (c.save files key table).2 with
  | .error _ => []
  | .ok _ => [⟨.info, "Cached route table",
      [("key", .text key), ("routes", .count table.size), ("path", .text (c.entryPath key))]⟩]

/-! ### Loading -/

/-- Finds what is saved under a key; the first route gets the identity `id`, and so on. -/
def find (c : RouteCache) (files : Files.Tree) (id : Nat) (key : String) : Cached :=
  match files.read (c.entryPath key) with
  | .error .notFound => .absent
  | .error .other => .unreadable
  | .ok text =>
    match Json.decode (CacheEntry.decode id) text with
    | .error _ => .corrupt
    | .ok entry =>
      if entry.format = CacheEntry.currentFormat ∧ entry.key = key then .hit entry.table
      else .stale entry.format

/-- The table that is saved under a key. -/
def load (c : RouteCache) (files : Files.Tree) (id : Nat) (key : String) : Option RouteTable :=
  (c.find files id key).table?

/-- What is reported by `load`. -/
def loadEvents (c : RouteCache) (files : Files.Tree) (key : String) : List Event :=
  let path : String × EventField := ("path", .text (c.entryPath key))
  match c.find files 0 key with
  | .hit table =>
    [⟨.info, "Loaded route table from cache", [("key", .text key), ("routes", .count table.size)]⟩]
  | .absent => [⟨.debug, "Route cache miss", [("key", .text key)]⟩]
  | .unreadable => [⟨.warn, "Unreadable route cache entry: *", [("key", .text key), path]⟩]
  | .corrupt => [⟨.warn, "Corrupt route cache entry: *", [("key", .text key), path]⟩]
  | .stale format =>
    [⟨.warn, "Stale route cache entry", [("key", .text key), ("format", .count format), path]⟩]

/-! ### Clearing -/

/-- Removes the entry of a key. The number of removed entries is given, too. -/
def clearKey (c : RouteCache) (files : Files.Tree) (key : String) :
    Except Fault (Nat × Files.Tree) :=
  match files.removeFile (c.entryPath key) with
  | .ok files => .ok (1, files)
  | .error .notFound => .ok (0, files)
  | .error .other => .error .files

/-- Is this the name of a directory for entries? -/
def isShelf (name : String) : Bool :=
  name.length == 2 && name.toList.all fun c =>
    c.isDigit || ('a' ≤ c && c ≤ 'f') || ('A' ≤ c && c ≤ 'F')

/-- Removes one directory for entries, and counts the entries in it. -/
def clearShelf (c : RouteCache) (state : Nat × Files.Tree) (name : String) : Nat × Files.Tree :=
  let shelf := Files.join c.dir name
  match isShelf name, state.2.list shelf, state.2.removeDirectory shelf with
  | true, .ok names, .ok files =>
    (state.1 + (names.filter fun n => Files.extension? n == some "json").length, files)
  | _, _, _ => state

/-- Removes all entries, with the directories that they are in. -/
def clearAll (c : RouteCache) (files : Files.Tree) : Except Fault (Nat × Files.Tree) :=
  match files.list c.dir with
  | .ok names => .ok (names.foldl c.clearShelf (0, files))
  | .error .notFound => .ok (0, files)
  | .error .other => .error .files

/-- Removes the entry of a key, or all entries. -/
def clear (c : RouteCache) (files : Files.Tree) : Option String → Except Fault (Nat × Files.Tree)
  | some key => c.clearKey files key
  | none => c.clearAll files

/-- What is reported by `clear`. -/
def clearEvents (c : RouteCache) (files : Files.Tree) : Option String → List Event
  | some _ => []
  | none =>
    match files.list c.dir, c.clearAll files with
    | .ok _, .ok (removed, _) =>
      [⟨.info, "Cleared route cache", [("removed", .count removed), ("dir", .text c.dir)]⟩]
    | _, _ => []

end RouteCache

end Routing
