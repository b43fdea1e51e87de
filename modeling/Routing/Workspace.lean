import Routing.Site

/-!
A workspace: one table at work, the routes that were handed out when they were registered, the table
that is installed, and the tables that were set aside.

Every operation that makes a route gives it an identity that none had before. Tables are copied by
installing them and by setting them aside; the routes in a copy are the same routes. A table that is
read from a text has routes of its own, even if they are equal to others.

    register "a"      table a ↦ 0      held 0
    register "a"      table a ↦ 1      held 0, 1      0 has no name any more
    install           table a ↦ 1      installed a ↦ 1
    read from JSON    table a ↦ 2      installed a ↦ 1      1 has no name in the table
-/

namespace Routing

open Json

/-- The state of a workspace. -/
structure Workspace where
  table : RouteTable
  /-- The routes that were handed out, in order. -/
  held : List Handle
  installed : RouteTable
  /-- The tables that were set aside, in order. -/
  snapshots : List RouteTable
  /-- The identity of the next route. -/
  nextId : Nat
  files : Files.Tree

namespace Workspace

/-- The workspace at the beginning, with these files. -/
def ofFiles (files : Files.Tree) : Workspace := ⟨.empty, [], .empty, [], 0, files⟩

/-- Replaces the table, whose routes took the next `count` identities. -/
def withTable (w : Workspace) (table : RouteTable) (count : Nat) : Workspace :=
  { w with table, nextId := w.nextId + count }

/-- Registers a route and hands it out. -/
def register (w : Workspace) (name : Option String) (pattern : String) (options : RouteOptions) :
    Except Fault (Workspace × Handle) :=
  match w.table.register w.nextId name pattern options with
  | .ok (table, handle) => .ok ({ w.withTable table 1 with held := w.held ++ [handle] }, handle)
  | .error fault => .error fault

/-- Puts a compiled route under a name and hands it out. -/
def insert (w : Workspace) (name : String) (route : Route) : Workspace × Handle :=
  let handle : Handle := ⟨w.nextId, route⟩
  ({ w.withTable (w.table.insert name handle) 1 with held := w.held ++ [handle] }, handle)

/-- Replaces the table by one that is read from JSON. -/
def read (w : Workspace) (text : String) : Decoded Workspace := do
  let table ← Json.decode (RouteTable.decode w.nextId) text
  return w.withTable table table.size

/-- Replaces the table by that of definitions. What went wrong is given, too. -/
def build (w : Workspace) (definitions : List RouteDefinition) : Workspace × List Fault :=
  let built := RouteTable.build w.nextId definitions
  (w.withTable built.table definitions.length, built.faults)

/-- Starts over with an empty table. -/
def reset (w : Workspace) : Workspace := { w with table := .empty }

/-- Installs a table and sets it aside. -/
def installTable (w : Workspace) (table : RouteTable) : Workspace :=
  { w with installed := table, snapshots := w.snapshots ++ [table] }

/-- Installs a copy of the table. -/
def install (w : Workspace) : Workspace := w.installTable w.table

/-- Sets the installed table aside. -/
def snapshot (w : Workspace) : Workspace := { w with snapshots := w.snapshots ++ [w.installed] }

/-- Takes a copy of a table for the table. -/
def use (w : Workspace) (table : RouteTable) : Workspace := { w with table }

/-- Starts with definitions and installs the outcome. -/
def bootstrap (w : Workspace) (s : Settings) (definitions : List RouteDefinition) :
    Workspace × Bootstrap :=
  let start := Bootstrap.start w.files w.nextId s definitions
  let nextId := w.nextId + definitions.length + start.table.size
  let w := { w with files := start.files, nextId }
  (w.installTable start.table, start)

/-- Loads a table from a cache. Its routes take the next identities. -/
def load (w : Workspace) (cache : RouteCache) (key : String) : Option (Workspace × RouteTable) :=
  (cache.load w.files w.nextId key).map fun table =>
    ({ w with nextId := w.nextId + table.size }, table)

/-- The name of a route that was handed out. -/
def nameOf (w : Workspace) (handle : Handle) : Option String := w.table.nameOf handle.id

end Workspace

end Routing
