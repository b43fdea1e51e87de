import Routing.Cache
import Routing.Settings

/-!
A site: the table that an application installs when it starts, and the URLs that it makes by the
names of its routes.

At a start the table of the definitions is taken from the cache, if there is one and it has it. Else
it is built, and saved for the next start unless something went wrong. That saving fails is reported
and changes nothing else.
-/

namespace Routing

namespace Settings

/-- The origin of URLs: it takes a protocol as well as a host. -/
def origin? (s : Settings) (protocol : Option String) : Option Origin :=
  match protocol, s.host with
  | some protocol, some host => some ⟨protocol, host⟩
  | _, _ => none

/-- The cache of routes, if there is one. -/
def cache? (s : Settings) : Option RouteCache := s.routeCacheDir.map RouteCache.mk

end Settings

namespace RouteTable

/-- Builds the URL of the route under a name, as the settings say. -/
def siteUrl (t : RouteTable) (s : Settings) (name : String) (params : Params)
    (protocol : Option String) : Except Fault String :=
  t.url name params s.baseUrl (s.origin? protocol)

/-- What is reported when a table is installed. -/
def installEvents (t : RouteTable) : List Event :=
  [⟨.info, "Installed route table", [("routes", .count t.size)]⟩]

end RouteTable

/-- The outcome of a start. -/
structure Bootstrap where
  /-- The table to install. -/
  table : RouteTable
  /-- Was the table in the cache? -/
  fromCache : Bool
  /-- What went wrong with definitions. Their routes are missing in the table. -/
  faults : List Fault
  /-- The files afterwards. -/
  files : Files.Tree

namespace Bootstrap

/-- The table that the cache has for definitions. -/
def cached? (files : Files.Tree) (id : Nat) (s : Settings)
    (definitions : List RouteDefinition) : Option RouteTable :=
  s.cache?.bind fun cache => cache.load files id (keyOf definitions)

/-- Saves what was built, if nothing went wrong. -/
def keep (files : Files.Tree) (s : Settings) (definitions : List RouteDefinition)
    (built : RouteTable.Built) : Files.Tree × Except Fault Unit :=
  match s.cache? with
  | some cache =>
    if built.faults = [] then cache.save files (keyOf definitions) built.table else (files, .ok ())
  | none => (files, .ok ())

/-- Starts with definitions; the first route gets the identity `id`, and so on. -/
def start (files : Files.Tree) (id : Nat) (s : Settings) (definitions : List RouteDefinition) :
    Bootstrap :=
  match cached? files id s definitions with
  | some table => ⟨table, true, [], files⟩
  | none =>
    let built := RouteTable.build id definitions
    ⟨built.table, false, built.faults, (keep files s definitions built).1⟩

/-- What is reported when what was built is saved. -/
def keepEvents (files : Files.Tree) (s : Settings) (definitions : List RouteDefinition)
    (built : RouteTable.Built) : List Event :=
  match (keep files s definitions built).2, s.cache? with
  | .error fault, _ => [⟨.warn, "Failed to cache route table: " ++ fault.message, []⟩]
  | .ok _, some cache =>
    if built.faults = [] then cache.saveEvents files (keyOf definitions) built.table else []
  | .ok _, none => []

/-- What is reported by `start`. -/
def startEvents (files : Files.Tree) (s : Settings) (definitions : List RouteDefinition) :
    List Event :=
  (match s.cache? with
    | some cache => cache.loadEvents files (keyOf definitions)
    | none => []) ++
  (match cached? files 0 s definitions with
    | some _ => []
    | none =>
      RouteTable.buildEvents definitions ++
        keepEvents files s definitions (RouteTable.build 0 definitions)) ++
  (start files 0 s definitions).table.installEvents

end Bootstrap

end Routing
