import Routing.Json.Decode

/-!
The settings of an application: where its URLs start, whether compiled routes are kept, and how logs
and sessions are set up.
-/

namespace Routing

open Json

/-- Where session data is kept. -/
inductive SessionBackend where
  /-- In a store of the process, under the identity of the session. -/
  | native
  /-- In the cookie itself. -/
  | cookie
  deriving DecidableEq, Repr, Inhabited

namespace SessionBackend

/-- The name of a backend. -/
def name : SessionBackend → String
  | native => "native"
  | cookie => "cookie"

/-- The backend with this name. -/
def ofName? : String → Option SessionBackend
  | "native" => some native
  | "cookie" => some cookie
  | _ => none

/-- Decodes a backend. -/
def decode (depth : Nat) (t : Tree) : Decoded SessionBackend := do
  Tree.needed (ofName? (← t.toChoice depth))

end SessionBackend

/-- The settings of sessions. -/
structure SessionSettings where
  backend : SessionBackend
  /-- The name of the session, which is that of its cookie, too. -/
  name : String
  /-- The lifetime in seconds; zero means until the browser is closed. -/
  lifetime : Nat
  deriving DecidableEq, Repr

instance : Inhabited SessionSettings := ⟨⟨.native, "session", 0⟩⟩

/-- The settings. -/
structure Settings where
  debug : Bool
  /-- The path that all URLs start with. -/
  baseUrl : String
  /-- The host of URLs that name a protocol. -/
  host : Option String
  /-- Are compiled routes kept between runs? -/
  cacheRoutes : Bool
  cacheDir : Option String
  logLevel : String
  logDir : Option String
  session : SessionSettings
  /-- Anything else. -/
  extra : List (String × Value)
  deriving DecidableEq

namespace Settings

/-- The settings that hold where nothing else is said. -/
def default : Settings := ⟨true, "/", none, false, none, "info", none, Inhabited.default, []⟩

instance : Inhabited Settings := ⟨default⟩

/-- The directory for compiled routes, if they are to be kept and there is one. -/
def routeCacheDir (s : Settings) : Option String := if s.cacheRoutes then s.cacheDir else none

/-- Settings of sessions as JSON. -/
def sessionToJson (s : SessionSettings) : Value :=
  .object [("backend", .text s.backend.name), ("name", .text s.name), ("lifetime", .nat s.lifetime)]

/-- Settings as JSON. -/
def toJson (s : Settings) : Value :=
  .object [
    ("debug", .bool s.debug),
    ("base_url", .text s.baseUrl),
    ("host", .ofText? s.host),
    ("cache_routes", .bool s.cacheRoutes),
    ("cache_dir", .ofText? s.cacheDir),
    ("log_level", .text s.logLevel),
    ("log_dir", .ofText? s.logDir),
    ("session", sessionToJson s.session),
    ("extra", .object s.extra)]

end Settings

end Routing
