import Routing.Settings
import Routing.Toml.Json

/-!
Loading settings: from a document over the defaults, and from the environment over both.

A document is laid over the defaults member by member. Where both have an object, the two are merged
in the same way; anything else in the document replaces what was there, `null` included.

    defaults  {"session": {"name": "session", "lifetime": 0}}
    document  {"session": {"lifetime": 60}}
    merged    {"session": {"name": "session", "lifetime": 60}}
-/

namespace Routing

open Json

namespace Settings

mutual

/-- Lays the second value over the first. -/
def merge (base : Value) : Value → Value
  | .object members =>
    match base with
    | .object old => .object (mergeMembers old members)
    | _ => .object members
  | other => other

/-- Lays the members of an object over sorted members. -/
def mergeMembers (old : List (String × Value)) : List (String × Value) → List (String × Value)
  | [] => old
  | (key, value) :: members =>
    let merged := match old.find? (·.1 == key) with
      | some (_, base) => merge base value
      | none => value
    mergeMembers (Dict.insertEntry key merged old) members

end

/-- A value with all its objects in ascending order of their members, as if it had been read. -/
def defaultsJson : Value :=
  match default.toJson with
  | .object members => .object (members.foldl (fun ms e => Dict.insertEntry e.1 e.2 ms) [])
  | other => other

/-! ### From JSON values -/

/-- A text. -/
def asText : Value → Option String
  | .text s => some s
  | _ => none

/-- A text or `null`. -/
def asText? : Value → Option (Option String)
  | .null => some none
  | v => (asText v).map some

def asBool : Value → Option Bool
  | .bool b => some b
  | _ => none

/-- A number that is whole and not negative. -/
def asNat : Value → Option Nat
  | .number (.whole n) => n.toNat?
  | _ => none

/-- The name of a backend, or an object with this one member that is `null`. -/
def asBackend : Value → Option SessionBackend
  | .text name => SessionBackend.ofName? name
  | .object [(name, .null)] => SessionBackend.ofName? name
  | _ => none

/-- The fields of a record, given by an object or by the array of exactly all of them in order. -/
def fieldsOf (names : List String) : Value → Option (String → Option Value)
  | .object members => some fun name => (members.find? (·.1 == name)).map (·.2)
  | .array items =>
    if items.length = names.length then
      some fun name => ((names.zip items).find? (·.1 == name)).map (·.2)
    else none
  | _ => none

/-- Settings of sessions. -/
def asSession (v : Value) : Option SessionSettings := do
  let field ← fieldsOf ["backend", "name", "lifetime"] v
  return ⟨← (field "backend").bind asBackend, ← (field "name").bind asText,
    ← (field "lifetime").bind asNat⟩

/-- Settings. A member that may be `null` may be left out. -/
def ofJson? (v : Value) : Option Settings := do
  let field ← fieldsOf ["debug", "base_url", "host", "cache_routes", "cache_dir", "log_level",
    "log_dir", "session", "extra"] v
  let extra ← match field "extra" with
    | some (.object members) => some members
    | _ => none
  return ⟨← (field "debug").bind asBool, ← (field "base_url").bind asText,
    ← asText? ((field "host").getD .null), ← (field "cache_routes").bind asBool,
    ← asText? ((field "cache_dir").getD .null), ← (field "log_level").bind asText,
    ← asText? ((field "log_dir").getD .null), ← (field "session").bind asSession, extra⟩

/-- The settings of a document of the given kind, over the defaults. -/
def ofDocument (kind : String) (document : Option Value) : Except Fault Settings :=
  match document with
  | none => .error (.config (.malformed kind))
  | some v =>
    match ofJson? (merge defaultsJson v) with
    | some s => .ok s
    | none => .error (.config (.unfit kind))

/-- Loads the settings of a TOML document. -/
def ofTomlText (text : String) : Except Fault Settings := ofDocument "TOML" (Toml.readJson text)

/-- Loads the settings of a JSON document. -/
def ofJsonText (text : String) : Except Fault Settings :=
  ofDocument "JSON" (Json.decode Tree.toValue text).toOption

/-- Loads the settings of a file, of which the content is missing if it cannot be read as text. -/
def ofFile (kind path : String) (load : String → Except Fault Settings)
    (content : Option String) : Except Fault Settings :=
  match content with
  | some text => load text
  | none => .error (.config (.unreadable kind path))

/-- Loads the settings of a TOML file. -/
def ofTomlFile (path : String) (content : Option String) : Except Fault Settings :=
  ofFile "TOML" path ofTomlText content

/-- Loads the settings of a JSON file. -/
def ofJsonFile (path : String) (content : Option String) : Except Fault Settings :=
  ofFile "JSON" path ofJsonText content

/-! ### The environment -/

/-- The value of a variable that is a flag. Case does not matter. -/
def readFlag (value : String) : Bool :=
  ["true", "1", "yes"].contains value.toLower

/-- Lays the variables of an environment over the settings. An empty host clears the host. -/
def withEnvironment (s : Settings) (env : Dict String) : Settings :=
  let s := match env.get? "WAYPOST_DEBUG" with
    | some v => { s with debug := readFlag v }
    | none => s
  let s := match env.get? "WAYPOST_LOG_LEVEL" with
    | some v => { s with logLevel := v }
    | none => s
  let s := match env.get? "WAYPOST_BASE_URL" with
    | some v => { s with baseUrl := v }
    | none => s
  let s := match env.get? "WAYPOST_HOST" with
    | some v => { s with host := if v = "" then none else some v }
    | none => s
  let s := match env.get? "WAYPOST_CACHE_ROUTES" with
    | some v => { s with cacheRoutes := readFlag v }
    | none => s
  let s := match env.get? "WAYPOST_CACHE_DIR" with
    | some v => { s with cacheDir := some v }
    | none => s
  match env.get? "WAYPOST_LOG_DIR" with
  | some v => { s with logDir := some v }
  | none => s

/-- The settings of an environment alone. -/
def ofEnvironment (env : Dict String) : Settings := default.withEnvironment env

end Settings

end Routing
