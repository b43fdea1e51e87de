import Routing.Bytes.Base64
import Routing.Bytes.Hex
import Routing.Event
import Routing.Json.Decode
import Routing.Settings

/-!
Sessions: data of a visitor that is kept from one request to the next.

A store keeps one payload for each identity. A session is a handle: it has a copy of the data, which
is that of the store when the session starts, and the store sees changes only when the session is
written. The payload is the data as JSON, in Base64.

    store                    session
    visitor ↦ payload  ──▶   start "visitor"      data
                             set, delete          data'
    visitor ↦ payload' ◀──   write
-/

namespace Routing

open Json

/-- The data of a session. -/
abbrev SessionData := Dict Value

namespace SessionData

/-- Session data as JSON. -/
def toJson (data : SessionData) : Value := .object data.entries

/-- The payload that stands for session data. -/
def encode (data : SessionData) : String :=
  String.ofList (Bytes.Base64.encode (Bytes.ofText data.toJson.write))

/-- Reads session data from JSON. -/
def ofJsonText (text : String) : Decoded SessionData :=
  Json.decode (fun depth t => t.toDict depth Tree.toValue) text

/-- Reads a payload. -/
def decode (payload : String) : Except Fault SessionData :=
  match Bytes.Base64.decode payload.toList with
  | none => .error (.data .badEncoding)
  | some bytes =>
    match (Bytes.toText? bytes).map ofJsonText with
    | some (.ok data) => .ok data
    | _ => .error (.data .badPayload)

end SessionData

/-- What a store is asked to do. -/
inductive StoreOperation where
  | read
  | write
  | remove
  deriving DecidableEq

/-- The name of an operation. -/
def StoreOperation.name : StoreOperation → String
  | read => "read"
  | write => "write"
  | remove => "remove"

/-- The operation with this name. -/
def StoreOperation.ofName? : String → Option StoreOperation
  | "read" => some read
  | "write" => some write
  | "remove" => some remove
  | _ => none

/-- A store of payloads by identity. In a store for cookies the identity is the name of the cookie
and the payload is its value. -/
structure SessionStore where
  /-- The kind of the store. It is only a label: stores of both kinds do the same. -/
  backend : SessionBackend
  payloads : Dict String
  /-- The operations that fail. -/
  refused : List StoreOperation
  deriving DecidableEq

namespace SessionStore

/-- The store of a backend with nothing in it. -/
def ofBackend (backend : SessionBackend) : SessionStore := ⟨backend, .empty, []⟩

/-- The store that holds the cookies of a visitor. -/
def ofCookies (cookies : Dict String) : SessionStore := ⟨.cookie, cookies, []⟩

/-- Fails if the store refuses the operation. -/
def permit (s : SessionStore) (operation : StoreOperation) : Except Fault Unit :=
  if s.refused.contains operation then .error (.config (.refused operation.name)) else .ok ()

/-- The payload of an identity. -/
def read (s : SessionStore) (id : String) : Except Fault (Option String) := do
  s.permit .read
  return s.payloads.get? id

/-- Sets the payload of an identity. -/
def write (s : SessionStore) (id payload : String) : Except Fault SessionStore := do
  s.permit .write
  return { s with payloads := s.payloads.insert id payload }

/-- Removes the payload of an identity. It need not be there. -/
def remove (s : SessionStore) (id : String) : Except Fault SessionStore := do
  s.permit .remove
  return { s with payloads := s.payloads.erase id }

/-- The number of payloads. -/
def size (s : SessionStore) : Nat := s.payloads.size

end SessionStore

/-- A session. -/
structure Session where
  id : String
  data : SessionData
  deriving DecidableEq

namespace Session

/-- The identity that is made of a number: 32 hexadecimal digits. -/
def idOfNat (n : Nat) : String := Bytes.hex (Bytes.bigEndian 16 n)

/-- The data of a payload that may be missing. One that cannot be read counts for nothing. -/
def dataOf (payload : Option String) : SessionData :=
  match payload.map SessionData.decode with
  | some (.ok data) => data
  | _ => .empty

/-- Starts a session with the data that the store has for it. -/
def start (store : SessionStore) (id : String) : Except Fault Session := do
  return ⟨id, dataOf (← store.read id)⟩

/-- What is reported by `start`. -/
def startEvents (store : SessionStore) (id : String) : List Event :=
  match (store.read id).map (Option.map SessionData.decode) with
  | .ok (some (.error fault)) =>
    [⟨.warn, "Discarding unreadable session payload: " ++ fault.message, [("session", .text id)]⟩]
  | _ => []

/-- A value of the data. -/
def get? (s : Session) (key : String) : Option Value := s.data.get? key

/-- Sets a value of the data. -/
def set (s : Session) (key : String) (value : Value) : Session :=
  { s with data := s.data.insert key value }

/-- Deletes a value of the data. -/
def delete (s : Session) (key : String) : Session := { s with data := s.data.erase key }

/-- The payload that stands for the data. -/
def encode (s : Session) : String := s.data.encode

/-- Writes the data to the store. -/
def write (s : Session) (store : SessionStore) : Except Fault SessionStore :=
  store.write s.id s.encode

/-- Removes the session from the store and clears its data. If the store refuses, nothing
changes. -/
def destroy (s : Session) (store : SessionStore) : Except Fault (Session × SessionStore) := do
  let store ← store.remove s.id
  return ({ s with data := .empty }, store)

/-- What is reported by `destroy`. -/
def destroyEvents (s : Session) (store : SessionStore) : List Event :=
  match s.destroy store with
  | .ok _ => []
  | .error fault =>
    [⟨.warn, "Failed to destroy session: " ++ fault.message, [("session", .text s.id)]⟩]

end Session

end Routing
