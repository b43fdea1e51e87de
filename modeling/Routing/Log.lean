import Routing.Calendar.Reading
import Routing.Json.Decode

/-!
Log entries: when, how severe, and what.

    2024-03-09 12:30:05 --- ERROR: no route for 'x'
-/

namespace Routing

open Json

/-- How severe a log entry is, from the least to the most. -/
inductive LogLevel where
  | debug
  | info
  | notice
  | warning
  | error
  | critical
  deriving DecidableEq, Repr, Inhabited

namespace LogLevel

/-- All levels in ascending order. -/
def all : List LogLevel := [debug, info, notice, warning, error, critical]

/-- The name of a level in documents. -/
def name : LogLevel → String
  | debug => "debug"
  | info => "info"
  | notice => "notice"
  | warning => "warning"
  | error => "error"
  | critical => "critical"

/-- The name of a level in a log. -/
def label : LogLevel → String
  | debug => "DEBUG"
  | info => "INFO"
  | notice => "NOTICE"
  | warning => "WARNING"
  | error => "ERROR"
  | critical => "CRITICAL"

/-- The place of a level in the order. -/
def rank (level : LogLevel) : Nat := all.idxOf level

instance : Ord LogLevel := ⟨fun a b => compare a.rank b.rank⟩

/-- The level with this name. -/
def ofName? (name : String) : Option LogLevel := all.find? (·.name == name)

/-- Decodes a level. -/
def decode (depth : Nat) (t : Tree) : Decoded LogLevel := do
  Tree.needed (ofName? (← t.toChoice depth))

end LogLevel

/-- A log entry. -/
structure LogEntry where
  timestamp : Timestamp
  level : LogLevel
  message : String
  deriving DecidableEq

namespace LogEntry

/-- The line of an entry in a log. -/
def line (e : LogEntry) : String :=
  e.timestamp.date.text ++ " " ++ e.timestamp.clockText ++ " --- " ++ e.level.label ++ ": " ++
    e.message

/-- An entry as JSON. -/
def toJson (e : LogEntry) : Value :=
  .object [("timestamp", .text e.timestamp.text), ("level", .text e.level.name),
    ("message", .text e.message)]

/-- The fields of an entry while it is read. -/
structure Draft where
  timestamp : Option Timestamp
  level : Option LogLevel
  message : Option String

/-- Reads one field. -/
def Draft.read (depth : Nat) (d : Draft) (name : String) (t : Tree) : Decoded Draft := do
  match name with
  | "timestamp" =>
    let read := do Tree.needed (Timestamp.ofText? (← t.toText))
    return { d with timestamp := ← Tree.once d.timestamp read }
  | "level" => return { d with level := ← Tree.once d.level (LogLevel.decode depth t) }
  | _ => return { d with message := ← Tree.once d.message t.toText }

/-- Decodes an entry. -/
def decode (depth : Nat) (t : Tree) : Decoded LogEntry := do
  let d ← t.toRecord ["timestamp", "level", "message"] Draft.read ⟨none, none, none⟩ depth
  return ⟨← Tree.needed d.timestamp, ← Tree.needed d.level, ← Tree.needed d.message⟩

end LogEntry

end Routing
