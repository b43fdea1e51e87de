import Routing.Calendar

/-!
Points in time, to the nanosecond, in coordinated universal time.

A point in time is a number of seconds since the beginning of 1970, in which leap seconds do not
count, and nanoseconds beyond that. A leap second belongs to the last second of a minute: it has
the nanoseconds from a thousand million on, and is written as second 60.

    1709987405            2024-03-09T12:30:05Z
    1709987405.5          2024-03-09T12:30:05.500Z
    1483228799 + 1.5      2016-12-31T23:59:60.500Z
-/

namespace Routing

open Decimal

/-- The nanoseconds of a second. -/
def nanosPerSecond : Nat := 1000000000

/-- Is there such a point in time? -/
abbrev ValidTime (seconds : Int) (nanos : Nat) : Prop :=
  nanos < 2 * nanosPerSecond ∧ (nanosPerSecond ≤ nanos → seconds % 60 = 59) ∧
    (Date.ofDays (seconds / 86400)).InUse

/-- A point in time. -/
structure Timestamp where
  seconds : Int
  nanos : Nat
  valid : ValidTime seconds nanos
  deriving DecidableEq

namespace Timestamp

/-- The point in time with these numbers, if there is one. -/
def of? (seconds : Int) (nanos : Nat) : Option Timestamp :=
  if h : ValidTime seconds nanos then some ⟨seconds, nanos, h⟩ else none

/-- The date. -/
def date (t : Timestamp) : Date := .ofDays (t.seconds / 86400)

/-- The seconds since midnight. -/
def secondOfDay (t : Timestamp) : Nat := (t.seconds % 86400).toNat

/-- The time of the day in hours, minutes and seconds. -/
def clockText (t : Timestamp) : String :=
  let second := t.secondOfDay % 60 + t.nanos / nanosPerSecond
  padded 2 (t.secondOfDay / 3600) ++ ":" ++ padded 2 (t.secondOfDay / 60 % 60) ++ ":" ++
    padded 2 second

/-- The part of a second, with no digits or with three, six or nine of them. -/
def fractionText (t : Timestamp) : String :=
  let nanos := t.nanos % nanosPerSecond
  if nanos = 0 then ""
  else if nanos % 1000000 = 0 then "." ++ padded 3 (nanos / 1000000)
  else if nanos % 1000 = 0 then "." ++ padded 6 (nanos / 1000)
  else "." ++ padded 9 nanos

/-- A point in time as it is written in documents. -/
def text (t : Timestamp) : String := t.date.text ++ "T" ++ t.clockText ++ t.fractionText ++ "Z"

end Timestamp

end Routing
