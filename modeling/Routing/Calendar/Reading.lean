import Routing.Calendar.Timestamp
import Routing.Text.Alphabet

/-!
Reading points in time: a date, a time of the day, and how far that time is ahead of universal time.

    2024-03-09T12:30:05Z
    2024-3-9 12:30:05.25 +01:00
    +10000-01-01T00:00:00-0130

Apart from the letter `T`, which may be a blank, there may be white space before each part. Numbers
need not have all of their digits. A year with a sign may have any number of digits. Second 60 is a
leap second.
-/

namespace Routing.Timestamp

open Text

/-- What is read, and the rest of the text. -/
abbrev WithRest (α : Type) := α × List Char

/-- The value of digits. -/
def valueOf (digits : List Char) : Nat := digits.foldl (fun n c => n * 10 + (c.toNat - 48)) 0

/-- Leaves out white space. -/
def trim (cs : List Char) : List Char := cs.dropWhile isWhiteSpace

/-- The digits at the start, at most `width` of them and at least one. -/
def readDigits (width : Nat) (cs : List Char) : Option (WithRest (List Char)) :=
  match (cs.take width).takeWhile isAsciiDigit with
  | [] => none
  | ds => some (ds, cs.drop ds.length)

/-- A number of at most `width` digits in the given range, with white space before it. -/
def readNumber (width low high : Nat) (cs : List Char) : Option (WithRest Nat) := do
  let (ds, cs) ← readDigits width (trim cs)
  if low ≤ valueOf ds ∧ valueOf ds ≤ high then some (valueOf ds, cs) else none

/-- A year. -/
def readYear (cs : List Char) : Option (WithRest Int) :=
  let signed (cs : List Char) : Option (WithRest Nat) := do
    let (ds, cs) ← readDigits cs.length cs
    return (valueOf ds, cs)
  match trim cs with
  | '-' :: cs => (signed cs).map fun (n, cs) => (-n, cs)
  | '+' :: cs => (signed cs).map fun (n, cs) => (n, cs)
  | cs => (readDigits 4 cs).map fun (ds, cs) => (valueOf ds, cs)

/-- A mark between two numbers, with white space before it. -/
def readMark (c : Char) (cs : List Char) : Option (List Char) :=
  match trim cs with
  | d :: cs => if c = d then some cs else none
  | [] => none

/-- A date. -/
def readDate (cs : List Char) : Option (WithRest Date) := do
  let (y, cs) ← readYear cs
  let (m, cs) ← readNumber 2 1 12 (← readMark '-' cs)
  let (d, cs) ← readNumber 2 1 31 (← readMark '-' cs)
  return (← Date.of? y m d, cs)

/-- The nanoseconds of a part of a second. Digits after the ninth do not count. -/
def readFraction : List Char → Option (WithRest Nat)
  | '.' :: cs => do
    let (ds, cs) ← readDigits 9 cs
    return (valueOf ((ds ++ List.replicate 9 '0').take 9), cs.dropWhile isAsciiDigit)
  | cs => some (0, cs)

/-- A time of the day: the seconds since midnight and the nanoseconds. -/
def readClock (cs : List Char) : Option (WithRest (Nat × Nat)) := do
  let (h, cs) ← readNumber 2 0 23 cs
  let (m, cs) ← readNumber 2 0 59 (← readMark ':' cs)
  let (s, cs) ← readNumber 2 0 60 (← readMark ':' cs)
  let (nanos, cs) ← readFraction cs
  let start := h * 3600 + m * 60
  return (if s = 60 then (start + 59, nanos + nanosPerSecond) else (start + s, nanos), cs)

/-- Two digits. -/
def readTwoDigits : List Char → Option (WithRest Nat)
  | a :: b :: cs => if isAsciiDigit a && isAsciiDigit b then some (valueOf [a, b], cs) else none
  | _ => none

/-- How many seconds a time is ahead of universal time, given by hours and minutes. There may be
colons and white space between the two. -/
def readOffset (cs : List Char) : Option (WithRest Int) := do
  let (sign, cs) ← match cs with
    | '+' :: cs => some (1, cs)
    | '-' :: cs | '−' :: cs => some (-1, cs)
    | _ => none
  let (h, cs) ← readTwoDigits cs
  let (m, cs) ← readTwoDigits (cs.dropWhile fun c => c == ':' || isWhiteSpace c)
  if h < 24 ∧ m < 60 then some (sign * (h * 3600 + m * 60 : Nat), cs) else none

/-- How many seconds a time is ahead, or a name of universal time. -/
def readZone (cs : List Char) : Option (WithRest Int) :=
  match trim cs with
  | 'Z' :: cs | 'z' :: cs => some (0, cs)
  | cs =>
    if (cs.take 3).map Char.toUpper = ['U', 'T', 'C'] then some (0, cs.drop 3) else readOffset cs

/-- Reads a point in time. -/
def ofText? (text : String) : Option Timestamp := do
  let (day, cs) ← readDate text.toList
  let cs ← match cs with
    | 'T' :: cs | 't' :: cs | ' ' :: cs => some cs
    | _ => none
  let ((second, nanos), cs) ← readClock cs
  let (ahead, cs) ← readZone cs
  if trim cs = [] then Timestamp.of? (day.toDays * 86400 + second - ahead) nanos else none

end Routing.Timestamp
