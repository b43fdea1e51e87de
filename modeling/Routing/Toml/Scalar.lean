import Routing.Calendar
import Routing.Toml.Item
import Routing.Toml.Text

/-!
Numbers, dates and times of TOML.

    42   0xFF   1_000        whole numbers of 64 bits
    3.5   1e6   inf   nan     binary numbers of 64 bits
    1979-05-27T07:32:00Z      a date, a time, or both with or without an offset
-/

namespace Routing.Toml

open Text Decimal

/-- Reads digits, between which single underscores may stand. -/
def readDigits (isDigit : Char → Bool) : (fuel : Nat) → List Char → Option (WithRest (List Char))
  | 0, _ => none
  | _, [] => none
  | fuel + 1, c :: cs =>
    if isDigit c then
      let next := match cs with
        | '_' :: rest => readDigits isDigit fuel rest
        | _ => readDigits isDigit fuel cs
      match next with
      | some (ds, rest) => some (c :: ds, rest)
      | none => some ([c], cs)
    else none

/-- Reads decimal digits that may start with a zero. -/
def readDecimals (cs : List Char) : Option (WithRest (List Char)) :=
  readDigits isAsciiDigit cs.length cs

/-- Reads decimal digits of which only a single one may be a zero at the start. -/
def readWhole : List Char → Option (WithRest (List Char))
  | '0' :: cs => some (['0'], cs)
  | cs => readDecimals cs

/-- Reads a sign, if there is one. -/
def readSign : List Char → Bool × List Char
  | '-' :: cs => (true, cs)
  | '+' :: cs => (false, cs)
  | cs => (false, cs)

/-- The number that digits denote. -/
def digitsValue (base : Nat) (ds : List Char) : Nat :=
  ds.foldl (fun n c => n * base + hexValue c) 0

/-- The binary number next to `n · 10 ^ e`. Numbers beyond the range are not worked out. -/
def binaryOf (n : Nat) (e : Int) : Float :=
  let top := e + (Nat.toDigits 10 n).length
  if n = 0 ∨ top < -340 then 0.0
  else if top > 320 then 1.0 / 0.0
  else Float.ofScientific n (e < 0) e.natAbs

/-- Reads the fraction of a number, if there is one. -/
def readFraction : List Char → Option (WithRest (Option (List Char)))
  | '.' :: cs => (readDecimals cs).map fun (ds, rest) => (some ds, rest)
  | cs => some (none, cs)

/-- Reads the exponent of a number, if there is one. -/
def readExponent : List Char → Option (WithRest (Option Int))
  | c :: cs =>
    if c == 'e' || c == 'E' then do
      let (negative, cs) := readSign cs
      let (ds, rest) ← readDecimals cs
      let e : Int := digitsValue 10 ds
      return (some (if negative then -e else e), rest)
    else some (none, c :: cs)
  | [] => some (none, [])

/-- A whole number, if it has 64 bits. -/
def wholeItem (n : Int) : Option Item :=
  if -0x8000000000000000 ≤ n ∧ n < 0x8000000000000000 then some (.integer n) else none

/-- Reads digits of another base after its mark. -/
def readBased (base : Nat) (isDigit : Char → Bool) (cs : List Char) : Option (WithRest Item) := do
  let (ds, rest) ← readDigits isDigit cs.length cs
  return (← wholeItem (digitsValue base ds), rest)

/-- The item of a binary number. -/
def floatItem (negative : Bool) (f : Float) : Item := .float (if negative then -f else f).toBits

/-- Reads a number after its sign. A number that is too large is refused unless it is negative. -/
def readUnsigned (negative : Bool) (cs : List Char) : Option (WithRest Item) :=
  match cs with
  | 'i' :: 'n' :: 'f' :: rest => some (floatItem negative (1.0 / 0.0), rest)
  | 'n' :: 'a' :: 'n' :: rest => some (floatItem negative (0.0 / 0.0), rest)
  | cs => do
    let (whole, cs) ← readWhole cs
    let (fraction, cs) ← readFraction cs
    let (exponent, rest) ← readExponent cs
    if fraction.isNone && exponent.isNone then
      let n : Int := digitsValue 10 whole
      return (← wholeItem (if negative then -n else n), rest)
    else
      let ds := fraction.getD []
      let f := binaryOf (digitsValue 10 (whole ++ ds)) (exponent.getD 0 - ds.length)
      if f.isInf && !negative then none else return (floatItem negative f, rest)

/-- Reads a number. -/
def readNumber : List Char → Option (WithRest Item)
  | '0' :: 'x' :: cs => readBased 16 isHexDigit cs
  | '0' :: 'o' :: cs => readBased 8 (fun c => '0' ≤ c && c ≤ '7') cs
  | '0' :: 'b' :: cs => readBased 2 (fun c => c == '0' || c == '1') cs
  | cs => readUnsigned (readSign cs).1 (readSign cs).2

/-! ### Dates and times -/

/-- Reads a number of exactly `n` digits between two bounds. -/
def readFixed (n lo hi : Nat) (cs : List Char) : Option (WithRest Nat) :=
  let ds := cs.take n
  let value := digitsValue 10 ds
  if ds.length = n ∧ ds.all isAsciiDigit ∧ lo ≤ value ∧ value ≤ hi then some (value, cs.drop n)
  else none

/-- Reads a given character. -/
def readMark (mark : Char) : List Char → Option (List Char)
  | c :: cs => if c == mark then some cs else none
  | [] => none

/-- Reads a date; gives its text. -/
def readDate (cs : List Char) : Option (WithRest String) := do
  let (year, cs) ← readFixed 4 0 9999 cs
  let cs ← readMark '-' cs
  let (month, cs) ← readFixed 2 1 12 cs
  let cs ← readMark '-' cs
  let (day, cs) ← readFixed 2 1 (monthLength (isLeapYear year) month) cs
  return (padded 4 year ++ "-" ++ padded 2 month ++ "-" ++ padded 2 day, cs)

/-- Reads a time; gives its text. Of a fraction nine digits count, and zeros at its end do not. -/
def readTime (lastHour : Nat) (cs : List Char) : Option (WithRest String) := do
  let (hour, cs) ← readFixed 2 0 lastHour cs
  let cs ← readMark ':' cs
  let (minute, cs) ← readFixed 2 0 59 cs
  let cs ← readMark ':' cs
  let (second, cs) ← readFixed 2 0 60 cs
  let text := padded 2 hour ++ ":" ++ padded 2 minute ++ ":" ++ padded 2 second
  match cs with
  | '.' :: rest =>
    match rest.takeWhile isAsciiDigit with
    | [] => none
    | ds =>
      let kept := ((ds.take 9).reverse.dropWhile (· == '0')).reverse
      let fraction := if kept.isEmpty then "" else String.ofList ('.' :: kept)
      return (text ++ fraction, rest.dropWhile isAsciiDigit)
  | _ => return (text, cs)

/-- Reads the offset of a time, if there is one; gives its text. -/
def readOffset : List Char → Option (WithRest String)
  | c :: cs =>
    if c == 'Z' || c == 'z' then some ("Z", cs)
    else if c == '+' || c == '-' then do
      let (hour, cs) ← readFixed 2 0 23 cs
      let cs ← readMark ':' cs
      let (minute, cs) ← readFixed 2 0 59 cs
      let sign := if c == '-' && (hour != 0 || minute != 0) then "-" else "+"
      return (sign ++ padded 2 hour ++ ":" ++ padded 2 minute, cs)
    else some ("", c :: cs)
  | [] => some ("", [])

/-- Reads a date, a time, or a date with a time. -/
def readDatetime (cs : List Char) : Option (WithRest Item) :=
  match readDate cs with
  | some (date, cs) =>
    let alone := some (.datetime date, cs)
    match cs with
    | c :: rest =>
      if c == 'T' || c == 't' || c == ' ' then
        match readTime 23 rest with
        | some (time, rest) => do
          let (offset, rest) ← readOffset rest
          return (.datetime (date ++ "T" ++ time ++ offset), rest)
        | none => alone
      else alone
    | [] => alone
  | none => (readTime 23 cs).map fun (time, rest) => (.datetime time, rest)

/-! ### Dates and times in texts -/

/-- Reads an offset of at most a day, whatever its hours and minutes are, or none. Nothing may
follow. -/
def readLooseOffset : List Char → Option String
  | [] => some ""
  | ['Z'] => some "Z"
  | ['z'] => some "Z"
  | c :: cs => do
    if c != '+' && c != '-' then failure
    let (hours, cs) ← readFixed 2 0 99 cs
    let cs ← readMark ':' cs
    let (minutes, cs) ← readFixed 2 0 99 cs
    let total := hours * 60 + minutes
    if cs != [] || 24 * 60 < total then failure
    let sign := if c == '-' && total != 0 then "-" else "+"
    return sign ++ padded 2 (total / 60) ++ ":" ++ padded 2 (total % 60)

/-- Reads a text that is a date, a time, or a date with a time, as a whole. This is less strict than
`readDatetime`: a day has an hour 24, and an offset may have any minutes. -/
def readLooseDatetime (text : String) : Option String :=
  match readDate text.toList with
  | some (date, []) => some date
  | some (date, c :: rest) => do
    if c != 'T' && c != 't' && c != ' ' then failure
    let (time, rest) ← readTime 24 rest
    return date ++ "T" ++ time ++ (← readLooseOffset rest)
  | none => do
    let (time, rest) ← readTime 24 text.toList
    if rest.isEmpty then return time else failure

end Routing.Toml
