import Routing.Json.Value

/-!
JSON documents as they are written.

`Tree.ofText` reads the syntax of a document and nothing more: numbers are left as numerals, and a
text with half of a surrogate pair is left without a value. It never fails. A document is read up to
its first fault, and the fault is kept in its place as the leaf `broken`; what follows it in the
text is not looked at.

    [1, 2, x   ──▶   array [1, 2, broken]

So whoever takes a tree apart from left to right meets a wrong value and a broken text in the order
in which they stand in the document.
-/

namespace Routing.Json

open Text

/-- A JSON document. -/
inductive Tree where
  /-- The first fault of the document. -/
  | broken
  | null
  | bool (value : Bool)
  | number (value : Numeral)
  /-- A text; `none` if half of a surrogate pair stands in it. -/
  | text (value : Option String)
  | array (items : List Tree)
  /-- The members in the order of the document, with names that may be without a value, too. -/
  | object (members : List (Option String × Tree))

namespace Tree

mutual

/-- Is the document free of faults? -/
def complete : Tree → Bool
  | broken => false
  | array items => completeAll items
  | object members => completeMembers members
  | _ => true

/-- Are all trees free of faults? -/
def completeAll : List Tree → Bool
  | [] => true
  | t :: ts => t.complete && completeAll ts

/-- Are all members free of faults? -/
def completeMembers : List (Option String × Tree) → Bool
  | [] => true
  | (_, t) :: ms => t.complete && completeMembers ms

end

/-- The white space of JSON. -/
def isSpace (c : Char) : Bool := c == ' ' || c == '\n' || c == '\t' || c == '\r'

/-- Steps over white space. -/
def skipSpace (cs : List Char) : List Char := cs.dropWhile isSpace

/-- Is the number half of a surrogate pair? -/
def isSurrogate (u : Nat) : Bool := 0xD800 ≤ u && u < 0xE000

/-- Joins surrogate pairs; `none` if half of one is left alone. -/
def joinPairs : List Nat → Option (List Char)
  | [] => some []
  | u :: us =>
    if isSurrogate u then
      match us with
      | [] => none
      | v :: vs =>
        if u < 0xDC00 && isSurrogate v && 0xDC00 ≤ v then
          (joinPairs vs).map (Char.ofNat (0x10000 + (u - 0xD800) * 0x400 + (v - 0xDC00)) :: ·)
        else none
    else (joinPairs us).map (Char.ofNat u :: ·)

/-- The character that a letter after a backslash stands for. -/
def unescape (c : Char) : Option Char :=
  match c with
  | '"' => some '"'
  | '\\' => some '\\'
  | '/' => some '/'
  | 'b' => some '\x08'
  | 'f' => some '\x0C'
  | 'n' => some '\n'
  | 'r' => some '\r'
  | 't' => some '\t'
  | _ => none

/-- Reads the inside of a text up to its closing quote, as codes, the last one first. -/
def readCodes (codes : List Nat) : List Char → Option (List Nat × List Char)
  | [] => none
  | '"' :: cs => some (codes, cs)
  | '\\' :: 'u' :: a :: b :: c :: d :: cs =>
    if isHexDigit a && isHexDigit b && isHexDigit c && isHexDigit d then
      readCodes ((((hexValue a * 16 + hexValue b) * 16 + hexValue c) * 16 + hexValue d) :: codes)
        cs
    else none
  | '\\' :: c :: cs =>
    match unescape c with
    | some e => readCodes (e.toNat :: codes) cs
    | none => none
  | c :: cs => if c.toNat < 32 || c == '\\' then none else readCodes (c.toNat :: codes) cs

/-- Reads the inside of a text. -/
def readText (cs : List Char) : Option (Option String × List Char) :=
  (readCodes [] cs).map fun (codes, rest) => ((joinPairs codes.reverse).map String.ofList, rest)

/-- Splits off the digits at the start. -/
def takeDigits (cs : List Char) : List Char × List Char :=
  (cs.takeWhile isAsciiDigit, cs.dropWhile isAsciiDigit)

/-- Reads the fraction of a number, if there is one. -/
def readFraction : List Char → Option (Option (List Char) × List Char)
  | '.' :: cs =>
    match takeDigits cs with
    | ([], _) => none
    | (ds, rest) => some (some ds, rest)
  | cs => some (none, cs)

/-- Reads the exponent of a number, if there is one. -/
def readExponent : List Char → Option (Option (Bool × List Char) × List Char)
  | c :: cs =>
    if c == 'e' || c == 'E' then
      let (negative, cs) := match cs with
        | '+' :: cs => (false, cs)
        | '-' :: cs => (true, cs)
        | cs => (false, cs)
      match takeDigits cs with
      | ([], _) => none
      | (ds, rest) => some (some (negative, ds), rest)
    else some (none, c :: cs)
  | [] => some (none, [])

/-- Reads a number. Only the number zero starts with a zero. -/
def readNumeral (cs : List Char) : Option (Numeral × List Char) := do
  let (negative, cs) := match cs with
    | '-' :: cs => (true, cs)
    | cs => (false, cs)
  match takeDigits cs with
  | ([], _) => none
  | ('0' :: _ :: _, _) => none
  | (ds, cs) =>
    let (fraction, cs) ← readFraction cs
    let (exponent, cs) ← readExponent cs
    return (⟨negative, ds, fraction, exponent⟩, cs)

mutual

/-- Reads a value. The text that is left is missing when the value is broken. -/
def readValue : (fuel : Nat) → List Char → Tree × Option (List Char)
  | 0, _ => (broken, none)
  | fuel + 1, cs =>
    match skipSpace cs with
    | '[' :: cs =>
      match skipSpace cs with
      | ']' :: cs => (array [], some cs)
      | cs =>
        let (items, rest) := readItems fuel cs
        (array items, rest)
    | '\x7B' :: cs =>
      match skipSpace cs with
      | '\x7D' :: cs => (object [], some cs)
      | cs =>
        let (members, rest) := readMembers fuel cs
        (object members, rest)
    | '"' :: cs =>
      match readText cs with
      | some (value, rest) => (text value, some rest)
      | none => (broken, none)
    | 'n' :: 'u' :: 'l' :: 'l' :: cs => (null, some cs)
    | 't' :: 'r' :: 'u' :: 'e' :: cs => (bool true, some cs)
    | 'f' :: 'a' :: 'l' :: 's' :: 'e' :: cs => (bool false, some cs)
    | cs =>
      match readNumeral cs with
      | some (n, rest) => (number n, some rest)
      | none => (broken, none)

/-- Reads the items of an array up to its end; there is at least one. -/
def readItems : (fuel : Nat) → List Char → List Tree × Option (List Char)
  | 0, _ => ([broken], none)
  | fuel + 1, cs =>
    match readValue fuel cs with
    | (item, none) => ([item], none)
    | (item, some cs) =>
      match skipSpace cs with
      | ',' :: cs =>
        let (items, rest) := readItems fuel cs
        (item :: items, rest)
      | ']' :: cs => ([item], some cs)
      | _ => ([item, broken], none)

/-- Reads the members of an object up to its end; there is at least one. -/
def readMembers : (fuel : Nat) → List Char → List (Option String × Tree) × Option (List Char)
  | 0, _ => ([(none, broken)], none)
  | fuel + 1, cs =>
    match skipSpace cs with
    | '"' :: cs =>
      match readText cs with
      | none => ([(none, broken)], none)
      | some (name, cs) =>
        match skipSpace cs with
        | ':' :: cs =>
          match readValue fuel cs with
          | (value, none) => ([(name, value)], none)
          | (value, some cs) =>
            match skipSpace cs with
            | ',' :: cs =>
              let (members, rest) := readMembers fuel cs
              ((name, value) :: members, rest)
            | '\x7D' :: cs => ([(name, value)], some cs)
            | _ => ([(name, value), (none, broken)], none)
        | _ => ([(name, broken)], none)
    | _ => ([(none, broken)], none)

end

/-- Reads a document. Says, too, whether nothing but white space follows it. -/
def ofText (text : String) : Tree × Bool :=
  let cs := text.toList
  match readValue (2 * cs.length + 2) cs with
  | (t, none) => (t, false)
  | (t, some rest) => (t, (skipSpace rest).isEmpty)

end Tree

end Routing.Json
