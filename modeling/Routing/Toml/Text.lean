import Routing.Text.Alphabet

/-!
Blanks, comments, keys and texts of TOML.

A text stands between single quotes, where nothing is escaped, or between double quotes. With three
quotes it may run over several lines; a line feed directly after the opening quotes does not count,
and up to two quotes may stand before the closing ones.
-/

namespace Routing.Toml

open Text

/-- What a reader gives: a value, and the text that is left. -/
abbrev WithRest (α : Type) := α × List Char

/-- The blanks within a line. -/
def isBlank (c : Char) : Bool := c == ' ' || c == '\t'

/-- Steps over blanks. -/
def skipBlanks (cs : List Char) : List Char := cs.dropWhile isBlank

/-- The characters that may stand in a comment or a text: no control characters but the tab. -/
def isPlain (c : Char) : Bool := c == '\t' || (32 ≤ c.toNat && c.toNat != 127)

/-- Steps over the end of a line. -/
def readNewline : List Char → Option (List Char)
  | '\n' :: cs => some cs
  | '\r' :: '\n' :: cs => some cs
  | _ => none

/-- Steps over a comment, if there is one. -/
def skipComment : List Char → List Char
  | '#' :: cs => cs.dropWhile isPlain
  | cs => cs

/-- Steps over the rest of a line: blanks, a comment, and the end of the line or of the text. -/
def readLineEnd (cs : List Char) : Option (List Char) :=
  match skipComment (skipBlanks cs) with
  | [] => some []
  | cs => readNewline cs

/-- Steps over blanks, comments and ends of lines. The fuel is the length of the text. -/
def skipLines : (fuel : Nat) → List Char → List Char
  | 0, cs => cs
  | fuel + 1, cs =>
    match readNewline (skipComment (skipBlanks cs)) with
    | some rest => skipLines fuel rest
    | none => skipBlanks cs

/-- Reads the character whose code is given by `n` hexadecimal digits. -/
def readScalar (n : Nat) (cs : List Char) : Option (WithRest Char) :=
  let ds := cs.take n
  let code := ds.foldl (fun k c => k * 16 + hexValue c) 0
  if ds.length = n ∧ ds.all isHexDigit then
    if h : code.isValidChar then some (Char.ofNatAux code h, cs.drop n) else none
  else none

/-- Reads what stands after a backslash. -/
def readEscaped : List Char → Option (WithRest Char)
  | 'b' :: cs => some ('\x08', cs)
  | 't' :: cs => some ('\t', cs)
  | 'n' :: cs => some ('\n', cs)
  | 'f' :: cs => some ('\x0C', cs)
  | 'r' :: cs => some ('\r', cs)
  | '"' :: cs => some ('"', cs)
  | '\\' :: cs => some ('\\', cs)
  | 'u' :: cs => readScalar 4 cs
  | 'U' :: cs => readScalar 8 cs
  | _ => none

/-- Reads a text of one line up to its closing quote. The fuel is the length of the text. -/
def readShort (quote : Char) : (fuel : Nat) → (read : List Char) → List Char →
    Option (WithRest String)
  | 0, _, _ => none
  | _, _, [] => none
  | fuel + 1, read, c :: cs =>
    if c == quote then some (String.ofList read.reverse, cs)
    else if c == '\\' && quote == '"' then do
      let (e, rest) ← readEscaped cs
      readShort quote fuel (e :: read) rest
    else if isPlain c then readShort quote fuel (c :: read) cs
    else none

/-- Steps over blanks and ends of lines. -/
def skipBlankLines : List Char → List Char
  | '\r' :: '\n' :: cs => skipBlankLines cs
  | c :: cs => if isBlank c || c == '\n' then skipBlankLines cs else c :: cs
  | [] => []

/-- Steps over a backslash's blanks and the end of its line, and all blanks and ends of lines after
it. -/
def skipContinuation (cs : List Char) : Option (List Char) :=
  (readNewline (skipBlanks cs)).map skipBlankLines

/-- Reads a text of several lines up to its closing quotes. The fuel is the length of the text. -/
def readLong (quote : Char) : (fuel : Nat) → (read : List Char) → List Char →
    Option (WithRest String)
  | 0, _, _ => none
  | _, _, [] => none
  | fuel + 1, read, c :: cs =>
    if c == quote then
      let count := ((c :: cs).takeWhile (· == quote)).length
      if count < 3 then
        readLong quote fuel (List.replicate count quote ++ read) ((c :: cs).drop count)
      else
        let taken := min count 5
        some (String.ofList (List.replicate (taken - 3) quote ++ read).reverse,
          (c :: cs).drop taken)
    else if c == '\\' && quote == '"' then
      match skipContinuation cs with
      | some rest => readLong quote fuel read rest
      | none => do
        let (e, rest) ← readEscaped cs
        readLong quote fuel (e :: read) rest
    else
      match readNewline (c :: cs) with
      | some rest => readLong quote fuel ('\n' :: read) rest
      | none => if isPlain c then readLong quote fuel (c :: read) cs else none

/-- Reads a text. -/
def readText : List Char → Option (WithRest String)
  | c :: cs =>
    if c == '"' || c == '\'' then
      match cs with
      | a :: b :: rest =>
        if a == c && b == c then
          let rest := (readNewline rest).getD rest
          readLong c (rest.length + 1) [] rest
        else readShort c (cs.length + 1) [] cs
      | _ => readShort c (cs.length + 1) [] cs
    else none
  | [] => none

/-- The characters of a key without quotes. -/
def isBareKey (c : Char) : Bool := isAsciiAlphanumeric c || c == '-' || c == '_'

/-- Reads one key, with or without quotes. -/
def readSimpleKey : List Char → Option (WithRest String)
  | c :: cs =>
    if c == '"' || c == '\'' then readShort c (cs.length + 1) [] cs
    else
      match (c :: cs).takeWhile isBareKey with
      | [] => none
      | key => some (String.ofList key, (c :: cs).dropWhile isBareKey)
  | [] => none

/-- Reads keys with points between them and blanks around them. The fuel bounds their number. -/
def readKeys : (fuel : Nat) → List Char → Option (WithRest (List String))
  | 0, _ => none
  | fuel + 1, cs => do
    let (key, rest) ← readSimpleKey (skipBlanks cs)
    match skipBlanks rest with
    | '.' :: rest => do
      let (keys, rest) ← readKeys fuel rest
      return (key :: keys, rest)
    | rest => return ([key], rest)

/-- The bound on the number of keys in a row and on the nesting of values. -/
def depthLimit : Nat := 79

/-- Reads a dotted key. -/
def readKey (cs : List Char) : Option (WithRest (List String)) := readKeys depthLimit cs

end Routing.Toml
