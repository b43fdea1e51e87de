import Routing.Regex.Mode
import Routing.Regex.Node
import Routing.Regex.Property

/-!
What stands after a backslash: a character, a class, or a test of a place.

    \.  \x41  \u{1F600}     a character
    \d  \p{Greek}           a class
    \b  \A  \b{start}       a test
-/

namespace Routing.Regex

open Text

/-- What one item of an expression stands for. -/
inductive Atom where
  | literal (c : Char)
  | set (cls : CharClass)
  | look (test : Look)
  deriving DecidableEq, Repr

/-- What a reader gives: a value, and the text that is left. -/
abbrev WithRest (α : Type) := α × List Char

/-- The characters that mean something unless a backslash stands before them. -/
def isMeta (c : Char) : Bool :=
  ['\\', '.', '+', '*', '?', '(', ')', '|', '[', ']', '\x7B', '\x7D', '^', '$', '#', '&', '-',
    '~'].contains c

/-- The characters that a backslash leaves as they are: ASCII without letters, digits and the two
angle brackets. -/
def isEscapable (c : Char) : Bool :=
  isMeta c || (c.toNat < 128 && !isAsciiAlphanumeric c && c != '<' && c != '>')

/-- The class with case ignored as the mode says. -/
def Mode.fold (m : Mode) (cls : CharClass) : CharClass :=
  if m.caseless then if m.unicode then .anyCase cls else .anyAsciiCase cls else cls

/-- The complement of a class. Without Unicode it would hold parts of characters. -/
def Mode.negate (m : Mode) (cls : CharClass) : Except Fault CharClass :=
  if m.unicode then .ok (.compl cls) else .error .notUnicode

/-- The character with this code. -/
def charOfCode (byte : Bool) (m : Mode) (code : Nat) : Except Fault Char :=
  if h : code.isValidChar then
    if byte && !m.unicode && code > 127 then .error .notUnicode else .ok (Char.ofNatAux code h)
  else .error .badCode

/-- Reads exactly `n` hexadecimal digits, stepping over blanks after each. -/
def readFixedCode (m : Mode) : (n : Nat) → (code : Nat) → List Char →
    Except Fault (WithRest Nat)
  | 0, code, cs => .ok (code, cs)
  | _ + 1, _, [] => .error .badEscape
  | n + 1, code, c :: cs =>
    if isHexDigit c then readFixedCode m n (code * 16 + hexValue c) (m.skip cs)
    else .error .badCode

/-- Reads hexadecimal digits up to a closing brace. The fuel is the length of the text. -/
def readBracedCode (m : Mode) : (fuel : Nat) → (code : Nat) → (any : Bool) → List Char →
    Except Fault (WithRest Nat)
  | 0, _, _, _ => .error .badEscape
  | _, _, _, [] => .error .badEscape
  | fuel + 1, code, any, c :: cs =>
    if c == '\x7D' then if any then .ok (code, m.skip cs) else .error .badCode
    else if isHexDigit c then readBracedCode m fuel (code * 16 + hexValue c) true (m.skip cs)
    else .error .badCode

/-- Reads a character given by its code, after the letter `x`, `u` or `U`. -/
def readCode (m : Mode) (letter : Char) (cs : List Char) : Except Fault (WithRest Atom) := do
  match m.skip cs with
  | [] => .error .badEscape
  | '\x7B' :: cs =>
    let (code, rest) ← readBracedCode m (cs.length + 1) 0 false (m.skip cs)
    return (.literal (← charOfCode false m code), rest)
  | cs =>
    let n := if letter == 'x' then 2 else if letter == 'u' then 4 else 8
    let (code, rest) ← readFixedCode m n 0 cs
    return (.literal (← charOfCode (letter == 'x') m code), rest)

/-- Reads the name of a property up to the closing brace, without blanks that the mode leaves
out. -/
def readPropertyName (m : Mode) : (fuel : Nat) → (name : List Char) → List Char →
    Except Fault (WithRest (List Char))
  | 0, _, _ => .error .badEscape
  | _, _, [] => .error .badEscape
  | fuel + 1, name, c :: cs =>
    if c == '\x7D' then .ok (name.reverse, cs)
    else readPropertyName m fuel (c :: name) (m.skip cs)

/-- The text before and after the first place where the mark stands. -/
def cutAt (mark : List Char) : List Char → Option (List Char × List Char)
  | [] => none
  | c :: cs =>
    if mark.isPrefixOf (c :: cs) then some ([], (c :: cs).drop mark.length)
    else (cutAt mark cs).map fun (before, after) => (c :: before, after)

/-- The class that the text between the braces names, and whether it is negated there. -/
def propertyNamed (name : List Char) : Except Fault (CharClass × Bool) := do
  let value (parts : List Char × List Char) :=
    propertyValue (String.ofList parts.1) (String.ofList parts.2)
  match cutAt ['!', '='] name with
  | some parts => return (← value parts, true)
  | none =>
    match (cutAt [':'] name).or (cutAt ['='] name) with
    | some parts => return (← value parts, false)
    | none => return (← bareProperty (String.ofList name), false)

/-- Reads a class given by a property, after the letter `p` or `P`. -/
def readProperty (m : Mode) (negated : Bool) (cs : List Char) :
    Except Fault (WithRest Atom) := do
  let ((cls, unequal), rest) ← match m.skip cs with
    | [] => .error .badEscape
    | '\x7B' :: cs => do
      let (name, rest) ← readPropertyName m (cs.length + 1) [] (m.skip cs)
      pure (← propertyNamed name, rest)
    | c :: cs =>
      if c == '\\' then .error .unknownProperty
      else do pure ((← bareProperty (String.singleton c), false), m.skip cs)
  if !m.unicode then .error .notUnicode
  else
    let cls := m.fold cls
    return (.set (if negated != unequal then .compl cls else cls), rest)

/-- The class of one of the letters `d`, `s`, `w`, of which the capital letter is the
complement. -/
def letterClass (m : Mode) (letter : Char) : Except Fault CharClass :=
  let digits : CharClass := if m.unicode then .digit else .asciiDigit
  let blanks : CharClass := if m.unicode then .space else .asciiSpace
  let wordChars : CharClass := if m.unicode then .word else .asciiWord
  match letter with
  | 'd' => .ok digits
  | 's' => .ok blanks
  | 'w' => .ok wordChars
  | 'D' => m.negate digits
  | 'S' => m.negate blanks
  | _ => m.negate wordChars

/-- The letters that may stand in the braces after `\b`. -/
def isBoundaryLetter (c : Char) : Bool := isAsciiLetter c || c == '-'

/-- Reads the letters in the braces after `\b`. -/
def readBoundaryName (m : Mode) : (fuel : Nat) → (name : List Char) → List Char →
    List Char × List Char
  | 0, name, cs => (name.reverse, cs)
  | _, name, [] => (name.reverse, [])
  | fuel + 1, name, c :: cs =>
    if isBoundaryLetter c then readBoundaryName m fuel (c :: name) (m.skip cs)
    else (name.reverse, c :: cs)

/-- Reads what may follow `\b`: a kind of boundary in braces. Braces that do not start with a letter
or a hyphen are a repetition and are left alone. -/
def readBoundary (m : Mode) (cs : List Char) : Except Fault (WithRest Look) :=
  match cs with
  | '\x7B' :: inner =>
    match m.skip inner with
    | [] => .error .badEscape
    | c :: after =>
      if isBoundaryLetter c then
        match readBoundaryName m (after.length + 1) [] (c :: after) with
        | (name, '\x7D' :: rest) =>
          match String.ofList name with
          | "start" => .ok (.wordStart m.unicode, rest)
          | "end" => .ok (.wordStop m.unicode, rest)
          | "start-half" => .ok (.wordStartHalf m.unicode, rest)
          | "end-half" => .ok (.wordStopHalf m.unicode, rest)
          | _ => .error .badEscape
        | _ => .error .badEscape
      else .ok (.boundary m.unicode, cs)
  | _ => .ok (.boundary m.unicode, cs)

/-- Reads what stands after a backslash. -/
def readEscape (m : Mode) : List Char → Except Fault (WithRest Atom)
  | [] => .error .badEscape
  | c :: cs =>
    if isAsciiDigit c then .error .backReference
    else if c == 'x' || c == 'u' || c == 'U' then readCode m c cs
    else if c == 'p' || c == 'P' then readProperty m (c == 'P') cs
    else if ['d', 's', 'w', 'D', 'S', 'W'].contains c then do
      return (.set (← letterClass m c), cs)
    else if isEscapable c then .ok (.literal c, cs)
    else match c with
      | 'a' => .ok (.literal '\x07', cs)
      | 'f' => .ok (.literal '\x0C', cs)
      | 't' => .ok (.literal '\t', cs)
      | 'n' => .ok (.literal '\n', cs)
      | 'r' => .ok (.literal '\r', cs)
      | 'v' => .ok (.literal '\x0B', cs)
      | 'A' => .ok (.look .start, cs)
      | 'z' => .ok (.look .stop, cs)
      | 'b' => do
        let (test, rest) ← readBoundary m cs
        return (.look test, rest)
      | 'B' => .ok (.look (.notBoundary m.unicode), cs)
      | '<' => .ok (.look (.wordStart m.unicode), cs)
      | '>' => .ok (.look (.wordStop m.unicode), cs)
      | _ => .error .badEscape

end Routing.Regex
