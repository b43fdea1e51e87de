import Routing.Constraint

/-!
Reading patterns. A pattern is literal text with two kinds of markup: `<name>` or `<name:fragment>`
is a parameter, and `(...)` is an optional part.

The reader is a machine that takes one character at a time, so reading a pattern is a left fold.
Open parts stand on a stack.

                   <              :                  >
    in text ──────▶ in a name ──────▶ in a fragment ──────▶ in text
                        └──────────────── > ──────────────────▲

A fragment is an expression, and a `>` may belong to it: within a group, within a class, and after a
backslash.
-/

namespace Routing.Pattern

open Text

/-- Where the reader stands. -/
inductive Place where
  | text
  /-- In the name of a parameter; the characters read, the last one first. -/
  | name (read : List Char)
  /-- In the fragment of a parameter: the characters read, the last one first, the number of open
  groups, and whether a class is open or a backslash was last. -/
  | fragment (name : String) (read : List Char) (depth : Nat) (inClass escaped : Bool)
  deriving DecidableEq

/-- What has been read. -/
structure Reader where
  place : Place
  /-- The segments of the innermost open part, the last one first. -/
  current : List Segment
  /-- The segments around it, from the inside out. -/
  outer : List (List Segment)
  /-- The names of the parameters, from left to right. -/
  names : List String
  deriving DecidableEq

/-- Before the first character. -/
def Reader.start : Reader := ⟨.text, [], [], []⟩

/-- The characters of a parameter's name. -/
def isNameChar (c : Char) : Bool := isAsciiAlphanumeric c || c == '_'

/-- Adds a character to the literal at the end, or starts a literal with it. -/
def pushLiteral (c : Char) : List Segment → List Segment
  | .literal text :: rest => .literal (text.push c) :: rest
  | rest => .literal (String.singleton c) :: rest

/-- Checks the name of a parameter against the rules and against the names before it. -/
def checkName (names : List String) (read : List Char) : Except PatternFault String :=
  let name := String.ofList read.reverse
  if read.isEmpty then .error .emptyName
  else if !read.all isNameChar then .error (.badName name)
  else if names.contains name then .error (.repeatedName name)
  else .ok name

/-- Ends a parameter. -/
def Reader.pushParameter (r : Reader) (table : ConstraintTable) (name : String)
    (inline : Option String) : Reader :=
  ⟨.text, .parameter name (table.resolve name inline) :: r.current, r.outer, r.names ++ [name]⟩

/-- Reads one character. -/
def Reader.step (table : ConstraintTable) (r : Reader) (c : Char) : Except PatternFault Reader :=
  match r.place with
  | .text =>
    if c == ')' then
      match r.outer with
      | [] => .error .groupNotOpened
      | around :: outer =>
        .ok { r with current := .optional r.current.reverse :: around, outer := outer }
    else if c == '(' then .ok { r with current := [], outer := r.current :: r.outer }
    else if c == '<' then .ok { r with place := .name [] }
    else .ok { r with current := pushLiteral c r.current }
  | .name read =>
    if c == '>' then do
      let name ← checkName r.names read
      return r.pushParameter table name none
    else if c == ':' then do
      let name ← checkName r.names read
      return { r with place := .fragment name [] 0 false false }
    else .ok { r with place := .name (c :: read) }
  | .fragment name read depth inClass escaped =>
    let goOn (depth : Nat) (inClass escaped : Bool) : Except PatternFault Reader :=
      .ok { r with place := .fragment name (c :: read) depth inClass escaped }
    if escaped then goOn depth inClass false
    else if c == '\\' then goOn depth inClass true
    else if inClass then goOn depth (c != ']') false
    else if c == '[' then goOn depth true false
    else if c == '(' then goOn (depth + 1) false false
    else if c == ')' then goOn (depth - 1) false false
    else if c == '>' && depth == 0 then do
      let fragment := String.ofList read.reverse
      checkConstraint name fragment
      return r.pushParameter table name (some fragment)
    else goOn depth false false

/-- The segments and the names of the parameters, when the whole pattern has been read. -/
def Reader.finish (r : Reader) : Except PatternFault (List Segment × List String) :=
  match r.place, r.outer with
  | .text, [] => .ok (r.current.reverse, r.names)
  | .text, _ :: _ => .error .groupOpen
  | .name read, _ => .error (.parameterOpen (String.ofList read.reverse))
  | .fragment name _ _ _ _, _ => .error (.parameterOpen (name ++ ":"))

/-- Reads a pattern: its segments, and the names of its parameters from left to right. -/
def read (table : ConstraintTable) (pattern : String) :
    Except PatternFault (List Segment × List String) := do
  (← pattern.toList.foldlM (Reader.step table) .start).finish

end Routing.Pattern
