import Routing.Regex.Bracket
import Routing.Regex.Cost

/-!
From the text of an expression to the expression.

The reader goes through the text item by item. Open groups stand on a stack of levels; a level holds
the alternatives finished so far and the items of the current one. An item is a literal, a class, a
test, a whole repetition (which takes the item before it) or a group that has been closed.

    ^a(?:b|c+   ──▶   level 0: items ^ a
                      level 1: finished b      items c+

What a level does to the levels below it is nothing until it is closed, so the text between two
brackets is read in the same way wherever it stands.
-/

namespace Routing.Regex

open Text

/-- A finished item, with the number of levels that it is nested, and whether it can be repeated:
flags cannot. -/
structure Piece where
  node : Node
  height : Nat
  repeatable : Bool
  deriving Repr

/-- The items of one alternative as one piece, the last item first. -/
def Piece.sequence (items : List Piece) : Piece :=
  match items with
  | [] => ⟨.empty, 0, true⟩
  | [p] => p
  | ps => ⟨.seq (ps.reverse.map (·.node)), (ps.map (·.height)).foldl max 0 + 1, true⟩

/-- The alternatives as one piece, the last one first. -/
def Piece.choice (branches : List Piece) : Piece :=
  match branches with
  | [] => ⟨.empty, 0, true⟩
  | [p] => p
  | ps => ⟨.anyOf (ps.reverse.map (·.node)), (ps.map (·.height)).foldl max 0 + 1, true⟩

/-- What a group does with what it takes: nothing, or it remembers it. -/
inductive GroupKind where
  | plain
  | capture (index : Nat) (name : Option String)
  deriving DecidableEq, Repr

/-- A level of the text: an open group, or the whole. -/
structure Level where
  kind : GroupKind
  /-- The mode outside of the group. -/
  outer : Mode
  /-- The finished alternatives, the last one first. -/
  branches : List Piece
  /-- The items of the current alternative, the last one first. -/
  items : List Piece
  deriving Repr

namespace Level

/-- Adds an item. -/
def push (l : Level) (p : Piece) : Level := { l with items := p :: l.items }

/-- Starts the next alternative. -/
def branch (l : Level) : Level :=
  { l with branches := Piece.sequence l.items :: l.branches, items := [] }

/-- All of the level as one piece. -/
def content (l : Level) : Piece := Piece.choice (Piece.sequence l.items :: l.branches)

/-- The group that the level becomes when it is closed. -/
def close (l : Level) : Piece :=
  let inner := l.content
  match l.kind with
  | .plain => ⟨inner.node, inner.height + 1, true⟩
  | .capture index name => ⟨.capture index name inner.node, inner.height + 1, true⟩

end Level

/-- How far the text has been read. -/
structure Progress where
  top : Level
  /-- The levels around `top`, the innermost one first. -/
  below : List Level
  mode : Mode
  /-- The number of groups opened so far that remember what they take. -/
  groups : Nat
  /-- The names of groups so far. -/
  names : List String
  deriving Repr

namespace Progress

/-- Before the first character. -/
def start : Progress := ⟨⟨.plain, .initial, [], []⟩, [], .initial, 0, []⟩

/-- Adds an item to the innermost level. -/
def push (p : Progress) (piece : Piece) : Progress := { p with top := p.top.push piece }

/-- Adds a node that nests nothing. -/
def pushNode (p : Progress) (node : Node) : Progress := p.push ⟨node, 0, true⟩

/-- Opens a group, with the mode that holds in it. -/
def openGroup (p : Progress) (kind : GroupKind) (inner : Mode) : Progress :=
  { p with top := ⟨kind, p.mode, [], []⟩, below := p.top :: p.below, mode := inner }

/-- Closes the innermost group. -/
def closeGroup (p : Progress) : Except Fault Progress :=
  match p.below with
  | [] => .error .groupNotOpened
  | l :: ls => .ok { p with top := l.push p.top.close, below := ls, mode := p.top.outer }

/-- Replaces the last item by its repetition. -/
def repeatLast (p : Progress) (lo : Nat) (hi : Option Nat) (lazy : Bool) :
    Except Fault Progress :=
  match p.top.items with
  | [] => .error .nothingToRepeat
  | item :: items =>
    if item.repeatable then
      let node := item.node.repeated lo hi (lazy == p.mode.swapGreed)
      .ok { p with top := { p.top with items := ⟨node, item.height + 1, true⟩ :: items } }
    else .error .nothingToRepeat

end Progress

/-- Reads a question mark that makes a repetition lazy. -/
def readLazy : List Char → Bool × List Char
  | '?' :: cs => (true, cs)
  | cs => (false, cs)

/-- Reads the digits of a count. -/
def readDigits (m : Mode) : (fuel : Nat) → (digits : List Char) → List Char →
    List Char × List Char
  | 0, digits, cs => (digits.reverse, cs)
  | _, digits, [] => (digits.reverse, [])
  | fuel + 1, digits, c :: cs =>
    if isAsciiDigit c then readDigits m fuel (c :: digits) (m.skip cs)
    else (digits.reverse, c :: cs)

/-- Steps over white space, and after each blank over what the mode leaves out. -/
def skipAround (m : Mode) : (fuel : Nat) → List Char → List Char
  | 0, cs => cs
  | _, [] => []
  | fuel + 1, c :: cs => if isWhiteSpace c then skipAround m fuel (m.skip cs) else c :: cs

/-- Reads a count with the white space around it; `none` where there are no digits. -/
def readCount (m : Mode) (cs : List Char) : Except Fault (WithRest (Option Nat)) :=
  let cs := cs.dropWhile isWhiteSpace
  let (digits, cs) := readDigits m (cs.length + 1) [] cs
  let rest := skipAround m (cs.length + 1) cs
  if digits.isEmpty then .ok (none, rest)
  else
    let n := digits.foldl (fun n c => n * 10 + hexValue c) 0
    if n < 0x100000000 then .ok (some n, rest) else .error .badCount

/-- The counts of a repetition, and the text after the closing brace. -/
def readCounts (m : Mode) (cs : List Char) : Except Fault (WithRest (Nat × Option Nat)) := do
  match ← readCount m (m.skip cs) with
  | (none, _) => .error .badCount
  | (some lo, '\x7D' :: rest) => return ((lo, some lo), rest)
  | (some lo, ',' :: cs) =>
    match m.skip cs with
    | '\x7D' :: rest => return ((lo, none), rest)
    | cs =>
      match ← readCount m cs with
      | (some hi, '\x7D' :: rest) =>
        if lo ≤ hi then return ((lo, some hi), rest) else .error .badCount
      | _ => .error .badCount
  | _ => .error .badCount

/-- The characters of a group's name. -/
def isNameChar (first : Bool) (c : Char) : Bool :=
  if first then c == '_' || isAlphabetic c
  else c == '_' || c == '.' || c == '[' || c == ']' || isAlphanumeric c

/-- Reads the name of a group up to its angle bracket. -/
def readGroupName (cs : List Char) : Except Fault (WithRest String) :=
  match cs.takeWhile (· != '>'), cs.dropWhile (· != '>') with
  | c :: name, _ :: rest =>
    if isNameChar true c && name.all (isNameChar false) then .ok (String.ofList (c :: name), rest)
    else .error .badGroupName
  | _, _ => .error .badGroupName

namespace Progress

/-- Opens a group with the next number. -/
def openCapture (p : Progress) (name : Option String) : Progress :=
  { p with groups := p.groups + 1 }.openGroup (.capture (p.groups + 1) name) p.mode

/-- Opens a group with a name, which follows in the text. -/
def openNamed (p : Progress) (cs : List Char) : Except Fault (WithRest Progress) := do
  let (name, rest) ← readGroupName cs
  if p.names.contains name then .error .repeatedGroupName
  else return ({ p with names := name :: p.names }.openCapture (some name), rest)

/-- Reads what stands after an opening parenthesis: the start of a group, or flags. -/
def readOpening (p : Progress) (cs : List Char) : Except Fault (WithRest Progress) :=
  match p.mode.skip cs with
  | '?' :: '=' :: _ => .error .lookAround
  | '?' :: '!' :: _ => .error .lookAround
  | '?' :: '<' :: '=' :: _ => .error .lookAround
  | '?' :: '<' :: '!' :: _ => .error .lookAround
  | '?' :: 'P' :: '<' :: cs => p.openNamed cs
  | '?' :: '<' :: cs => p.openNamed cs
  | '?' :: cs => do
    let flags ← p.mode.readFlags true false [] cs
    if flags.opens then return (p.openGroup .plain flags.mode, flags.rest)
    else if flags.any then
      return ({ p.push ⟨.empty, 0, false⟩ with mode := flags.mode }, flags.rest)
    else .error .nothingToRepeat
  | cs => .ok (p.openCapture none, cs)

/-- The node of a literal character. -/
def literal (m : Mode) (c : Char) : Node := .char (m.fold (.single c))

/-- The node of a point. -/
def point (m : Mode) : Except Fault Node :=
  if !m.unicode then .error .notUnicode
  else if m.dotAll then .ok (.char .any)
  else if m.crlf then .ok (.char (.compl (.ofRanges [('\n', '\n'), ('\r', '\r')])))
  else .ok (.char (.compl (.single '\n')))

/-- The test that `^` stands for. -/
def caret (m : Mode) : Look :=
  if m.lines then if m.crlf then .lineStartCrlf else .lineStart else .start

/-- The test that `$` stands for. -/
def dollar (m : Mode) : Look :=
  if m.lines then if m.crlf then .lineStopCrlf else .lineStop else .stop

/-- Reads the next item, of which the first character is given apart. -/
def step (p : Progress) (c : Char) (cs : List Char) : Except Fault (WithRest Progress) := do
  match c with
  | '(' => p.readOpening cs
  | ')' => return (← p.closeGroup, cs)
  | '|' => return ({ p with top := p.top.branch }, cs)
  | '[' =>
    let (part, rest) ← readClass p.mode cs
    return (p.push ⟨.char part.cls, part.height, true⟩, rest)
  | '?' | '*' | '+' =>
    let (lazy, rest) := readLazy cs
    let lo := if c == '+' then 1 else 0
    let hi := if c == '?' then some 1 else none
    return (← p.repeatLast lo hi lazy, rest)
  | '\x7B' =>
    let ((lo, hi), rest) ← readCounts p.mode cs
    let (lazy, rest) := readLazy (p.mode.skip rest)
    return (← p.repeatLast lo hi lazy, rest)
  | '\\' =>
    match ← readEscape p.mode cs with
    | (.literal c, rest) => return (p.pushNode (literal p.mode c), rest)
    | (.set cls, rest) => return (p.pushNode (.char cls), rest)
    | (.look test, rest) => return (p.pushNode (.look test), rest)
  | '.' => return (p.pushNode (← point p.mode), cs)
  | '^' => return (p.pushNode (.look (caret p.mode)), cs)
  | '$' => return (p.pushNode (.look (dollar p.mode)), cs)
  | c => return (p.pushNode (literal p.mode c), cs)

/-- Reads all items. The fuel is the length of the text. -/
def run : (fuel : Nat) → Progress → List Char → Except Fault Progress
  | 0, p, _ => .ok p
  | fuel + 1, p, cs =>
    match p.mode.skip cs with
    | [] => .ok p
    | c :: cs => do
      let (p, rest) ← p.step c cs
      run fuel p rest

/-- The expression, when the whole text has been read. -/
def finish (p : Progress) : Except Fault Piece :=
  match p.below with
  | [] => .ok p.top.content
  | _ :: _ => .error .groupOpen

end Progress

/-- The number of levels that groups, repetitions, sequences, alternatives and classes may be
nested. -/
def heightLimit : Nat := 250

/-- The bytes that a compiled program may take. -/
def costLimit : Nat := 10 * 1024 * 1024

/-- Reads the text of an expression. -/
def Node.ofText (text : List Char) : Except Fault Node := do
  let p ← Progress.start.run (text.length + 1) text
  let piece ← p.finish
  if piece.height > heightLimit then .error .tooDeep
  else if piece.node.cost > costLimit then .error .tooLarge
  else return piece.node

end Routing.Regex
