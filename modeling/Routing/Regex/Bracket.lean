import Routing.Regex.Escape

/-!
Classes in brackets: `[a-z_]`, `[^/]`, `[\w&&[^\d]]`.

Open brackets stand on a stack. An open bracket holds the items read since it was opened or since
the last set operation, and what stands left of that operation. The operations have one rank, below
the union, and group to the left.

    [a-c && b]        pending: (∩, [a-c])      items: b
-/

namespace Routing.Regex

open Text

/-- A set operation between the items of a bracket. -/
inductive SetOp where
  | inter
  | diff
  | symmDiff
  deriving DecidableEq, Repr

/-- The class of two operands. -/
def SetOp.apply : SetOp → CharClass → CharClass → CharClass
  | .inter => .inter
  | .diff => .diff
  | .symmDiff => .symmDiff

/-- A part of a class, with the number of levels that it is nested. -/
structure ClassPart where
  cls : CharClass
  height : Nat
  deriving Repr

/-- The union of parts, of which the last one comes first. A union of several is a level of its
own. -/
def ClassPart.unite : List ClassPart → ClassPart
  | [] => ⟨.nothing, 0⟩
  | [p] => p
  | p :: ps => ps.foldl (fun a b => ⟨.union b.cls a.cls, max a.height (b.height + 1)⟩)
      ⟨p.cls, p.height + 1⟩

/-- An open bracket. -/
structure Bracket where
  negated : Bool
  /-- The set operation that waits for its right operand, and its left operand. -/
  pending : Option (SetOp × ClassPart)
  /-- The items read for the current operand, the last one first. -/
  items : List ClassPart
  deriving Repr

namespace Bracket

/-- Adds an item. -/
def push (b : Bracket) (cls : CharClass) (height : Nat) : Bracket :=
  { b with items := ⟨cls, height⟩ :: b.items }

/-- The operand that was being read, joined to what waits for it. -/
def operand (m : Mode) (b : Bracket) : ClassPart :=
  let right := ClassPart.unite b.items
  match b.pending with
  | none => right
  | some (op, left) =>
    ⟨op.apply (m.fold left.cls) (m.fold right.cls), max left.height right.height + 1⟩

/-- Starts the right operand of a set operation. -/
def operate (m : Mode) (op : SetOp) (b : Bracket) : Bracket :=
  { b with pending := some (op, b.operand m), items := [] }

/-- The class of a bracket that is closed. -/
def close (m : Mode) (b : Bracket) : Except Fault ClassPart := do
  let inner := b.operand m
  let folded := m.fold inner.cls
  return ⟨← if b.negated then m.negate folded else .ok folded, inner.height + 1⟩

end Bracket

/-- Reads the hyphens at the start of a bracket, which stand for themselves. -/
def readHyphens (m : Mode) : (fuel : Nat) → Bracket → List Char →
    Except Fault (WithRest Bracket)
  | 0, _, _ => .error .classOpen
  | _, _, [] => .error .classOpen
  | fuel + 1, b, c :: cs =>
    if c == '-' then readHyphens m fuel (b.push (.single '-') 0) (m.skip cs) else .ok (b, c :: cs)

/-- Reads the start of a bracket, after its `[`: a negation, hyphens, and a closing bracket that
stands for itself because it comes first. -/
def openBracket (m : Mode) (cs : List Char) : Except Fault (WithRest Bracket) := do
  let (negated, cs) := match m.skip cs with
    | '^' :: cs => (true, m.skip cs)
    | cs => (false, cs)
  let (b, cs) ← readHyphens m (cs.length + 1) ⟨negated, none, []⟩ cs
  match b.items, cs with
  | [], ']' :: cs =>
    match m.skip cs with
    | [] => .error .classOpen
    | cs => return (b.push (.single ']') 0, cs)
  | _, cs => return (b, cs)

/-- Reads `[:name:]` or `[:^name:]`, after the `[`, if it is the name of a class. -/
def readPosixClass (cs : List Char) : Option (CharClass × Bool × List Char) :=
  match cs with
  | ':' :: cs =>
    let (negated, cs) := match cs with
      | '^' :: cs => (true, cs)
      | cs => (false, cs)
    match cs.dropWhile (· != ':') with
    | ':' :: ']' :: rest =>
      (CharClass.ofPosixName (String.ofList (cs.takeWhile (· != ':')))).map (·, negated, rest)
    | _ => none
  | _ => none

/-- Reads one character or class in a bracket. -/
def readItem (m : Mode) : List Char → Except Fault (WithRest Atom)
  | [] => .error .classOpen
  | '\\' :: cs => readEscape m cs
  | c :: cs => .ok (.literal c, cs)

/-- The character that follows, when blanks are left out. A comment hides only its `#` here. -/
def peekSkip (m : Mode) (cs : List Char) : Option Char :=
  let rec go (inComment : Bool) : List Char → Option Char
    | [] => cs.head?
    | c :: cs =>
      if isWhiteSpace c then go inComment cs
      else if !inComment && c == '#' then go true cs
      else some c
  if m.extended then go false cs else cs.head?

/-- A character in a bracket. Without Unicode it must be below 128. -/
def bracketChar (m : Mode) (c : Char) : Except Fault Char :=
  if !m.unicode && c.toNat > 127 then .error .notUnicode else .ok c

/-- Reads an item or a range of a bracket. -/
def readRange (m : Mode) (cs : List Char) : Except Fault (WithRest CharClass) := do
  let (first, cs) ← readItem m cs
  match m.skip cs with
  | [] => .error .classOpen
  | c :: cs =>
    let next := peekSkip m cs
    if c != '-' || next == some ']' || next == some '-' then
      match first with
      | .literal a => return (.single (← bracketChar m a), c :: cs)
      | .set cls => return (cls, c :: cs)
      | .look _ => .error .badClassItem
    else
      match m.skip cs with
      | [] => .error .classOpen
      | cs =>
        let (last, cs) ← readItem m cs
        match first, last with
        | .literal a, .literal b =>
          let a ← bracketChar m a
          let b ← bracketChar m b
          if a.toNat ≤ b.toNat then return (.range a b, cs) else .error .badRange
        | _, _ => .error .badRange

/-- Reads the rest of the open brackets, the innermost one first, up to the end of the outermost.
The fuel is the length of the text. -/
def readBrackets (m : Mode) : (fuel : Nat) → Bracket → List Bracket → List Char →
    Except Fault (WithRest ClassPart)
  | 0, _, _, _ => .error .classOpen
  | fuel + 1, b, outer, cs =>
    match m.skip cs with
    | [] => .error .classOpen
    | '[' :: cs =>
      match readPosixClass cs with
      | some (cls, negated, rest) => do
        let folded := m.fold cls
        let cls ← if negated then m.negate folded else .ok folded
        readBrackets m fuel (b.push cls 0) outer rest
      | none => do
        let (inner, rest) ← openBracket m cs
        readBrackets m fuel inner (b :: outer) rest
    | ']' :: cs => do
      let part ← b.close m
      match outer with
      | [] => return (part, cs)
      | b :: outer => readBrackets m fuel (b.push part.cls part.height) outer cs
    | '&' :: '&' :: cs => readBrackets m fuel (b.operate m .inter) outer cs
    | '-' :: '-' :: cs => readBrackets m fuel (b.operate m .diff) outer cs
    | '~' :: '~' :: cs => readBrackets m fuel (b.operate m .symmDiff) outer cs
    | cs => do
      let (cls, rest) ← readRange m cs
      readBrackets m fuel (b.push cls 0) outer rest

/-- Reads a class in brackets, after its `[`. -/
def readClass (m : Mode) (cs : List Char) : Except Fault (WithRest ClassPart) := do
  let (b, rest) ← openBracket m cs
  readBrackets m (cs.length + 1) b [] rest

end Routing.Regex
