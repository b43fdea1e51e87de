import Routing.Regex.Node

/-!
Programs: expressions as steps that a reader of a text can follow.

The code of an expression is laid out in one piece. Whoever comes to its first step and leaves it by
its end has matched the expression. Where there is a choice stands a fork, whose first target is the
preferred one.

    (?:ab|c*)d      0  fork 1 4        4  fork 5 7
                    1  char a          5  char c
                    2  char b          6  jump 4
                    3  jump 7          7  char d

A counted repetition is written out. A repetition whose body may take nothing is entered by one fork
and goes on by another: it prefers a first round to none, and only then a next one.
-/

namespace Routing.Regex

/-- A step of a program. -/
inductive Instr where
  /-- Takes one character of the class. -/
  | char (set : CharClass)
  /-- Goes on where the test holds. -/
  | look (test : Look)
  /-- Notes the place: group `n` starts at mark `2 n` and ends at mark `2 n + 1`. -/
  | mark (slot : Nat)
  /-- Goes on elsewhere. -/
  | jump (target : Nat)
  /-- Goes on at the first target, or else at the second. -/
  | fork (first second : Nat)
  deriving DecidableEq, Repr, Inhabited

/-- The fork of a repetition, between one more round and its end. -/
def Instr.choose (greedy : Bool) (more stop : Nat) : Instr :=
  if greedy then fork more stop else fork stop more

/-- A program. It is left by its end. -/
abbrev Program := Array Instr

namespace Node

/-- The number of steps in the code of an expression. -/
def codeSize : Node → Nat
  | empty => 0
  | char _ | look _ => 1
  | capture _ _ a => a.codeSize + 2
  | cat a b => a.codeSize + b.codeSize
  | alt a b => a.codeSize + b.codeSize + 2
  | iter a lo hi _ =>
    match hi with
    | some hi => lo * a.codeSize + (hi - lo) * (a.codeSize + 1)
    | none => if lo = 0 then a.codeSize + 2 else lo * a.codeSize + 1

/-- The code of an expression, to be placed at `start`. -/
def code : Node → (start : Nat) → List Instr
  | empty, _ => []
  | char set, _ => [.char set]
  | look test, _ => [.look test]
  | capture index _ a, start =>
    .mark (2 * index) :: (a.code (start + 1) ++ [.mark (2 * index + 1)])
  | cat a b, start => a.code start ++ b.code (start + a.codeSize)
  | alt a b, start =>
    let other := start + a.codeSize + 2
    .fork (start + 1) other ::
      (a.code (start + 1) ++ .jump (other + b.codeSize) :: b.code other)
  | iter a lo hi greedy, start =>
    let size := a.codeSize
    let rounds := (List.range lo).flatMap fun i => a.code (start + i * size)
    match hi with
    | some hi =>
      let stop := start + lo * size + (hi - lo) * (size + 1)
      rounds ++ (List.range (hi - lo)).flatMap fun i =>
        let next := start + lo * size + i * (size + 1)
        .choose greedy (next + 1) stop :: a.code (next + 1)
    | none =>
      if lo = 0 then
        let fork := Instr.choose greedy (start + 1) (start + size + 2)
        fork :: (a.code (start + 1) ++ [if a.nullable then fork else .jump start])
      else rounds ++ [.choose greedy (start + (lo - 1) * size) (start + lo * size + 1)]

/-- The program of an expression. -/
def program (node : Node) : Program := (node.code 0).toArray

end Node

end Routing.Regex
