import Routing.Regex.CharClass

/-!
The expressions themselves: what is left of the text of an expression once groups, flags and
escapes have been read.

Flags are gone: whether case matters, or where a line ends, is settled at each node. A group is kept
only if it captures.

Sequences and alternatives are binary, and are made by `seq` and `anyOf`, which bring them into a
simple form. Alternatives that take one character each are one class. Alternatives that all start
alike are a sequence of what they share and of what is left of each:

    x*y|x*z   ──▶   x*[yz]          ab*|cd   ──▶   ab*|cd
-/

namespace Routing.Regex

/-- A test of the place between two characters. -/
inductive Look where
  | start
  | stop
  /-- The start of the text, or the place after a line feed. -/
  | lineStart
  /-- The end of the text, or the place before a line feed. -/
  | lineStop
  /-- The start of a line, where a return, a line feed or both end a line. -/
  | lineStartCrlf
  /-- The end of a line, where a return, a line feed or both end a line. -/
  | lineStopCrlf
  /-- Between a word character and a character of no word. -/
  | boundary (unicode : Bool)
  | notBoundary (unicode : Bool)
  /-- A word starts here. -/
  | wordStart (unicode : Bool)
  /-- A word ends here. -/
  | wordStop (unicode : Bool)
  /-- No word character stands before this place. -/
  | wordStartHalf (unicode : Bool)
  /-- No word character stands after this place. -/
  | wordStopHalf (unicode : Bool)
  deriving DecidableEq, Repr, Inhabited

/-- An expression. -/
inductive Node where
  /-- Takes nothing. -/
  | empty
  /-- Takes one character of the class. -/
  | char (set : CharClass)
  /-- Takes nothing, where the test holds. -/
  | look (test : Look)
  /-- Remembers what the body takes, under a number and perhaps a name. -/
  | capture (index : Nat) (name : Option String) (body : Node)
  | cat (first second : Node)
  /-- Prefers the first alternative. -/
  | alt (first second : Node)
  /-- Takes the body `lo` to `hi` times, as often as possible if greedy, else as seldom. -/
  | iter (body : Node) (lo : Nat) (hi : Option Nat) (greedy : Bool)
  deriving DecidableEq, Repr, Inhabited

namespace Node

/-- The parts of a sequence. -/
def parts : Node → List Node
  | empty => []
  | cat a b => a.parts ++ b.parts
  | a => [a]

/-- The parts one after another. -/
def ofParts : List Node → Node
  | [] => empty
  | [a] => a
  | a :: as => cat a (ofParts as)

/-- The nodes one after another, as one flat sequence. -/
def seq (nodes : List Node) : Node := ofParts (nodes.flatMap parts)

/-- The alternatives of a choice. -/
def branches : Node → List Node
  | alt a b => a.branches ++ b.branches
  | a => [a]

/-- The alternatives as a choice. There is at least one. -/
def ofBranches : List Node → Node
  | [] => empty
  | [a] => a
  | a :: as => alt a (ofBranches as)

/-- Are two expressions the same, with classes that have the same members? -/
def agrees : Node → Node → Bool
  | empty, empty => true
  | char a, char b => a.agrees b
  | look s, look t => s == t
  | capture i m a, capture j n b => i == j && m == n && a.agrees b
  | cat a b, cat c d => a.agrees c && b.agrees d
  | alt a b, alt c d => a.agrees c && b.agrees d
  | iter a lo hi g, iter b lo' hi' g' => lo == lo' && hi == hi' && g == g' && a.agrees b
  | _, _ => false

/-- The parts that two sequences have in common at their start. -/
def commonStart : List Node → List Node → List Node
  | a :: as, b :: bs => if a.agrees b then a :: commonStart as bs else []
  | _, _ => []

/-- The class of nodes that take one character each. -/
def asClass : List Node → Option CharClass
  | [] => some .nothing
  | char set :: nodes => (asClass nodes).map (.union set)
  | _ => none

/-- What alternatives share at their start. They have to be sequences of two parts or more. -/
def sharedStart (branches : List Node) : List Node :=
  match branches.map parts with
  | [] => []
  | p :: ps =>
    if (p :: ps).all (2 ≤ ·.length) then ps.foldl commonStart p else []

/-- Flat alternatives as a choice in its simple form. The fuel bounds how often a start can be split
off. -/
def choice : (fuel : Nat) → List Node → Node
  | 0, branches => ofBranches branches
  | fuel + 1, branches =>
    match branches, asClass branches with
    | [a], _ => a
    | _, some set => char set
    | _, none =>
      match sharedStart branches with
      | [] => ofBranches branches
      | start =>
        let rests := branches.map fun a => ofParts (a.parts.drop start.length)
        seq (start ++ [choice fuel (rests.flatMap Node.branches)])

/-- The nodes as alternatives, the preferred one first. -/
def anyOf (nodes : List Node) : Node :=
  let branches := nodes.flatMap branches
  choice (branches.foldl (fun n a => n + a.parts.length) 1) branches

/-- Can the expression take nothing but the empty text, whatever the text is? -/
def takesNothing : Node → Bool
  | empty | look _ => true
  | char _ => false
  | capture _ _ a => a.takesNothing
  | cat a b | alt a b => a.takesNothing && b.takesNothing
  | iter a _ _ _ => a.takesNothing

/-- Can the expression take the empty text, as far as its shape says? -/
def nullable : Node → Bool
  | empty | look _ => true
  | char _ => false
  | capture _ _ a => a.nullable
  | cat a b => a.nullable && b.nullable
  | alt a b => a.nullable || b.nullable
  | iter a lo _ _ => lo == 0 || a.nullable

/-- A repetition. A body that takes nothing is repeated at most once, and no repetition at all
leaves nothing of the body: its groups are gone, too. -/
def repeated (body : Node) (lo : Nat) (hi : Option Nat) (greedy : Bool) : Node :=
  let (lo, hi) := if body.takesNothing then (min lo 1, some (min (hi.getD 1) 1)) else (lo, hi)
  if hi = some 0 then empty
  else if lo = 1 ∧ hi = some 1 then body
  else iter body lo hi greedy

/-- The number of the group with this name. -/
def group? (name : String) : Node → Option Nat
  | empty | char _ | look _ => none
  | capture i n a => if n = some name then some i else a.group? name
  | cat a b | alt a b => (a.group? name).or (b.group? name)
  | iter a _ _ _ => a.group? name

end Node

end Routing.Regex
