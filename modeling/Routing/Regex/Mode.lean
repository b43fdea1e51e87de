import Routing.Regex.Fault
import Routing.Text.Alphabet

/-!
The flags of an expression, and the blanks that may stand in it.

A flag holds from where it is set to the end of the group that it is set in. With the flag `x` the
text is read with blanks and comments left out; everything that reads the text steps over them with
`Mode.skip`.
-/

namespace Routing.Regex

open Text

/-- The flags in force at a place of the text. -/
structure Mode where
  /-- `i`: case does not matter. -/
  caseless : Bool
  /-- `m`: `^` and `$` stand for the ends of a line. -/
  lines : Bool
  /-- `s`: the point also takes the end of a line. -/
  dotAll : Bool
  /-- `U`: repetitions are lazy unless marked. -/
  swapGreed : Bool
  /-- `u`: classes and word boundaries know all of Unicode. -/
  unicode : Bool
  /-- `R`: a return ends a line, too. -/
  crlf : Bool
  /-- `x`: blanks and comments are left out. -/
  extended : Bool
  deriving DecidableEq, Repr, Inhabited

/-- The flags at the start of an expression. -/
def Mode.initial : Mode := ⟨false, false, false, false, true, false, false⟩

mutual

/-- Steps over white space and comments. -/
def skipBlank : List Char → List Char
  | [] => []
  | c :: cs => if isWhiteSpace c then skipBlank cs else if c == '#' then skipComment cs else c :: cs

/-- Steps over the rest of a comment, which ends with its line, and the blanks after it. -/
def skipComment : List Char → List Char
  | [] => []
  | c :: cs => if c == '\n' then skipBlank cs else skipComment cs

end

namespace Mode

/-- Steps over what the mode leaves out. -/
def skip (m : Mode) (cs : List Char) : List Char := if m.extended then skipBlank cs else cs

/-- Sets or clears the flag with this letter. -/
def set? (m : Mode) (flag : Char) (on : Bool) : Option Mode :=
  match flag with
  | 'i' => some { m with caseless := on }
  | 'm' => some { m with lines := on }
  | 's' => some { m with dotAll := on }
  | 'U' => some { m with swapGreed := on }
  | 'u' => some { m with unicode := on }
  | 'R' => some { m with crlf := on }
  | 'x' => some { m with extended := on }
  | _ => none

/-- What was read between `(?` and the character that ends the flags. -/
structure FlagGroup where
  mode : Mode
  /-- Was there at least one flag? -/
  any : Bool
  /-- Do the flags start a group (`:`), or do they hold from here on (`)`)? -/
  opens : Bool
  rest : List Char

/-- Reads flags: letters, of which none may stand twice, and at most one hyphen, after which the
flags are cleared and which must not stand last. -/
def readFlags (m : Mode) (on : Bool) (hyphenLast : Bool) (seen : List Char) :
    List Char → Except Fault FlagGroup
  | [] => .error .badFlags
  | c :: cs =>
    if c == ':' || c == ')' then
      if hyphenLast then .error .badFlags else .ok ⟨m, !seen.isEmpty, c == ':', cs⟩
    else if c == '-' then
      if on then readFlags m false true seen cs else .error .badFlags
    else if seen.contains c then .error .badFlags
    else match m.set? c on with
      | some m => readFlags m on false (c :: seen) cs
      | none => .error .badFlags

end Mode

end Routing.Regex
