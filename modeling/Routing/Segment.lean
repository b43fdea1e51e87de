import Routing.Regex

/-!
Segments: the parts that a pattern consists of, and the expression that they stand for.

    users/<id>(/<action>)

    literal "users/"    parameter id    optional [ literal "/", parameter action ]
         users/        (?P<__p0>[^/]+)        (?:/(?P<__p1>[^/]+))?

A parameter becomes a group that is named by its number, since the name of a parameter may start
with a digit and the name of a group may not.
-/

namespace Routing

/-- A part of a pattern. -/
inductive Segment where
  /-- Fixed text. -/
  | literal (text : String)
  /-- Text that is captured under a name, and the constraint that it meets. -/
  | parameter (name constraint : String)
  /-- Parts that are there all together or not at all. -/
  | optional (children : List Segment)
  deriving Inhabited

namespace Segment

mutual

/-- Are two segments equal? -/
def decEq : (a b : Segment) → Decidable (a = b)
  | literal s, literal t => if h : s = t then isTrue (h ▸ rfl) else isFalse (by simpa)
  | parameter n c, parameter m d =>
    if h : n = m ∧ c = d then isTrue (h.1 ▸ h.2 ▸ rfl) else isFalse (by simpa using h)
  | optional as, optional bs =>
    match decEqList as bs with
    | isTrue h => isTrue (h ▸ rfl)
    | isFalse h => isFalse (by simpa)
  | literal _, parameter _ _ => isFalse nofun
  | literal _, optional _ => isFalse nofun
  | parameter _ _, literal _ => isFalse nofun
  | parameter _ _, optional _ => isFalse nofun
  | optional _, literal _ => isFalse nofun
  | optional _, parameter _ _ => isFalse nofun

/-- Are two lists of segments equal? -/
def decEqList : (as bs : List Segment) → Decidable (as = bs)
  | [], [] => isTrue rfl
  | [], _ :: _ => isFalse nofun
  | _ :: _, [] => isFalse nofun
  | a :: as, b :: bs =>
    match decEq a b, decEqList as bs with
    | isTrue h, isTrue hs => isTrue (h ▸ hs ▸ rfl)
    | isFalse h, _ => isFalse fun e => h (List.cons.inj e).1
    | _, isFalse h => isFalse fun e => h (List.cons.inj e).2

end

instance : DecidableEq Segment := decEq

/-- Is the segment fixed text? -/
def isLiteral : Segment → Bool
  | literal _ => true
  | _ => false

mutual

/-- Is there a parameter in the segment? -/
def hasParameters : Segment → Bool
  | literal _ => false
  | parameter _ _ => true
  | optional children => anyParameters children

/-- Is there a parameter in one of the segments? -/
def anyParameters : List Segment → Bool
  | [] => false
  | s :: ss => s.hasParameters || anyParameters ss

end

mutual

/-- The parameters of a segment, each with its constraint, from left to right. -/
def parameters : Segment → List (String × String)
  | literal _ => []
  | parameter name constraint => [(name, constraint)]
  | optional children => allParameters children

/-- The parameters of all segments. -/
def allParameters : List Segment → List (String × String)
  | [] => []
  | s :: ss => s.parameters ++ allParameters ss

end

/-- The name of the group of the parameter with this number. -/
def groupName (index : Nat) : String := "__p" ++ toString index

mutual

/-- The expression of a segment, whose first parameter has the given number. -/
def write (index : Nat) : Segment → String
  | literal text => Regex.escape text
  | parameter _ constraint => "(?P<" ++ groupName index ++ ">" ++ constraint ++ ")"
  | optional children => "(?:" ++ writeAll index children ++ ")?"

/-- The expression of segments one after another. -/
def writeAll (index : Nat) : List Segment → String
  | [] => ""
  | s :: ss => write index s ++ writeAll (index + s.parameters.length) ss

end

/-- The expression that a whole path has to match. -/
def expression (segments : List Segment) : String := "^" ++ writeAll 0 segments ++ "$"

end Segment

end Routing
