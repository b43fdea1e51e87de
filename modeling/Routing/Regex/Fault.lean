/-!
What can be wrong with the text of an expression.
-/

namespace Routing.Regex

/-- The reason why a text is no expression. -/
inductive Fault where
  /-- A group is opened and not closed. -/
  | groupOpen
  /-- A group is closed and was not opened. -/
  | groupNotOpened
  /-- A repetition has nothing to repeat. -/
  | nothingToRepeat
  /-- The counts of a repetition are malformed, too large, or in the wrong order. -/
  | badCount
  /-- A backslash stands at the end, or before a character that has no meaning there. -/
  | badEscape
  /-- The digits of a character's code are malformed, or no character has this code. -/
  | badCode
  /-- A class is opened and not closed. -/
  | classOpen
  /-- A range ends before it starts, or one of its ends is no character. -/
  | badRange
  /-- Something that is not a character or a class stands in a class. -/
  | badClassItem
  /-- No property of characters has this name. -/
  | unknownProperty
  /-- The name of a group is malformed or not closed. -/
  | badGroupName
  /-- Two groups have one name. -/
  | repeatedGroupName
  /-- The flags of a group are malformed. -/
  | badFlags
  /-- Looking ahead or behind is not supported. -/
  | lookAround
  /-- Referring to an earlier group is not supported. -/
  | backReference
  /-- The item could match part of a character, now that Unicode is switched off. -/
  | notUnicode
  /-- Groups, classes and repetitions are nested too deeply. -/
  | tooDeep
  /-- The compiled program would be too large. -/
  | tooLarge
  deriving DecidableEq, Repr, Inhabited

end Routing.Regex
