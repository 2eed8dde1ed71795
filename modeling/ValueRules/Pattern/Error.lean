/-!
Why a text is no pattern.
-/

namespace ValueRules

inductive PatternError where
  | tooDeep
  | tooLarge
  | unclosedGroup
  | unopenedGroup
  | badGroup
  | badGroupName
  | badFlags
  | nothingToRepeat
  | badCount
  | unclosedClass
  | badRange
  | noSetMember
  | badEscape
  | badCodePoint
  | unknownProperty
  | notUtf8
deriving DecidableEq, Repr, Inhabited

namespace PatternError

/-- The greatest number of expressions inside one another. -/
def greatestDepth : Nat := 250

/-- The reason for people to read. The wording is this library's own. -/
def message : PatternError → String
  | tooDeep => s!"more than {greatestDepth} expressions inside one another"
  | tooLarge => "the compiled pattern is too large"
  | unclosedGroup => "a group is not closed"
  | unopenedGroup => "a group is closed that was not opened"
  | badGroup => "a group of an unknown kind"
  | badGroupName => "a group's name is empty, malformed or used twice"
  | badFlags => "flags are missing, unknown or given twice"
  | nothingToRepeat => "a repetition has nothing to repeat"
  | badCount => "a repetition count is malformed or out of range"
  | unclosedClass => "a character class is not closed"
  | badRange => "a range of characters is malformed or ends before it starts"
  | noSetMember => "an escape stands for no character of a class"
  | badEscape => "an unknown or unfinished escape"
  | badCodePoint => "no character has this code point"
  | unknownProperty => "an unknown property of characters"
  | notUtf8 => "the pattern could match text that is not UTF-8"

end PatternError

end ValueRules
