import ValueRules.Unicode.Property

/-!
Assertions about a place between two characters, which a pattern can make without reading any.
-/

namespace ValueRules.Pattern

/-- The characters on both sides of a place in a text; none at its ends. -/
structure Place where
  before : Option Char
  after : Option Char
deriving DecidableEq, Repr

/-- What a word assertion says about the characters around a place. -/
inductive WordEdge where
  | boundary
  | noBoundary
  | start
  | stop
  | startHalf
  | stopHalf
deriving DecidableEq, Repr, Hashable

/-- Which ends of lines are told apart: those after a line feed, or those of either kind. -/
inductive Look where
  | textStart
  | textEnd
  | lineStart
  | lineEnd
  | anyLineStart
  | anyLineEnd
  | word (edge : WordEdge) (ascii : Bool)
deriving DecidableEq, Repr, Hashable

/-- The characters of words. -/
def wordChars : CharSet := .unions
  [Unicode.alphabetic, Unicode.mark, Unicode.decimalNumber, Unicode.connectorPunctuation,
    Unicode.joinControl]

/-- The characters of words among those of ASCII. -/
def asciiWordChars : CharSet := ⟨[(0x30, 0x39), (0x41, 0x5a), (0x5f, 0x5f), (0x61, 0x7a)]⟩

def isWord (ascii : Bool) : Option Char → Bool
  | some c => if ascii then asciiWordChars.contains c else wordChars.contains c
  | none => false

namespace WordEdge

def holds (edge : WordEdge) (before after : Bool) : Bool :=
  match edge with
  | boundary => before != after
  | noBoundary => before == after
  | start => !before && after
  | stop => before && !after
  | startHalf => !before
  | stopHalf => !after

end WordEdge

namespace Look

/-- A carriage return and the line feed after it end one line together. -/
def holds (look : Look) (place : Place) : Bool :=
  match look with
  | textStart => place.before.isNone
  | textEnd => place.after.isNone
  | lineStart => place.before.isNone || place.before == some '\n'
  | lineEnd => place.after.isNone || place.after == some '\n'
  | anyLineStart =>
    place.before.isNone || place.before == some '\n' ||
      (place.before == some '\r' && place.after != some '\n')
  | anyLineEnd =>
    place.after.isNone || place.after == some '\r' ||
      (place.after == some '\n' && place.before != some '\r')
  | word edge ascii => edge.holds (isWord ascii place.before) (isWord ascii place.after)

end Look

end ValueRules.Pattern
