import ValueRules.Pattern.Matcher
import ValueRules.Pattern.Reader
import ValueRules.Pattern.Weight

/-!
Patterns: texts that describe other texts. A pattern is found anywhere in a text unless it asserts
where the text begins or ends.
-/

namespace ValueRules

/-- A pattern that was accepted. -/
structure Pattern where
  expr : Pattern.Expr
deriving DecidableEq, Repr, Inhabited

namespace Pattern

/-- The pattern that a text writes, unless it is malformed, too deep or too large. -/
def read (text : String) : Except PatternError Pattern := do
  let part ← Part.ofText text
  if PatternError.greatestDepth < part.depth then throw .tooDeep
  if !(Weight.ofPattern part.tree).fits then throw .tooLarge
  return ⟨part.tree.expr⟩

def compile (text : String) : Except (Refusal PatternError) Pattern :=
  limited read text

def isFoundIn (pattern : Pattern) (text : String) : Bool :=
  pattern.expr.isFoundIn text

def matcher : Matcher PatternError Pattern := ⟨read, PatternError.message, isFoundIn⟩

/-- Letters and digits of ASCII. -/
def alphanumeric : CharSet := ⟨[(0x30, 0x39), (0x41, 0x5a), (0x61, 0x7a)]⟩

def alphanumericOrHyphen : CharSet :=
  ⟨[(0x2d, 0x2d), (0x30, 0x39), (0x41, 0x5a), (0x61, 0x7a)]⟩

/-- Letters, digits and the signs that may stand before the at sign of an address. -/
def localChars : CharSet :=
  ⟨[(0x21, 0x21), (0x23, 0x27), (0x2a, 0x2b), (0x2d, 0x39), (0x3d, 0x3d), (0x3f, 0x3f),
    (0x41, 0x5a), (0x5e, 0x7e)]⟩

/-- A label of a domain: up to 63 letters, digits and hyphens, with no hyphen at either end. -/
def domainLabel : Expr :=
  .seq (.chars alphanumeric)
    (.optional (.seq (.rep 0 (some 61) (.chars alphanumericOrHyphen)) (.chars alphanumeric)))

/-- An address: signs, an at sign, and two or more labels with points between them. -/
def email : Pattern :=
  ⟨.seqs [.look .textStart, .oneOrMore (.chars localChars), .chars (.singleton '@'), domainLabel,
    .oneOrMore (.seq (.chars (.singleton '.')) domainLabel), .look .textEnd]⟩

end Pattern

end ValueRules
