/-!
Matching in general. A `Matcher` is some language of patterns: how a text is read, what can be wrong
with it and how that is told are its own affair. In every language, texts that are too long are
refused before they are looked into.
-/

namespace ValueRules.Pattern

/-- The greatest length of a pattern, in bytes. -/
def greatestLength : Nat := 1000

/-- Why a text is not taken as a pattern. -/
inductive Refusal (ε : Type) where
  | tooLong
  | malformed (error : ε)
deriving DecidableEq, Repr, Inhabited

/-- The reason in words; those for a malformed text are the language's own. -/
def Refusal.message {ε : Type} (tell : ε → String) : Refusal ε → String
  | tooLong => s!"longer than {greatestLength} bytes"
  | malformed error => tell error

/-- A language of patterns, with what can be wrong with a text and what becomes of one that is
accepted. -/
structure Matcher (ε α : Type) where
  read : String → Except ε α
  tell : ε → String
  isFoundIn : α → String → Bool

/-- Texts that are too long are refused, all others are compiled. -/
def limited {ε α : Type} (compile : String → Except ε α) (text : String) :
    Except (Refusal ε) α :=
  if greatestLength < text.utf8ByteSize then .error .tooLong
  else (compile text).mapError .malformed

end ValueRules.Pattern
