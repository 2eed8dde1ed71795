import ValueRules.Pattern.Error
import ValueRules.Text.Blank
import ValueRules.Unicode.CaseMap

/-!
The flags under which a pattern is read, and what they make of characters and sets.
-/

namespace ValueRules.Pattern

structure Flags where
  caseless : Bool := false
  multiline : Bool := false
  dotAll : Bool := false
  swapped : Bool := false
  unicode : Bool := true
  crlf : Bool := false
  spaced : Bool := false
deriving DecidableEq, Repr, Inhabited

namespace Flags

/-- Sets the flag of a letter, if there is one. -/
def set? (flags : Flags) (letter : Char) (value : Bool) : Option Flags :=
  match letter with
  | 'i' => some { flags with caseless := value }
  | 'm' => some { flags with multiline := value }
  | 's' => some { flags with dotAll := value }
  | 'U' => some { flags with swapped := value }
  | 'u' => some { flags with unicode := value }
  | 'R' => some { flags with crlf := value }
  | 'x' => some { flags with spaced := value }
  | _ => none

/-- Letters set flags up to a hyphen and clear them after it. -/
def apply (flags : Flags) (letters : List Char) : Except PatternError Flags :=
  let (on, rest) := (letters.takeWhile (· ≠ '-'), letters.dropWhile (· ≠ '-'))
  let off := rest.drop 1
  let isSound := (on ++ off).Pairwise (· ≠ ·) ∧ (rest ≠ [] → off ≠ [])
  let set (value : Bool) (flags? : Option Flags) (letter : Char) : Option Flags :=
    flags?.bind fun flags => flags.set? letter value
  match off.foldl (set false) (on.foldl (set true) (some flags)) with
  | some flags => if isSound then .ok flags else .error .badFlags
  | none => .error .badFlags

/-- Leaves out white space and comments. -/
def dropSpace (inComment : Bool) : List Char → List Char
  | [] => []
  | c :: rest =>
    if inComment then dropSpace (c ≠ '\n') rest
    else if Text.isBlank c then dropSpace false rest
    else if c = '#' then dropSpace true rest
    else c :: rest

/-- What comes next, where space counts or does not. -/
def skip (flags : Flags) (text : List Char) : List Char :=
  if flags.spaced then dropSpace false text else text

/-- The characters as long as they are of a kind, without space where it does not count, and the
rest. -/
def collect (flags : Flags) (p : Char → Bool) (inComment : Bool) :
    List Char → List Char × List Char
  | [] => ([], [])
  | c :: rest =>
    if inComment then collect flags p (c ≠ '\n') rest
    else if flags.spaced && Text.isBlank c then collect flags p false rest
    else if flags.spaced && c = '#' then collect flags p true rest
    else if p c then
      let (found, rest) := collect flags p false rest
      (c :: found, rest)
    else ([], c :: rest)

/-- The letters of ASCII in the other case. -/
def asciiSwapped (set : CharSet) : CharSet :=
  let upper := set.inter ⟨[(0x41, 0x5a)]⟩
  let lower := set.inter ⟨[(0x61, 0x7a)]⟩
  .ofRanges ((upper.ranges.map fun (lo, hi) => (lo + 32, hi + 32)) ++
    lower.ranges.map fun (lo, hi) => (lo - 32, hi - 32))

/-- The set with all that differs from its members in case only, if case does not count. -/
def fold (flags : Flags) (set : CharSet) : CharSet :=
  if !flags.caseless then set
  else if flags.unicode then Unicode.caseless set
  else set.union (asciiSwapped set)

/-- The set or its complement. Without Unicode a set is one of bytes, and those beyond ASCII are no
characters. -/
def negateIf (flags : Flags) (negated : Bool) (set : CharSet) : Except PatternError CharSet :=
  let set := if negated then set.complement else set
  if flags.unicode || set.ranges.all fun (_, hi) => hi ≤ 0x7f then .ok set else .error .notUtf8

end Flags

end ValueRules.Pattern
