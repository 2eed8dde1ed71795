import ValueRules.Pattern.Flags
import ValueRules.Pattern.Look
import ValueRules.Unicode.Name

/-!
Escapes, inside and outside of classes: a backslash and what follows it stand for a character, a set
of characters or an assertion.
-/

namespace ValueRules.Pattern

/-- What a character or an escape in a pattern stands for. -/
inductive Primitive where
  | char (c : Char)
  | set (set : CharSet)
  | look (look : Look)
deriving Repr

namespace Escape

/-- The characters with a meaning of their own. -/
def hasMeaning (c : Char) : Bool :=
  "\\.+*?()|[]\x7b\x7d^$#&-~".toList.contains c

/-- Every other character of ASCII may be escaped for no reason, unless it is a letter, a digit or
one of the signs for the ends of words. -/
def canBeEscaped (c : Char) : Bool :=
  hasMeaning c || (c.toNat < 0x80 && !c.isAlphanum && c ≠ '<' && c ≠ '>')

def isHexDigit (c : Char) : Bool :=
  c.isDigit || ('a' ≤ c && c ≤ 'f') || ('A' ≤ c && c ≤ 'F')

/-- The character of a code point in hexadecimal digits. -/
def charOfHex (digits : List Char) : Except PatternError Char :=
  let n := CharSet.hex (digits.map Char.toUpper)
  if digits.all isHexDigit && digits ≠ [] && n.isValidChar then .ok (.ofNat n)
  else .error .badCodePoint

/-- A fixed number of hexadecimal digits. -/
def fixedHex (flags : Flags) : Nat → List Char → Except PatternError (List Char × List Char)
  | 0, text => .ok ([], text)
  | _ + 1, [] => .error .badEscape
  | n + 1, c :: rest => do
    if !isHexDigit c then throw .badCodePoint
    let (digits, rest) ← fixedHex flags n (flags.skip rest)
    return (c :: digits, rest)

/-- A code point after `x`, `u` or `U`: two, four or eight digits, or any number in braces. Two
digits without braces are one byte if Unicode is off. -/
def codePoint (flags : Flags) (kind : Char) (text : List Char) :
    Except PatternError (Primitive × List Char) := do
  match flags.skip text with
  | '\x7b' :: rest =>
    match flags.collect (· ≠ '\x7d') false rest with
    | (digits, '\x7d' :: rest) => return (.char (← charOfHex digits), flags.skip rest)
    | _ => throw .badEscape
  | text =>
    let length := if kind = 'x' then 2 else if kind = 'u' then 4 else 8
    let (digits, rest) ← fixedHex flags length text
    let c ← charOfHex digits
    if !flags.unicode && kind = 'x' && 0x80 ≤ c.toNat then throw .notUtf8
    return (.char c, rest)

/-- The text before and after the first place where `token` stands. -/
def splitAt? (token : List Char) : List Char → Option (List Char × List Char)
  | [] => none
  | c :: rest =>
    if token.isPrefixOf (c :: rest) then some ([], (c :: rest).drop token.length)
    else (splitAt? token rest).map fun (before, after) => (c :: before, after)

/-- The set that the name in braces stands for. Which sign stands between a property and its value
makes no difference; only the letter before the braces negates. -/
def property? (name : List Char) : Option CharSet :=
  match (splitAt? ['!', '='] name).or ((splitAt? [':'] name).or (splitAt? ['='] name)) with
  | some (property, value) => Unicode.findValue? property value
  | none => Unicode.find? name

/-- A property after `p` or `P`: one letter, or a name in braces. -/
def propertySet (flags : Flags) (negated : Bool) (text : List Char) :
    Except PatternError (Primitive × List Char) := do
  let (found?, rest) ← match flags.skip text with
    | '\x7b' :: rest =>
      match flags.collect (· ≠ '\x7d') false rest with
      | (name, '\x7d' :: rest) => .ok (property? name, rest)
      | _ => .error .badEscape
    | '\\' :: _ | [] => .error .badEscape
    | c :: rest => .ok (Unicode.find? [c], rest)
  if !flags.unicode then throw .notUtf8
  match found? with
  | some set => return (.set (← flags.negateIf negated (flags.fold set)), rest)
  | none => throw .unknownProperty

def digitChars (unicode : Bool) : CharSet :=
  if unicode then Unicode.decimalNumber else ⟨[(0x30, 0x39)]⟩

def spaceChars (unicode : Bool) : CharSet :=
  if unicode then Unicode.whiteSpace else ⟨[(0x09, 0x0d), (0x20, 0x20)]⟩

/-- The sets of digits, spaces and characters of words, and with capital letters their
complements. -/
def shorthand? (unicode : Bool) : Char → Option (CharSet × Bool)
  | 'd' => some (digitChars unicode, false)
  | 'D' => some (digitChars unicode, true)
  | 's' => some (spaceChars unicode, false)
  | 'S' => some (spaceChars unicode, true)
  | 'w' => some (if unicode then wordChars else asciiWordChars, false)
  | 'W' => some (if unicode then wordChars else asciiWordChars, true)
  | _ => none

def control? : Char → Option Char
  | 'a' => some '\x07'
  | 'f' => some '\x0c'
  | 't' => some '\t'
  | 'n' => some '\n'
  | 'r' => some '\r'
  | 'v' => some '\x0b'
  | _ => none

def edgeOfName? : String → Option WordEdge
  | "start" => some .start
  | "end" => some .stop
  | "start-half" => some .startHalf
  | "end-half" => some .stopHalf
  | _ => none

/-- After a word boundary, a name in braces tells which one it is. Braces that cannot hold a name
are left for a repetition. -/
def boundary (flags : Flags) (text : List Char) : Except PatternError (WordEdge × List Char) :=
  match text with
  | '\x7b' :: rest =>
    let isNameChar (c : Char) : Bool := c.isAlpha || c = '-'
    match flags.skip rest with
    | [] => .error .badEscape
    | c :: _ =>
      if !isNameChar c then .ok (.boundary, text)
      else match flags.collect isNameChar false rest with
        | (name, '\x7d' :: rest) =>
          match edgeOfName? (String.ofList name) with
          | some edge => .ok (edge, rest)
          | none => .error .badEscape
        | _ => .error .badEscape
  | _ => .ok (.boundary, text)

/-- What follows a backslash. -/
def read (flags : Flags) (text : List Char) : Except PatternError (Primitive × List Char) := do
  let word (edge : WordEdge) : Primitive := .look (.word edge (!flags.unicode))
  match text with
  | [] => throw .badEscape
  | c :: rest =>
    if c = 'x' || c = 'u' || c = 'U' then codePoint flags c rest
    else if c = 'p' || c = 'P' then propertySet flags (c = 'P') rest
    else if hasMeaning c || canBeEscaped c then return (.char c, rest)
    else if let some (set, negated) := shorthand? flags.unicode c then
      return (.set (← flags.negateIf negated set), rest)
    else if let some c := control? c then return (.char c, rest)
    else match c with
      | 'A' => return (.look .textStart, rest)
      | 'z' => return (.look .textEnd, rest)
      | 'b' => do
        let (edge, rest) ← boundary flags rest
        return (word edge, rest)
      | 'B' => return (word .noBoundary, rest)
      | '<' => return (word .start, rest)
      | '>' => return (word .stop, rest)
      | _ => throw .badEscape

end Escape

end ValueRules.Pattern
