import ValueRules.Pattern.Class
import ValueRules.Pattern.Part
import ValueRules.Unicode.Current

/-!
Reading patterns. Groups that are open are kept on a stack, each with the alternatives and the items
found in it so far.
-/

namespace ValueRules.Pattern

/-- An item of a sequence. Flags that are set for the rest of a group cannot be repeated. -/
structure Item where
  part : Part
  repeatable : Bool := true
deriving Repr, Inhabited

/-- What was found in one group, the latest first. -/
structure Level where
  choices : List Part := []
  items : List Item := []
deriving Repr, Inhabited

namespace Level

def push (level : Level) (part : Part) : Level :=
  { level with items := { part } :: level.items }

def sequence (level : Level) : Part :=
  .sequence (level.items.reverse.map (·.part))

/-- The items so far are one alternative. -/
def choose (level : Level) : Level :=
  { choices := level.sequence :: level.choices }

def finish (level : Level) : Part :=
  .choice level.choose.choices.reverse

end Level

/-- A group that is open: what stands before it, and the flags that hold again after it. -/
structure OpenGroup where
  before : Level
  flags : Flags
  index : Option Nat
deriving Repr, Inhabited

structure Reader where
  flags : Flags := {}
  names : List (List Char) := []
  /-- How many groups are numbered so far. -/
  numbered : Nat := 0
  level : Level := {}
  groups : List OpenGroup := []
deriving Repr, Inhabited

namespace Reader

/-- A reader and the rest of the pattern. -/
abbrev Step := Except PatternError (Reader × List Char)

def push (reader : Reader) (part : Part) : Reader :=
  { reader with level := reader.level.push part }

/-- A character that stands for itself, or all that differ from it in case only. -/
def char (flags : Flags) (c : Char) : Part :=
  let set := flags.fold (.singleton c)
  if set = .singleton c then .ofChar c else .ofSet set 0

def primitive (flags : Flags) : Primitive → Part
  | .char c => char flags c
  | .set set => .ofSet set 0
  | .look look => .ofLook look

/-- Any character, but for the ends of lines unless they are asked for. -/
def dot (flags : Flags) : Except PatternError Part :=
  if !flags.unicode then .error .notUtf8
  else if flags.dotAll then .ok (.ofSet Unicode.any 0)
  else if flags.crlf then .ok (.ofSet (CharSet.complement ⟨[(10, 10), (13, 13)]⟩) 0)
  else .ok (.ofSet (CharSet.complement ⟨[(10, 10)]⟩) 0)

def start (flags : Flags) : Look :=
  if !flags.multiline then .textStart else if flags.crlf then .anyLineStart else .lineStart

def stop (flags : Flags) : Look :=
  if !flags.multiline then .textEnd else if flags.crlf then .anyLineEnd else .lineEnd

/-- Repeats the last item. A sign after the repetition tells that it prefers to be short, or, where
the flag swaps them, that it prefers to be long. -/
def repeatLast (reader : Reader) (least : Nat) (most : Option Nat) (text : List Char) : Step :=
  let (isMarked, rest) := match text with
    | '?' :: rest => (true, rest)
    | rest => (false, rest)
  match reader.level.items with
  | { part, repeatable := true } :: items =>
    let items := { part := part.repeated least most (isMarked == reader.flags.swapped) } :: items
    .ok ({ reader with level := { reader.level with items } }, rest)
  | _ => .error .nothingToRepeat

/-- The greatest count of a repetition, the greatest number of 32 bits. -/
def greatestCount : Nat := 0xffffffff

/-- A count, with white space around it; `none` if there are no digits. -/
def count (flags : Flags) (text : List Char) : Except PatternError (Option Nat × List Char) :=
  let (digits, rest) := flags.collect Char.isDigit false (text.dropWhile Text.isBlank)
  let rest := flags.skip (rest.dropWhile Text.isBlank)
  if digits = [] then .ok (none, rest)
  else
    let n := Nat.ofDigitChars 10 digits 0
    if n ≤ greatestCount then .ok (some n, rest) else .error .badCount

/-- A repetition in braces: a number of times, at least that many, or from one number to another. -/
def counted (reader : Reader) (text : List Char) : Step := do
  let flags := reader.flags
  let (least?, rest) ← count flags (flags.skip text)
  let (most, rest) ← match rest with
    | ',' :: rest =>
      match flags.skip rest with
      | '\x7d' :: rest => .ok (none, '\x7d' :: rest)
      | rest => do
        match ← count flags rest with
        | (some most, rest) => .ok (some most, rest)
        | (none, _) => .error .badCount
    | rest => .ok (least?, rest)
  match least?, rest with
  | some least, '\x7d' :: rest =>
    if most.all (least ≤ ·) then reader.repeatLast least most (flags.skip rest)
    else throw .badCount
  | _, _ => throw .badCount

def isNameChar (isFirst : Bool) (c : Char) : Bool :=
  c = '_' || Unicode.Current.alphabetic.contains c ||
    (!isFirst && (c = '.' || c = '[' || c = ']' || Unicode.Current.number.contains c))

/-- Opens a group whose items are read under `inside`. -/
def openGroup (reader : Reader) (index : Option Nat) (inside : Flags) : Reader :=
  { reader with
    flags := inside
    level := {}
    groups := ⟨reader.level, reader.flags, index⟩ :: reader.groups }

/-- Opens a group that gets the next number. -/
def openNumbered (reader : Reader) : Reader :=
  { reader with numbered := reader.numbered + 1 }.openGroup (some reader.numbered) reader.flags

/-- A group that has a name, after the opening angle bracket. -/
def namedGroup (reader : Reader) (text : List Char) : Step :=
  let name := text.takeWhile (· ≠ '>')
  let isSound := (name.take 1).all (isNameChar true) && (name.drop 1).all (isNameChar false)
  match text.dropWhile (· ≠ '>') with
  | '>' :: rest =>
    if name ≠ [] && isSound && !reader.names.contains name then
      .ok ({ reader with names := name :: reader.names }.openNumbered, rest)
    else .error .badGroupName
  | _ => .error .badGroupName

/-- Flags for the rest of the group, or for a group of their own. -/
def flagged (reader : Reader) (text : List Char) : Step := do
  let isEnd (c : Char) : Bool := c = ':' || c = ')'
  let letters := text.takeWhile (!isEnd ·)
  let flags ← reader.flags.apply letters
  match text.dropWhile (!isEnd ·) with
  | ':' :: rest => return (reader.openGroup none flags, rest)
  | ')' :: rest =>
    if letters = [] then throw .nothingToRepeat
    let items := { part := .empty, repeatable := false } :: reader.level.items
    return ({ reader with flags, level := { reader.level with items } }, rest)
  | _ => throw .badFlags

/-- What follows an opening parenthesis. Assertions about the text around a place do not exist. -/
def opened (reader : Reader) (text : List Char) : Step :=
  match reader.flags.skip text with
  | '?' :: '=' :: _ | '?' :: '!' :: _ | '?' :: '<' :: '=' :: _ | '?' :: '<' :: '!' :: _ =>
    .error .badGroup
  | '?' :: 'P' :: '<' :: rest | '?' :: '<' :: rest => reader.namedGroup rest
  | '?' :: rest => reader.flagged rest
  | rest => .ok (reader.openNumbered, rest)

def closed (reader : Reader) : Except PatternError Reader :=
  match reader.groups with
  | [] => .error .unopenedGroup
  | group :: groups =>
    let part := reader.level.finish.group group.index
    .ok { reader with flags := group.flags, level := group.before.push part, groups }

/-- Reads one item, or one sign between items. -/
def next (reader : Reader) (c : Char) (rest : List Char) : Step := do
  let flags := reader.flags
  match c with
  | '(' => reader.opened rest
  | ')' => return (← reader.closed, rest)
  | '|' => return ({ reader with level := reader.level.choose }, rest)
  | '[' =>
    let (operand, rest) ← Class.read flags rest
    return (reader.push (.ofSet operand.set operand.depth), rest)
  | '?' => reader.repeatLast 0 (some 1) rest
  | '*' => reader.repeatLast 0 none rest
  | '+' => reader.repeatLast 1 none rest
  | '\x7b' => reader.counted rest
  | '\\' =>
    let (found, rest) ← Escape.read flags rest
    return (reader.push (primitive flags found), rest)
  | '.' => return (reader.push (← dot flags), rest)
  | '^' => return (reader.push (.ofLook (start flags)), rest)
  | '$' => return (reader.push (.ofLook (stop flags)), rest)
  | c => return (reader.push (char flags c), rest)

/-- Reads to the end of the pattern. Every step reads at least one character. -/
def readAll : (fuel : Nat) → Reader → List Char → Except PatternError Part
  | 0, _, _ => .error .unclosedGroup
  | fuel + 1, reader, text =>
    match reader.flags.skip text with
    | [] => if reader.groups.isEmpty then .ok reader.level.finish else .error .unclosedGroup
    | c :: rest => do
      let (reader, rest) ← reader.next c rest
      readAll fuel reader rest

end Reader

/-- The part that a whole pattern describes. -/
def Part.ofText (text : String) : Except PatternError Part :=
  Reader.readAll (text.length + 1) {} text.toList

end ValueRules.Pattern
