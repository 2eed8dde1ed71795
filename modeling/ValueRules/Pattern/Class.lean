import ValueRules.Pattern.Escape

/-!
Character classes in brackets: members, ranges, named classes, classes inside classes, and the
operations on sets between them.
-/

namespace ValueRules.Pattern.Class

/-- The named classes of ASCII characters. -/
def named? : String → Option CharSet
  | "alnum" => some ⟨[(0x30, 0x39), (0x41, 0x5a), (0x61, 0x7a)]⟩
  | "alpha" => some ⟨[(0x41, 0x5a), (0x61, 0x7a)]⟩
  | "ascii" => some ⟨[(0x00, 0x7f)]⟩
  | "blank" => some ⟨[(0x09, 0x09), (0x20, 0x20)]⟩
  | "cntrl" => some ⟨[(0x00, 0x1f), (0x7f, 0x7f)]⟩
  | "digit" => some ⟨[(0x30, 0x39)]⟩
  | "graph" => some ⟨[(0x21, 0x7e)]⟩
  | "lower" => some ⟨[(0x61, 0x7a)]⟩
  | "print" => some ⟨[(0x20, 0x7e)]⟩
  | "punct" => some ⟨[(0x21, 0x2f), (0x3a, 0x40), (0x5b, 0x60), (0x7b, 0x7e)]⟩
  | "space" => some ⟨[(0x09, 0x0d), (0x20, 0x20)]⟩
  | "upper" => some ⟨[(0x41, 0x5a)]⟩
  | "word" => some asciiWordChars
  | "xdigit" => some ⟨[(0x30, 0x39), (0x41, 0x46), (0x61, 0x66)]⟩
  | _ => none

/-- A named class after its opening bracket, `:name:]` or `:^name:]`. -/
def namedClass? (text : List Char) : Option ((Bool × CharSet) × List Char) :=
  match text with
  | ':' :: rest =>
    let (negated, rest) := match rest with
      | '^' :: rest => (true, rest)
      | rest => (false, rest)
    match rest.dropWhile (· ≠ ':') with
    | ':' :: ']' :: after =>
      (named? (String.ofList (rest.takeWhile (· ≠ ':')))).map fun set => ((negated, set), after)
    | _ => none
  | _ => none

/-- A set, and how many constructs stand inside one another in what wrote it. -/
structure Operand where
  set : CharSet := .empty
  depth : Nat := 0
deriving Repr, Inhabited

/-- The members that stand side by side. -/
structure Members where
  set : CharSet := .empty
  count : Nat := 0
  depth : Nat := 0
deriving Repr, Inhabited

namespace Members

def push (members : Members) (set : CharSet) (depth : Nat) : Members :=
  ⟨members.set.union set, members.count + 1, max members.depth depth⟩

/-- Several members side by side are a construct of their own. -/
def operand (members : Members) : Operand :=
  ⟨members.set, if 2 ≤ members.count then members.depth + 1 else members.depth⟩

end Members

inductive Operation where
  | inter
  | diff
  | symmDiff
deriving Repr

/-- A class whose left operand was read, with the operation that follows it. -/
structure Pending where
  left : Operand
  operation : Operation
deriving Repr

/-- Operations are taken from the left. Case is folded before them. -/
def combine (flags : Flags) (pending : Option Pending) (right : Operand) : Operand :=
  match pending with
  | none => right
  | some ⟨left, operation⟩ =>
    let a := flags.fold left.set
    let b := flags.fold right.set
    let set := match operation with
      | .inter => a.inter b
      | .diff => a.diff b
      | .symmDiff => a.symmDiff b
    ⟨set, max left.depth right.depth + 1⟩

/-- The opening of a class after its bracket: a sign of negation, then hyphens, or one closing
bracket that is a member. -/
def opening (flags : Flags) (text : List Char) : (Bool × Members) × List Char :=
  let (negated, text) := match flags.skip text with
    | '^' :: rest => (true, flags.skip rest)
    | text => (false, text)
  let (hyphens, rest) := flags.collect (· = '-') false text
  let members := hyphens.foldl (fun (members : Members) c => members.push (.singleton c) 0) {}
  match hyphens, rest with
  | [], ']' :: rest => ((negated, members.push (.singleton ']') 0), flags.skip rest)
  | _, rest => ((negated, members), rest)

/-- A character that stands for itself in a class must be one byte if Unicode is off. -/
def checkChar (flags : Flags) (c : Char) : Except PatternError Char :=
  if flags.unicode || c.toNat ≤ 0x7f then .ok c else .error .notUtf8

def member (flags : Flags) : List Char → Except PatternError (Primitive × List Char)
  | [] => .error .unclosedClass
  | '\\' :: rest => Escape.read flags rest
  | c :: rest => .ok (.char c, rest)

/-- The character after a hyphen that tells whether the hyphen makes a range. Where space does not
count, white space is passed over, and one sign that begins a comment, but not what the comment
says. -/
def afterHyphen (flags : Flags) (text : List Char) : Option Char :=
  if !flags.spaced then text.head?
  else match text.dropWhile Text.isBlank with
    | '#' :: rest => (rest.dropWhile Text.isBlank).head?
    | rest => rest.head?

/-- One member or a range. A hyphen makes a range unless a closing bracket or another hyphen follows
it. -/
def range (flags : Flags) (text : List Char) : Except PatternError (CharSet × List Char) := do
  let (first, rest) ← member flags text
  let rest := flags.skip rest
  match rest with
  | [] => throw .unclosedClass
  | '-' :: more =>
    let next := afterHyphen flags more
    if next = some ']' || next = some '-' then return (← single first, rest)
    let (last, rest) ← member flags (flags.skip more)
    match first, last with
    | .char a, .char b =>
      let (a, b) := (← checkChar flags a, ← checkChar flags b)
      if a ≤ b then return (.ofRange a b, rest) else throw .badRange
    | _, _ => throw .badRange
  | rest => return (← single first, rest)
where
  single : Primitive → Except PatternError CharSet
    | .char c => return .singleton (← checkChar flags c)
    | .set set => .ok set
    | .look _ => .error .noSetMember

/-- The members of a class up to its closing bracket. Every step reads at least one character. -/
def members (flags : Flags) (negated : Bool) :
    (fuel : Nat) → Option Pending → Members → List Char →
      Except PatternError (Operand × List Char)
  | 0, _, _, _ => .error .unclosedClass
  | fuel + 1, pending, found, text => do
    let operate (operation : Operation) (rest : List Char) :
        Except PatternError (Operand × List Char) :=
      members flags negated fuel (some ⟨combine flags pending found.operand, operation⟩) {} rest
    match flags.skip text with
    | [] => throw .unclosedClass
    | ']' :: rest =>
      let whole := combine flags pending found.operand
      return (⟨← flags.negateIf negated (flags.fold whole.set), whole.depth + 1⟩, rest)
    | '[' :: rest =>
      match namedClass? rest with
      | some ((inverted, set), rest) =>
        let set ← flags.negateIf inverted (flags.fold set)
        members flags negated fuel pending (found.push set 0) rest
      | none =>
        let ((inverted, first), rest) := opening flags rest
        let (inner, rest) ← members flags inverted fuel none first rest
        members flags negated fuel pending (found.push inner.set inner.depth) rest
    | '&' :: '&' :: rest => operate .inter rest
    | '-' :: '-' :: rest => operate .diff rest
    | '~' :: '~' :: rest => operate .symmDiff rest
    | text =>
      let (set, rest) ← range flags text
      members flags negated fuel pending (found.push set 0) rest

/-- A class after its opening bracket. -/
def read (flags : Flags) (text : List Char) : Except PatternError (Operand × List Char) :=
  let ((negated, first), rest) := opening flags text
  members flags negated (text.length + 1) none first rest

end ValueRules.Pattern.Class
