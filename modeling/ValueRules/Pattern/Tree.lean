import ValueRules.Pattern.Expr

/-!
What a pattern says, as a tree in its simplest form: sequences and choices are flat, characters side
by side are one text, and what all alternatives begin with stands once before them. The size of a
pattern is that of this form.
-/

namespace ValueRules.Pattern

/-- Texts hold a character, the items of a sequence are no sequences, the alternatives of a choice
are no choices, and both have two at least. A choice between texts only is told apart. -/
inductive Tree where
  | empty
  | text (chars : List Char)
  | texts (choices : List (List Char))
  | set (set : CharSet)
  | look (look : Look)
  | rep (least : Nat) (most : Option Nat) (greedy : Bool) (body : Tree)
  | group (index : Nat) (body : Tree)
  | seq (first rest : Tree)
  | alt (first rest : Tree)
deriving DecidableEq, Repr, Inhabited

namespace Tree

/-- The tree never reads a character. -/
def isIdle : Tree → Bool
  | empty | look _ => true
  | text _ | texts _ | set _ => false
  | rep _ _ _ body | group _ body => body.isIdle
  | seq first rest | alt first rest => first.isIdle && rest.isIdle

/-- How many characters are read at least, unless a part of the tree is found nowhere. -/
def shortest? : Tree → Option Nat
  | empty | look _ => some 0
  | text chars => some chars.length
  | texts choices => (choices.map List.length).min?
  | set members => if members.ranges = [] then none else some 1
  | rep least _ _ body => body.shortest?.map (least * ·)
  | group _ body => body.shortest?
  | seq first rest => first.shortest?.bind fun a => rest.shortest?.map (a + ·)
  | alt first rest => first.shortest?.bind fun a => rest.shortest?.map (min a ·)

/-- The assertion is made before a character is read, whatever is found. -/
def opensWith (edge : Look) : Tree → Bool
  | empty | text _ | texts _ | set _ => false
  | look l => l = edge
  | rep least _ _ body => least ≠ 0 && body.opensWith edge
  | group _ body => body.opensWith edge
  | seq first rest => first.opensWith edge || (first.isIdle && rest.opensWith edge)
  | alt first rest => first.opensWith edge && rest.opensWith edge

/-- The assertion is made after all characters are read, whatever is found. -/
def closesWith (edge : Look) : Tree → Bool
  | empty | text _ | texts _ | set _ => false
  | look l => l = edge
  | rep least _ _ body => least ≠ 0 && body.closesWith edge
  | group _ body => body.closesWith edge
  | seq first rest => rest.closesWith edge || (rest.isIdle && first.closesWith edge)
  | alt first rest => first.closesWith edge && rest.closesWith edge

/-- A set with a single member is a text. -/
def ofSet (set : CharSet) : Tree :=
  match set.scalarRanges with
  | [(lo, hi)] => if lo = hi then text [.ofNat lo] else .set ⟨[(lo, hi)]⟩
  | ranges => .set ⟨ranges⟩

/-- The items of a sequence. -/
def items : Tree → List Tree
  | empty => []
  | seq first rest => first :: rest.items
  | tree => [tree]

def ofItems : List Tree → Tree
  | [] => empty
  | [item] => item
  | item :: rest => seq item (ofItems rest)

/-- Puts an item before others; texts that meet are one. -/
def cons : Tree → List Tree → List Tree
  | text chars, text more :: rest => text (chars ++ more) :: rest
  | item, items => item :: items

def sequence (trees : List Tree) : Tree :=
  ofItems ((trees.flatMap items).foldr cons [])

/-- The alternatives of a choice. -/
def alternatives : Tree → List Tree
  | texts choices => choices.map text
  | alt first rest => first :: rest.alternatives
  | tree => [tree]

def ofAlternatives : List Tree → Tree
  | [] => set .empty
  | [tree] => tree
  | tree :: rest => alt tree (ofAlternatives rest)

def char? : Tree → Option Char
  | text [c] => some c
  | _ => none

def text? : Tree → Option (List Char)
  | text chars => some chars
  | _ => none

def set? : Tree → Option CharSet
  | set members => some members
  | _ => none

/-- The set that a choice between characters only, or between sets only, stands for. -/
def united? (trees : List Tree) : Option CharSet :=
  ((trees.mapM char?).map fun chars => .unions (chars.map .singleton)).or
    ((trees.mapM set?).map .unions)

/-- A choice in which nothing is taken out before the alternatives. -/
def choose (trees : List Tree) : Tree :=
  match trees.flatMap alternatives with
  | [tree] => tree
  | trees =>
    match united? trees, trees.mapM text? with
    | some united, _ => ofSet united
    | none, some choices => texts choices
    | none, none => ofAlternatives trees

def common : List Tree → List Tree → List Tree
  | a :: as, b :: bs => if a = b then a :: common as bs else []
  | _, _ => []

def isSequence : Tree → Bool
  | seq _ _ => true
  | _ => false

def isChoice : Tree → Bool
  | alt _ _ => true
  | _ => false

/-- The items that several sequences all begin with. -/
def shared : List Tree → List Tree
  | first :: second :: rest =>
    if (first :: second :: rest).all isSequence then
      (second :: rest).foldl (fun start tree => common start tree.items) first.items
    else []
  | _ => []

def choice (trees : List Tree) : Tree :=
  let trees := trees.flatMap alternatives
  let start := shared trees
  if start = [] then choose trees
  else
    let ends := trees.map fun tree => sequence (tree.items.drop start.length)
    sequence (start ++ [choose ends])

/-- More than one time makes no difference where nothing is read. -/
def repetition (least : Nat) (most : Option Nat) (greedy : Bool) (body : Tree) : Tree :=
  let (least, most) :=
    if body.isIdle then (min least 1, some (min (most.getD 1) 1)) else (least, most)
  if most = some 0 then empty
  else if least = 1 ∧ most = some 1 then body
  else rep least most greedy body

def exprOfText (chars : List Char) : Expr :=
  .seqs (chars.map fun c => .chars (.singleton c))

/-- Whether repetitions prefer to be long, and which group is which, makes no difference to where a
pattern is found. -/
def expr : Tree → Expr
  | empty => .empty
  | text chars => exprOfText chars
  | texts choices => .alts (choices.map exprOfText)
  | set members => .chars members
  | look l => .look l
  | rep least most _ body => .rep least most body.expr
  | group _ body => body.expr
  | seq first rest => first.expr.cat rest.expr
  | alt first rest => .alt first.expr rest.expr

end Tree

end ValueRules.Pattern
