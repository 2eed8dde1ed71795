import ValueRules.Pattern.Look

/-!
Pattern expressions and the search for them in a text. What can be left of an expression after one
character is a list of expressions; a search keeps those of all places where the expression could
have begun.
-/

namespace ValueRules.Pattern

inductive Expr where
  | empty
  | chars (set : CharSet)
  | look (look : Look)
  | seq (first second : Expr)
  | alt (first second : Expr)
  | rep (least : Nat) (most : Option Nat) (body : Expr)
with
  /-- Tells most expressions apart without a look inside. -/
  @[computed_field] fingerprint : Expr → UInt64
    | .empty => 7
    | .chars set => mixHash 11 (hash set.ranges)
    | .look l => mixHash 13 (hash l)
    | .seq a b => mixHash 17 (mixHash a.fingerprint b.fingerprint)
    | .alt a b => mixHash 19 (mixHash a.fingerprint b.fingerprint)
    | .rep least most body => mixHash (hash (least, most)) body.fingerprint
deriving DecidableEq, Repr

namespace Expr

instance : Inhabited Expr := ⟨empty⟩

/-- One expression after another. -/
def cat (first second : Expr) : Expr :=
  match first with
  | empty => second
  | first => seq first second

def seqs (items : List Expr) : Expr :=
  items.foldr cat empty

/-- The first of these expressions that is there, or any after it. -/
def alts : List Expr → Expr
  | [] => chars .empty
  | [item] => item
  | item :: rest => alt item (alts rest)

def optional (body : Expr) : Expr := rep 0 (some 1) body

def oneOrMore (body : Expr) : Expr := rep 1 none body

/-- The expression can end where it began. -/
def nullable (place : Place) : Expr → Bool
  | empty => true
  | chars _ => false
  | look l => l.holds place
  | seq a b => nullable place a && nullable place b
  | alt a b => nullable place a || nullable place b
  | rep least _ body => least == 0 || nullable place body

/-- What can be left of the expression after the character `c`. Rounds of a repetition that read
nothing can be counted as soon as the body is nullable. -/
def derivatives (place : Place) (c : Char) : Expr → List Expr
  | empty => []
  | chars set => if set.contains c then [empty] else []
  | look _ => []
  | seq a b =>
    (derivatives place c a).map (cat · b) ++
      if nullable place a then derivatives place c b else []
  | alt a b => derivatives place c a ++ derivatives place c b
  | rep least most body =>
    if most = some 0 then []
    else
      let rest := rep (if nullable place body then 0 else least - 1) (most.map (· - 1)) body
      (derivatives place c body).map (cat · rest)

/-- Equality that asks first whether both are one and the same in memory. -/
def same (a b : Expr) : Bool :=
  withPtrEq a b (fun _ => decide (a = b)) fun h => decide_eq_true h

/-- Drops every expression that is equal to the one before it. -/
def squeeze : List Expr → List Expr
  | a :: b :: rest =>
    if a.fingerprint == b.fingerprint && same a b then squeeze (b :: rest)
    else a :: squeeze (b :: rest)
  | short => short

/-- The same expressions, with fewer repetitions. -/
def tidy (exprs : List Expr) : List Expr :=
  squeeze (exprs.mergeSort fun a b => a.fingerprint ≤ b.fingerprint)

/-- Whether one of `states` is found at this place, or `expr` at this place or a later one. -/
def search (expr : Expr) (before : Option Char) (states : List Expr) : List Char → Bool
  | [] => (expr :: states).any (nullable ⟨before, none⟩)
  | c :: text =>
    let place : Place := ⟨before, some c⟩
    (expr :: states).any (nullable place) ||
      search expr (some c) (tidy ((expr :: states).flatMap (derivatives place c))) text

/-- The expression is found somewhere in the text. -/
def isFoundIn (expr : Expr) (text : String) : Bool :=
  expr.search none [] text.toList

end Expr

end ValueRules.Pattern
