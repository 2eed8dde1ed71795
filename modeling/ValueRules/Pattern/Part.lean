import ValueRules.Pattern.Tree

/-!
Parts of a pattern while it is read: what they say, and how deep they are. The depth is that of the
written text, so constructs that the tree leaves out count for it.
-/

namespace ValueRules.Pattern

structure Part where
  tree : Tree
  /-- How many constructs stand inside one another. -/
  depth : Nat := 0
deriving Repr, Inhabited

namespace Part

def empty : Part := { tree := .empty }

def ofLook (look : Look) : Part := { tree := .look look }

def ofChar (c : Char) : Part := { tree := .text [c] }

/-- A set of characters. Where it stands in brackets they count for the depth. -/
def ofSet (set : CharSet) (depth : Nat) : Part :=
  { tree := .ofSet set, depth }

def depthOf (parts : List Part) : Nat :=
  parts.foldl (fun depth part => max depth part.depth) 0

/-- Parts one after another; a single one stays as it is. -/
def sequence : List Part → Part
  | [] => empty
  | [part] => part
  | parts => { tree := .sequence (parts.map (·.tree)), depth := depthOf parts + 1 }

/-- A choice between parts; a single one stays as it is. -/
def choice : List Part → Part
  | [] => empty
  | [part] => part
  | parts => { tree := .choice (parts.map (·.tree)), depth := depthOf parts + 1 }

def repeated (least : Nat) (most : Option Nat) (greedy : Bool) (part : Part) : Part :=
  { tree := .repetition least most greedy part.tree, depth := part.depth + 1 }

/-- A group; those that are numbered remember what was found. -/
def group (index : Option Nat) (part : Part) : Part :=
  let tree := match index with
    | some index => .group index part.tree
    | none => part.tree
  { tree, depth := part.depth + 1 }

end Part

end ValueRules.Pattern
