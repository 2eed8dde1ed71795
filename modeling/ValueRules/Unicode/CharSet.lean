/-!
Sets of characters as ascending ranges of code points. `ofText` reads them from tables in which a
range is two hexadecimal numbers, with a third one for the distance between its members.
-/

namespace ValueRules

/-- A set of characters. Ranges include both ends, ascend and leave a gap between each two. -/
structure CharSet where
  ranges : List (Nat × Nat)
deriving DecidableEq, Repr, Inhabited

namespace CharSet

def empty : CharSet := ⟨[]⟩

/-- Looks no further than the first range that begins after `n`. -/
def holds (n : Nat) : List (Nat × Nat) → Bool
  | [] => false
  | (lo, hi) :: rest => if n < lo then false else n ≤ hi || holds n rest

def containsCode (set : CharSet) (n : Nat) : Bool :=
  holds n set.ranges

def contains (set : CharSet) (c : Char) : Bool :=
  set.containsCode c.toNat

/-- Joins ranges, given by ascending start, that overlap or touch. -/
def merge (lo hi : Nat) : List (Nat × Nat) → List (Nat × Nat)
  | [] => [(lo, hi)]
  | (lo', hi') :: rest =>
    if lo' ≤ hi + 1 then merge lo (max hi hi') rest else (lo, hi) :: merge lo' hi' rest

/-- The union of the ranges, in any order; those that end before they start are dropped. -/
def ofRanges (ranges : List (Nat × Nat)) : CharSet :=
  match (ranges.filter fun (lo, hi) => lo ≤ hi).mergeSort fun a b => a.1 ≤ b.1 with
  | [] => empty
  | (lo, hi) :: rest => ⟨merge lo hi rest⟩

def ofRange (lo hi : Char) : CharSet :=
  ofRanges [(lo.toNat, hi.toNat)]

def singleton (c : Char) : CharSet :=
  ofRange c c

def union (a b : CharSet) : CharSet :=
  ofRanges (a.ranges ++ b.ranges)

def unions (sets : List CharSet) : CharSet :=
  ofRanges (sets.flatMap (·.ranges))

/-- The gaps between ascending ranges, from `next` to the greatest code point. -/
def gaps (next : Nat) : List (Nat × Nat) → List (Nat × Nat)
  | [] => [(next, 0x10ffff)]
  | (lo, hi) :: rest => (if next < lo then [(next, lo - 1)] else []) ++ gaps (hi + 1) rest

/-- All code points are counted as members of the complement or of the set; those of surrogates,
which no character has, make no difference. -/
def complement (set : CharSet) : CharSet :=
  ⟨(gaps 0 set.ranges).filter fun (lo, hi) => lo ≤ hi⟩

def inter (a b : CharSet) : CharSet :=
  (a.complement.union b.complement).complement

def diff (a b : CharSet) : CharSet :=
  (a.complement.union b).complement

def symmDiff (a b : CharSet) : CharSet :=
  (a.diff b).union (b.diff a)

/-- The ranges without the code points of surrogates. -/
def scalarRanges (set : CharSet) : List (Nat × Nat) :=
  (set.diff ⟨[(0xd800, 0xdfff)]⟩).ranges

def hexValue? (c : Char) : Option Nat :=
  if c.isDigit then some (c.toNat - '0'.toNat)
  else if 'A' ≤ c ∧ c ≤ 'F' then some (c.toNat - 'A'.toNat + 10)
  else none

/-- Hexadecimal digits with capital letters. -/
def hex (digits : List Char) : Nat :=
  digits.foldl (fun n c => 16 * n + (hexValue? c).getD 0) 0

/-- The words of a table, which stand between blanks and line ends. -/
def words (text : String) : List (List Char) :=
  (text.toList.splitOnP fun c => c = ' ' || c = '\n').filter (· ≠ [])

/-- One entry of a table: `X`, `X-Y`, or `X-Y/S` for every `S`-th code point from `X` to `Y`. -/
def entry (word : List Char) : List (Nat × Nat) :=
  let (range, step) := (word.takeWhile (· ≠ '/'), (word.dropWhile (· ≠ '/')).drop 1)
  let (lo, hi) := (range.takeWhile (· ≠ '-'), (range.dropWhile (· ≠ '-')).drop 1)
  let first := hex lo
  let last := if hi = [] then first else hex hi
  if step = [] then [(first, last)]
  else (List.range ((last - first) / hex step + 1)).map fun i =>
    let n := first + i * hex step
    (n, n)

/-- The set that a table lists. -/
def ofText (text : String) : CharSet :=
  ofRanges ((words text).flatMap entry)

end CharSet

end ValueRules
