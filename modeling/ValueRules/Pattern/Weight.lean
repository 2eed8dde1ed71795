import ValueRules.Pattern.ByteRanges
import ValueRules.Pattern.Tree
import Std.Data.HashSet

/-!
What a pattern costs: the memory of the automata that read it forwards and backwards over UTF-8
bytes. Patterns that cost too much are refused, so this decides which repetitions are too long.
-/

namespace ValueRules.Pattern

/-- The bytes that the automata of both directions take. -/
structure Weight where
  forward : Nat := 0
  backward : Nat := 0
deriving DecidableEq, Repr, Inhabited

namespace Weight

def add (a b : Weight) : Weight :=
  ⟨a.forward + b.forward, a.backward + b.backward⟩

instance : Add Weight := ⟨add⟩

def times (n : Nat) (w : Weight) : Weight :=
  ⟨n * w.forward, n * w.backward⟩

/-- The same in both directions. -/
def both (bytes : Nat) : Weight := ⟨bytes, bytes⟩

/-- One state, with nothing listed in it. -/
def state : Nat := 32

/-- A state that reads one of several ranges of bytes lists them. -/
def reading (ranges : Nat) : Nat := state + 8 * ranges

/-- A state with several ways on, which read nothing, lists them. -/
def forking (ways : Nat) : Nat := state + 4 * ways

/-- A set of characters. Forwards, states from which the same bytes follow are shared; backwards,
those that the same bytes lead to. -/
def ofSet (set : CharSet) : Weight :=
  if set.ranges.all fun (_, hi) => hi ≤ 0x7f then both (reading set.ranges.length + state)
  else
    let runs := ByteRanges.ofSet set
    let nodes := (Std.HashSet.ofList (ByteRanges.remainders 4 runs)).toList
    let forward := nodes.foldl
      (fun bytes node => bytes + reading (ByteRanges.byHead node).length) 0
    let distinct := (runs.head?.map List.length).getD 0 + ByteRanges.starts runs
    ⟨forward + state, (distinct + 1) * state + forking runs.length⟩

/-- The words that begin with a byte, without it. -/
def after (byte : UInt8) (words : List (List UInt8)) : List (List UInt8) :=
  words.filterMap fun
    | first :: rest => if first = byte then some rest else none
    | [] => none

/-- The states that read one of several words, of which earlier ones count more. Words share what
they begin with, but not across a word that ends there; words that end before all others count
once. -/
def trie : (depth : Nat) → List (List UInt8) → Nat
  | 0, _ => 0
  | depth + 1, words =>
    let begun := words.dropWhile (· = [])
    if begun = [] then 0
    else
      let chunks := begun.splitOnP (· = [])
      let filled := chunks.filter (· ≠ [])
      let ends := chunks.length - if words.head? = some [] then 0 else 1
      filled.foldl (fun bytes chunk =>
        let firsts := (chunk.filterMap List.head?).eraseDups
        let own := if firsts.length = 1 then state else reading firsts.length
        firsts.foldl (fun bytes byte => bytes + trie depth (after byte chunk)) (bytes + own))
        (forking (filled.length + ends))

/-- A choice between words. -/
def ofWords (words : List (List UInt8)) : Nat :=
  state + trie (words.foldl (fun depth word => max depth word.length) 0 + 1) words

/-- A repetition writes its body as often as it must be read, and once more for every further time
or for all of them. -/
def repetition (least : Nat) (most : Option Nat) (nullable : Bool) (body : Weight) : Weight :=
  match most with
  | some most =>
    if least = most then body.times most
    else
      let start := if least = 0 ∧ most ≠ 1 then state else 0
      body.times most + both ((most - least) * forking 2 + start + state)
  | none =>
    if least = 0 ∧ nullable then body + both (2 * forking 2 + state)
    else body.times (max least 1) + both (forking 2)

def encode (chars : List Char) : List UInt8 :=
  chars.flatMap String.utf8EncodeChar

/-- Where groups begin and end is marked in the forward automaton only. -/
def ofTree : Tree → Weight
  | .empty | .look _ => both state
  | .text chars => both ((encode chars).length * state)
  | .texts choices =>
    let words := choices.map encode
    ⟨ofWords words, ofWords (words.map List.reverse)⟩
  | .set set => ofSet set
  | .rep least most _ body => repetition least most (body.shortest?.getD 0 = 0) (ofTree body)
  | .group _ body => ofTree body + ⟨2 * state, 0⟩
  | .seq first rest => ofTree first + ofTree rest
  | .alt first rest =>
    ofTree first + ofTree rest + both (if rest.isChoice then 4 else forking 2 + state)

/-- The whole of both automata. They begin with a loop over any bytes, unless the pattern says that
it stands at the end of the text where they begin. -/
def ofPattern (tree : Tree) : Weight :=
  let approach (isFixed : Bool) : Nat :=
    if isFixed then state else forking 2 + reading 1 + state
  ofTree tree + ⟨approach (tree.opensWith .textStart) + 3 * state,
    approach (tree.closesWith .textEnd) + state⟩

/-- Ten binary megabytes. -/
def limit : Nat := 10 * 1024 * 1024

def fits (w : Weight) : Bool :=
  w.forward ≤ limit && w.backward ≤ limit

end Weight

end ValueRules.Pattern
