import ValueRules.Unicode.CharSet

/-!
Sets of characters in UTF-8: the ranges of bytes that stand one after another. How many of them can
share a start or an end decides how many states read a set.
-/

namespace ValueRules.Pattern

/-- A run of byte ranges, each at the place of one byte of a character. -/
abbrev ByteRanges := List (Nat × Nat)

namespace ByteRanges

/-- Runs for the numbers from `lo` to `hi` written in base 64 with `places` places after the first
one. The numbers are cut where all later places can take every value. -/
def cover : (places lo hi : Nat) → List ByteRanges
  | 0, lo, hi => [[(lo, hi)]]
  | places + 1, lo, hi =>
    let unit := Nat.pow 64 (places + 1)
    let (a, b) := (lo / unit, hi / unit)
    if a = b then (cover places (lo % unit) (hi % unit)).map ((a, a) :: ·)
    else
      let cutLow := lo % unit ≠ 0
      let cutHigh := hi % unit ≠ unit - 1
      let first := if cutLow then a + 1 else a
      let last := if cutHigh then b - 1 else b
      (if cutLow then (cover places (lo % unit) (unit - 1)).map ((a, a) :: ·) else []) ++
        (if first ≤ last then [(first, last) :: List.replicate (places + 1) (0, 63)] else []) ++
        if cutHigh then (cover places 0 (hi % unit)).map ((b, b) :: ·) else []

/-- The least and greatest code points of each length in bytes, and the mark on the first byte. -/
def lengths : List (Nat × Nat × Nat) :=
  [(0, 0x7f, 0), (0x80, 0x7ff, 0xc0), (0x800, 0xffff, 0xe0), (0x10000, 0x10ffff, 0xf0)]

/-- The runs of bytes that encode the characters of a set, in ascending order. -/
def ofSet (set : CharSet) : List ByteRanges :=
  lengths.zipIdx.flatMap fun ((least, greatest, mark), places) =>
    set.scalarRanges.flatMap fun (lo, hi) =>
      if max lo least ≤ min hi greatest then
        (cover places (max lo least) (min hi greatest)).map fun run =>
          run.modifyHead fun (a, b) => (mark + a, mark + b)
      else []

/-- Runs that share their first range, by that range. -/
def byHead : List ByteRanges → List ((Nat × Nat) × List ByteRanges)
  | [] => []
  | [] :: rest => byHead rest
  | (range :: tail) :: rest =>
    match byHead rest with
    | (other, tails) :: groups =>
      if range = other then (range, tail :: tails) :: groups
      else (range, [tail]) :: (other, tails) :: groups
    | [] => [(range, [tail])]

/-- The runs, and what is left of them after one range, two ranges and so on. -/
def remainders : (depth : Nat) → List ByteRanges → List (List ByteRanges)
  | 0, _ => []
  | depth + 1, runs =>
    if runs = [[]] then []
    else runs :: (byHead runs).flatMap fun (_, tails) => remainders depth tails

/-- How many ranges two runs share at their start. -/
def shared : ByteRanges → ByteRanges → Nat
  | a :: as, b :: bs => if a = b then shared as bs + 1 else 0
  | _, _ => 0

/-- How many different starts the runs have; runs that share one stand together. -/
def starts : List ByteRanges → Nat
  | a :: b :: rest => b.length - shared a b + starts (b :: rest)
  | _ => 0

end ByteRanges

end ValueRules.Pattern
