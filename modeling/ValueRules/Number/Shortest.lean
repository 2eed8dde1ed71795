import ValueRules.Number.Rounding

/-!
The shortest decimal text of a double: the coarsest decimal grid with a point that rounds to the
double, and the nearest such point on it. Texts are positional, without an exponent.
-/

namespace ValueRules.Binary64

/-- The double's magnitude as a quotient of natural numbers. -/
def ratio (x : Binary64) : Nat × Nat :=
  if 0 ≤ x.exponent then (x.mantissa * Nat.pow 2 x.exponent.toNat, 1)
  else (x.mantissa, Nat.pow 2 (-x.exponent).toNat)

/-- A positive point `digits * 10 ^ exponent` that rounds to the double's magnitude. -/
def readsBack (x : Binary64) (digits : Nat) (exponent : Int) : Bool :=
  digits ≠ 0 ∧ Extended.ofDecimal x.negative digits exponent = .finite x

/-- The points of the grid `10 ^ exponent` on both sides of the magnitude, the nearer one first; of
two equally near points the upper one. -/
def neighbours (x : Binary64) (exponent : Int) : List Nat :=
  let (num, den) := x.ratio
  let (num, den) : Nat × Nat :=
    if 0 ≤ exponent then (num, den * Nat.pow 10 exponent.toNat)
    else (num * Nat.pow 10 (-exponent).toNat, den)
  let lower := num / den
  if 2 * (num % den) < den then [lower, lower + 1] else [lower + 1, lower]

/-- The point of this grid that stands for the double, if there is one. -/
def pointOn? (x : Binary64) (exponent : Int) : Option Nat :=
  (neighbours x exponent).find? fun digits => x.readsBack digits exponent

/-- The grids to try, from one coarser than the magnitude down to one that tells all doubles near it
apart. The decimal logarithm of two lies between 0.30102 and 0.30103. -/
def grids (x : Binary64) : List Int :=
  let binary : Int := x.exponent + x.mantissa.log2
  let coarsest : Int := binary * 30103 / 100000 + 1
  (List.range 20).map fun (n : Nat) => coarsest - n

/-- The shortest digits and the power of ten they are multiplied by. -/
def shortest (x : Binary64) : Nat × Int :=
  ((grids x).findSome? fun exponent => (x.pointOn? exponent).map fun digits => (digits, exponent))
    |>.getD (0, 0)

/-- Digits times a power of ten, written out with zeros. -/
def positional (digits : List Char) (exponent : Int) : List Char :=
  if 0 ≤ exponent then digits ++ List.replicate exponent.toNat '0'
  else
    let places := (-exponent).toNat
    let padded := List.replicate (places + 1 - digits.length) '0' ++ digits
    padded.take (padded.length - places) ++ '.' :: padded.drop (padded.length - places)

/-- The shortest positional text; an integer has no point. -/
def text (x : Binary64) : String :=
  let (digits, exponent) := if x.isZero then (0, 0) else x.shortest
  let magnitude := positional (Nat.toDigits 10 digits) exponent
  String.ofList (if x.negative then '-' :: magnitude else magnitude)

end ValueRules.Binary64

namespace ValueRules.Extended

def text : Extended → String
  | nan => "NaN"
  | infinite negative => if negative then "-inf" else "inf"
  | finite x => x.text

end ValueRules.Extended
