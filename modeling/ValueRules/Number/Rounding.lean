import ValueRules.Number.Binary64

/-!
Rounding of exact numbers to doubles: the nearest double, the one with the even mantissa of two
equally near ones, and an infinity from half a unit above the greatest double on.
-/

namespace ValueRules

/-- The integer nearest to `num / den`; of two, the even one. -/
def nearestEven (num den : Nat) : Nat :=
  let quotient := num / den
  let remainder := num % den
  if 2 * remainder < den ∨ (2 * remainder = den ∧ quotient % 2 = 0) then quotient
  else quotient + 1

namespace Binary64

/-- `num / den` as a multiple of `2 ^ exponent`, still exact. -/
def inUnits (num den : Nat) (exponent : Int) : Nat × Nat :=
  if 0 ≤ exponent then (num, den * Nat.pow 2 exponent.toNat)
  else (num * Nat.pow 2 (-exponent).toNat, den)

/-- The exponent at which `num / den` has 53 bits before the point, or the least one. -/
def exponentFor (num den : Nat) : Int :=
  let estimate : Int := (num.log2 : Int) - den.log2
  let (scaledNum, scaledDen) := inUnits num den estimate
  let leading := if scaledDen ≤ scaledNum then estimate else estimate - 1
  max (-1074) (leading - 52)

end Binary64

namespace Extended

/-- The double of these parts; a mantissa that rounding carried to 54 bits is halved first. -/
def ofParts (negative : Bool) (mantissa : Nat) (exponent : Int) : Extended :=
  let (mantissa, exponent) :=
    if mantissa = 2 * Binary64.leadingBit then (Binary64.leadingBit, exponent + 1)
    else (mantissa, exponent)
  if h : Binary64.Canonical mantissa exponent then .finite ⟨negative, mantissa, exponent, h⟩
  else .infinite negative

/-- The double nearest to `± num / den`. -/
def ofRatio (negative : Bool) (num den : Nat) : Extended :=
  if num = 0 then .finite (.zero negative)
  else
    let exponent := Binary64.exponentFor num den
    let (scaledNum, scaledDen) := Binary64.inUnits num den exponent
    ofParts negative (nearestEven scaledNum scaledDen) exponent

/-- The double nearest to `n`. -/
def ofInt (n : Int) : Extended :=
  ofRatio (n < 0) n.natAbs 1

/-- The double nearest to `± digits * 10 ^ exponent`. Powers of ten that are sure to leave the range
of the doubles are not computed: below `10 ^ (-324)` all is zero, from `10 ^ 309` on infinite. -/
def ofDecimal (negative : Bool) (digits : Nat) (exponent : Int) : Extended :=
  let leading := (Nat.toDigits 10 digits).length + exponent
  if digits = 0 ∨ leading ≤ -324 then .finite (.zero negative)
  else if 310 ≤ leading then .infinite negative
  else if 0 ≤ exponent then ofRatio negative (digits * Nat.pow 10 exponent.toNat) 1
  else ofRatio negative digits (Nat.pow 10 (-exponent).toNat)

end Extended

end ValueRules
