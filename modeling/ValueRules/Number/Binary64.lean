/-!
Finite doubles as exact numbers, `± mantissa * 2 ^ exponent` in the one form that the 64 bits
encode, and the extended doubles that reading a text can give: a finite one, an infinity or no
number.
-/

namespace ValueRules

namespace Binary64

/-- The greatest of the 53 bits of a mantissa, `2 ^ 52`. -/
def leadingBit : Nat := 0x10000000000000

/-- The mantissa has 53 bits, or fewer at the least exponent. -/
structure Canonical (mantissa : Nat) (exponent : Int) : Prop where
  mantissa_lt : mantissa < 2 * leadingBit
  le_exponent : -1074 ≤ exponent
  exponent_le : exponent ≤ 971
  normal_or_least : leadingBit ≤ mantissa ∨ exponent = -1074

theorem canonical_iff {mantissa : Nat} {exponent : Int} :
    Canonical mantissa exponent ↔ mantissa < 2 * leadingBit ∧ -1074 ≤ exponent ∧ exponent ≤ 971 ∧
      (leadingBit ≤ mantissa ∨ exponent = -1074) :=
  ⟨fun h => ⟨h.1, h.2, h.3, h.4⟩, fun h => ⟨h.1, h.2.1, h.2.2.1, h.2.2.2⟩⟩

instance (mantissa : Nat) (exponent : Int) : Decidable (Canonical mantissa exponent) :=
  decidable_of_iff _ canonical_iff.symm

end Binary64

/-- A finite double. Zero has two signs. -/
structure Binary64 where
  negative : Bool
  mantissa : Nat
  exponent : Int
  canonical : Binary64.Canonical mantissa exponent
deriving DecidableEq

namespace Binary64

def zero (negative : Bool) : Binary64 :=
  ⟨negative, 0, -1074, by decide⟩

instance : Inhabited Binary64 := ⟨zero false⟩

def isZero (x : Binary64) : Bool :=
  x.mantissa = 0

/-- `x / 2 ^ exponent` for an exponent no greater than that of `x`. -/
def scaled (x : Binary64) (exponent : Int) : Int :=
  let magnitude := x.mantissa * Nat.pow 2 (x.exponent - exponent).toNat
  if x.negative then -magnitude else magnitude

/-- The exact values in order; both zeros are equal. -/
def le (x y : Binary64) : Bool :=
  let exponent := min x.exponent y.exponent
  x.scaled exponent ≤ y.scaled exponent

/-- The integer left when the fraction is dropped. -/
def trunc (x : Binary64) : Int :=
  let magnitude : Nat :=
    if 0 ≤ x.exponent then x.mantissa * Nat.pow 2 x.exponent.toNat
    else x.mantissa / Nat.pow 2 (-x.exponent).toNat
  if x.negative then -magnitude else magnitude

/-- The bit of the sign stands above eleven bits of exponent. -/
def signBit : Nat := 2048 * leadingBit

/-- Sign, eleven exponent bits and fraction. The least exponent is shared by the numbers whose
leading bit is not written. -/
def toBits (x : Binary64) : UInt64 :=
  let magnitude : Nat :=
    if x.mantissa < leadingBit then x.mantissa
    else (x.exponent + 1075).toNat * leadingBit + (x.mantissa - leadingBit)
  UInt64.ofNat (if x.negative then signBit + magnitude else magnitude)

/-- The double with these bits, unless they stand for an infinity or for no number. -/
def ofBits? (bits : UInt64) : Option Binary64 :=
  let negative := decide (signBit ≤ bits.toNat)
  let biased : Nat := bits.toNat / leadingBit % 2048
  let fraction : Nat := bits.toNat % leadingBit
  let (mantissa, exponent) : Nat × Int :=
    if biased = 0 then (fraction, -1074) else (leadingBit + fraction, biased - 1075)
  if h : Canonical mantissa exponent then some ⟨negative, mantissa, exponent, h⟩ else none

end Binary64

/-- A double, an infinity, or the result that is not a number. -/
inductive Extended where
  | nan
  | infinite (negative : Bool)
  | finite (x : Binary64)
deriving DecidableEq

namespace Extended

instance : Inhabited Extended := ⟨nan⟩

/-- Nothing compares with what is not a number. -/
def le : Extended → Extended → Bool
  | nan, _ | _, nan => false
  | infinite true, _ | _, infinite false => true
  | infinite false, _ | _, infinite true => false
  | finite x, finite y => x.le y

/-- The greater of two numbers; nothing compares with what is not a number. -/
def gt (x y : Extended) : Bool :=
  x ≠ nan ∧ y ≠ nan ∧ ¬ x.le y

def finite? : Extended → Option Binary64
  | finite x => some x
  | _ => none

end Extended

end ValueRules
