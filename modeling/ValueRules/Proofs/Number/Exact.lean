import Mathlib.Algebra.Order.Field.Power
import Mathlib.Data.Rat.Floor
import Mathlib.Tactic.Linarith
import Mathlib.Tactic.Positivity
import Mathlib.Tactic.Ring
import ValueRules.Number.Binary64

/-!
What a double is worth, as a rational number. The order of doubles is the order of their values, and
dropping the fraction of a double is dropping that of its value.
-/

namespace ValueRules

/-- The integer left when the fraction is dropped. -/
def towardZero (q : ℚ) : ℤ :=
  if q < 0 then ⌈q⌉ else ⌊q⌋

/-- Dropping the fraction does not pass zero, so it does not pass an integer on the side of zero. -/
theorem le_towardZero {k : ℤ} {q : ℚ} (hk : k ≤ 0) (h : k ≤ q) : k ≤ towardZero q := by
  rw [towardZero]
  split
  · exact_mod_cast h.trans (Int.le_ceil q)
  · rename_i hnonneg
    exact hk.trans (Int.floor_nonneg.mpr (not_lt.mp hnonneg))

theorem towardZero_lt {k : ℤ} {q : ℚ} (hk : 0 < k) (h : q < k) : towardZero q < k := by
  rw [towardZero]
  split
  · rename_i hneg
    have hceil : ⌈q⌉ ≤ 0 := Int.ceil_le.mpr (by exact_mod_cast hneg.le)
    exact hceil.trans_lt hk
  · exact Int.floor_lt.mpr h

namespace Binary64

/-- A magnitude behind its sign. -/
def signed (negative : Bool) (q : ℚ) : ℚ :=
  if negative then -q else q

@[simp] theorem signed_signed (negative : Bool) (q : ℚ) :
    signed negative (signed negative q) = q := by
  cases negative <;> simp [signed]

theorem signed_sub (negative : Bool) (p q : ℚ) :
    signed negative p - signed negative q = signed negative (p - q) := by
  cases negative <;> simp [signed]
  ring

theorem abs_signed (negative : Bool) (q : ℚ) : |signed negative q| = |q| := by
  cases negative <;> simp [signed]

theorem signed_mul (negative : Bool) (p q : ℚ) :
    signed negative (p * q) = signed negative p * q := by
  cases negative <;> simp [signed]

theorem towardZero_signed (negative : Bool) {q : ℚ} (h : 0 ≤ q) :
    towardZero (signed negative q) = if negative then -⌊q⌋ else ⌊q⌋ := by
  cases negative with
  | false => simp [signed, towardZero, h.not_gt]
  | true =>
    rcases h.eq_or_lt with rfl | h
    · simp [signed, towardZero]
    · simp [signed, towardZero, h, Int.ceil_neg]

/-- The exact value. -/
def value (x : Binary64) : ℚ :=
  signed x.negative (x.mantissa * 2 ^ x.exponent)

def neg (x : Binary64) : Binary64 :=
  ⟨!x.negative, x.mantissa, x.exponent, x.canonical⟩

@[simp] theorem value_neg (x : Binary64) : x.neg.value = -x.value := by
  cases h : x.negative <;> simp [neg, value, signed, h]

@[simp] theorem value_zero (negative : Bool) : (zero negative).value = 0 := by
  cases negative <;> simp [zero, value, signed]

theorem value_of_nonneg {x : Binary64} (h : 0 ≤ x.value) :
    x.value = (x.mantissa : ℤ) * 2 ^ x.exponent := by
  rw [value] at h ⊢
  cases hsign : x.negative with
  | false => simp [signed]
  | true =>
    have hmagnitude : (0 : ℚ) ≤ x.mantissa * 2 ^ x.exponent := by positivity
    simp only [signed, hsign, if_true, Int.cast_natCast] at h ⊢
    linarith

theorem scaled_mul (x : Binary64) {exponent : ℤ} (h : exponent ≤ x.exponent) :
    (x.scaled exponent : ℚ) * 2 ^ exponent = x.value := by
  have hpower : (2 : ℚ) ^ (x.exponent - exponent).toNat * 2 ^ exponent = 2 ^ x.exponent := by
    rw [← zpow_natCast, ← zpow_add₀ (by norm_num)]
    congr 1
    omega
  rw [value, ← hpower, ← mul_assoc, signed_mul]
  congr 1
  rw [scaled]
  cases x.negative <;> simp [signed]

theorem le_iff (x y : Binary64) : x.le y = true ↔ x.value ≤ y.value := by
  have hunit : (0 : ℚ) < 2 ^ min x.exponent y.exponent := by positivity
  rw [← x.scaled_mul (min_le_left x.exponent y.exponent),
    ← y.scaled_mul (min_le_right x.exponent y.exponent), mul_le_mul_iff_left₀ hunit, Int.cast_le,
    le, decide_eq_true_iff]

theorem trunc_eq (x : Binary64) : x.trunc = towardZero x.value := by
  rw [value, towardZero_signed _ (by positivity), trunc]
  by_cases h : 0 ≤ x.exponent
  · have hwhole : (x.mantissa : ℚ) * 2 ^ x.exponent =
        ((x.mantissa * Nat.pow 2 x.exponent.toNat : ℕ) : ℤ) := by
      obtain ⟨k, hk⟩ := Int.eq_ofNat_of_zero_le h
      rw [hk]
      simp
    rw [hwhole, Int.floor_intCast, if_pos h]
  · have hparts : (x.mantissa : ℚ) * 2 ^ x.exponent =
        (x.mantissa : ℤ) / ((Nat.pow 2 (-x.exponent).toNat : ℕ) : ℚ) := by
      obtain ⟨k, hk⟩ := Int.eq_ofNat_of_zero_le (show 0 ≤ -x.exponent by omega)
      have hexponent : x.exponent = -(k : ℤ) := by omega
      rw [hexponent]
      simp [div_eq_mul_inv]
    rw [hparts, Rat.floor_intCast_div_natCast, if_neg h]
    simp

end Binary64

end ValueRules
