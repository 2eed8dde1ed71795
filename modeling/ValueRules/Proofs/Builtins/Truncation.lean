import ValueRules.Builtins.Filters
import ValueRules.Proofs.Number.Texts

/-!
What a double becomes as an integer. The range that is tested ends at the doubles nearest to the
ends of the signed 64-bit integers, and the upper one is `2 ^ 63`, an integer too many: it alone is
not truncated but lowered to the greatest integer (`toInt_truncates`).
-/

namespace ValueRules

open Number

namespace Binary64

theorem value_eq_trunc {x : Binary64} (h : 2 ^ 53 ≤ |x.value|) : x.value = x.trunc := by
  -- A mantissa has 53 bits only, so the exponent is not negative.
  have hexponent : 0 ≤ x.exponent := by
    by_contra hneg
    have hmantissa : ((x.mantissa : ℤ) : ℚ) < 2 ^ 53 := by
      exact_mod_cast x.canonical.mantissa_lt
    have hpower : (2 : ℚ) ^ x.exponent ≤ 1 :=
      zpow_le_one_of_nonpos₀ (by norm_num) (not_le.mp hneg).le
    have hbound : |x.value| ≤ (x.mantissa : ℤ) := by
      rw [value, abs_signed, abs_of_nonneg (by positivity), Int.cast_natCast]
      exact mul_le_of_le_one_right (Nat.cast_nonneg _) hpower
    linarith
  obtain ⟨k, hk⟩ := Int.eq_ofNat_of_zero_le hexponent
  rw [value, trunc, if_pos hexponent, hk]
  cases x.negative <;> simp [signed]

theorem isInt64_trunc_iff (x : Binary64) :
    IsInt64 x.trunc ↔ -2 ^ 63 ≤ x.value ∧ x.value < 2 ^ 63 := by
  constructor
  · rintro ⟨hleast, hgreatest⟩
    have hlow : (-2 ^ 63 : ℚ) ≤ x.trunc := by exact_mod_cast hleast
    have hhigh : (x.trunc : ℚ) < 2 ^ 63 := by exact_mod_cast hgreatest
    -- A double beyond an end is an integer, so dropping its fraction cannot bring it back.
    constructor
    · by_contra hbelow
      have hinteger := x.value_eq_trunc (by rw [le_abs]; right; linarith)
      linarith
    · by_contra habove
      have hinteger := x.value_eq_trunc (by rw [le_abs]; left; linarith)
      linarith
  · rintro ⟨hlow, hhigh⟩
    rw [trunc_eq]
    constructor
    · exact le_towardZero (by norm_num) (by exact_mod_cast hlow)
    · exact towardZero_lt (by norm_num) (by exact_mod_cast hhigh)

/-- The double `2 ^ 63`, one more than the greatest signed 64-bit integer. -/
def int64End : Binary64 :=
  ⟨false, 0x10000000000000, 11, by decide⟩

theorem value_int64End : int64End.value = 2 ^ 63 := by
  norm_num [int64End, value, signed]

end Binary64

namespace Builtins

theorem le_double_iff (x : Binary64) :
    (Extended.ofInt (-0x8000000000000000)).le (.finite x) ∧
        (Extended.finite x).le (Extended.ofInt 0x7fffffffffffffff) ↔
      -2 ^ 63 ≤ x.value ∧ x.value ≤ 2 ^ 63 := by
  have hleast : Extended.ofInt (-0x8000000000000000) =
      .finite ⟨true, 0x10000000000000, 11, by decide⟩ := by decide +kernel
  -- The greatest integer of 63 bits is not a double, and the nearest one is above it.
  have hgreatest : Extended.ofInt 0x7fffffffffffffff = .finite Binary64.int64End := by
    decide +kernel
  rw [hleast, hgreatest, Extended.le, Extended.le, Binary64.le_iff, Binary64.le_iff,
    Binary64.value_int64End]
  norm_num [Binary64.value, Binary64.signed]

theorem integerOfDouble?_of_isInt64 {x : Binary64} (h : IsInt64 x.trunc) :
    integerOfDouble? x = some (.int x.trunc (isInteger_of_isInt64 h)) := by
  obtain ⟨hlow, hhigh⟩ := x.isInt64_trunc_iff.mp h
  have hsaturate : saturate x.trunc = ⟨x.trunc, h⟩ := by
    obtain ⟨hleast, hgreatest⟩ := h
    apply Subtype.ext
    simp only [saturate]
    omega
  rw [integerOfDouble?]
  simp only [if_pos ((le_double_iff x).mpr ⟨hlow, hhigh.le⟩), hsaturate]

theorem integerOfDouble?_end {x : Binary64} (h : x.value = 2 ^ 63) :
    integerOfDouble? x = some (.int 0x7fffffffffffffff (by decide)) := by
  have htrunc : x.trunc = 2 ^ 63 := by
    have hinteger := x.value_eq_trunc (by rw [h]; norm_num)
    rw [h] at hinteger
    exact_mod_cast hinteger.symm
  have hsaturate : saturate (2 ^ 63) = ⟨0x7fffffffffffffff, by decide⟩ := by decide
  rw [integerOfDouble?]
  simp only [if_pos ((le_double_iff x).mpr (by rw [h]; norm_num)), htrunc, hsaturate]

theorem integerOfDouble?_outside {x : Binary64} (htrunc : ¬ IsInt64 x.trunc)
    (hend : x.value ≠ 2 ^ 63) : integerOfDouble? x = none := by
  rw [integerOfDouble?]
  apply if_neg
  rw [le_double_iff]
  rintro ⟨hlow, hhigh⟩
  exact htrunc (x.isInt64_trunc_iff.mpr ⟨hlow, lt_of_le_of_ne hhigh hend⟩)

/-- A double is truncated exactly where that gives a signed 64-bit integer, and refused elsewhere,
except that `2 ^ 63` gives the greatest one. -/
def truncation (x : Binary64) (kind : String) : Except ProcedureError Value :=
  if h : IsInt64 (towardZero x.value) then
    .ok (.int (towardZero x.value) (isInteger_of_isInt64 h))
  else if x.value = 2 ^ 63 then .ok (.int 0x7fffffffffffffff (by decide))
  else .error (.unsupportedValue "convert to integer" kind)

theorem integerOfDouble?_elim (x : Binary64) (kind : String) :
    (integerOfDouble? x).elim (.error (.unsupportedValue "convert to integer" kind)) .ok =
      truncation x kind := by
  simp only [truncation, ← Binary64.trunc_eq]
  split
  · rename_i hwithin
    rw [integerOfDouble?_of_isInt64 hwithin, Option.elim_some]
  · rename_i hout
    split
    · rename_i hend
      rw [integerOfDouble?_end hend, Option.elim_some]
    · rename_i hend
      rw [integerOfDouble?_outside hout hend, Option.elim_none]

theorem toInt_float (x : Binary64) (args : List String) :
    toInt (.float x) args = truncation x "number" := by
  have hfinite : finite? (.float x) = some x := rfl
  rw [← integerOfDouble?_elim]
  unfold toInt
  rw [hfinite, Option.bind_some]
  cases integerOfDouble? x <;> rfl

/-- A text that is not of a signed 64-bit integer is truncated as the double that it is read as. -/
theorem toInt_text {text : String} {x : Binary64} (hint : int64? (Text.trim text) = none)
    (hfinite : finite? (.str text) = some x) (args : List String) :
    toInt (.str text) args = truncation x "string" := by
  have hnone : integerOfText? text = none := by
    unfold integerOfText?
    rw [hint]
  rw [← integerOfDouble?_elim]
  unfold toInt
  dsimp only
  rw [hfinite, Option.bind_some, hnone]
  cases integerOfDouble? x <;> rfl

/-- A double is truncated (`truncation`), and a text that is not of a signed 64-bit integer is
truncated as the double nearest to the number that it writes. -/
theorem toInt_truncates (args : List String) :
    (∀ x, toInt (.float x) args = truncation x "number") ∧
      ∀ text x, int64? (Text.trim text) = none → extended? (Text.trim text) = some (.finite x) →
        (∃ q, rational? (Text.trim text) = some q ∧ x.NearestTo q) ∧
          toInt (.str text) args = truncation x "string" := by
  refine ⟨fun x => toInt_float x args, ?_⟩
  intro text x hint hread
  have hfinite : finite? (.str text) = some x := by
    rw [finite?, hread]
    rfl
  exact ⟨extended?_nearestTo hread, toInt_text hint hfinite args⟩

/-- A text with a sign, a fraction and an exponent, behind a space. -/
theorem toInt_truncates_fraction :
    (∃ q, rational? (Text.trim " -2.9e0") = some q ∧
      (⟨true, 0x17333333333333, -51, by decide⟩ : Binary64).NearestTo q) ∧
    toInt (.str " -2.9e0") [] =
      truncation ⟨true, 0x17333333333333, -51, by decide⟩ "string" := by
  have hint : int64? (Text.trim " -2.9e0") = none := by decide +kernel
  have hfinite : extended? (Text.trim " -2.9e0") =
      some (.finite ⟨true, 0x17333333333333, -51, by decide⟩) := by decide +kernel
  exact (toInt_truncates []).2 _ _ hint hfinite

/-- The double `2 ^ 63` is not refused, although truncating it gives no signed 64-bit integer. -/
theorem toInt_lowers_end :
    ¬ IsInt64 (towardZero Binary64.int64End.value) ∧
    toInt (.float Binary64.int64End) [] = .ok (.int 0x7fffffffffffffff (by decide)) := by
  constructor
  · rw [← Binary64.trunc_eq]
    decide
  · rfl

end Builtins

end ValueRules
