import Mathlib.Algebra.Ring.Parity
import ValueRules.Number.Rounding
import ValueRules.Proofs.Number.Nearest

/-!
Rounding is correct: the double that a quotient or a decimal is rounded to is the nearest one
(`ofRatio_nearestTo`, `ofDecimal_nearestTo`). A quotient is rounded to an integer at the exponent at
which it fits, and no double is nearer than the multiples of that unit.
-/

namespace ValueRules

/-- No integer is nearer to `q` than `n`, and of two equally near ones `n` is even. -/
structure NearestInteger (n : ℕ) (q : ℚ) : Prop where
  near : |(n : ℚ) - q| ≤ 1 / 2
  even : |(n : ℚ) - q| = 1 / 2 → Even n

/-- What the remainder is compared with is half of the denominator. -/
theorem exists_fraction (num : ℕ) {den : ℕ} (hden : 0 < den) :
    ∃ fraction : ℚ, (num : ℚ) / den = (num / den : ℕ) + fraction ∧ 0 ≤ fraction ∧ fraction < 1 ∧
      (fraction < 1 / 2 ↔ 2 * (num % den) < den) ∧ (fraction = 1 / 2 ↔ 2 * (num % den) = den) := by
  have hpos : (0 : ℚ) < den := by exact_mod_cast hden
  have hsum : (num : ℚ) = den * (num / den : ℕ) + (num % den : ℕ) := by
    exact_mod_cast (Nat.div_add_mod num den).symm
  have hscaled : ((num % den : ℕ) : ℚ) / den * den = (num % den : ℕ) :=
    div_mul_cancel₀ _ hpos.ne'
  refine ⟨(num % den : ℕ) / den, ?_, by positivity, ?_, ?_, ?_⟩
  · rw [div_eq_iff hpos.ne', add_mul, hscaled, mul_comm, ← hsum]
  · rw [div_lt_one hpos]
    exact_mod_cast Nat.mod_lt num hden
  · rw [← mul_lt_mul_iff_left₀ hpos, hscaled, ← Nat.cast_lt (α := ℚ)]
    push_cast
    constructor <;> intro h <;> linarith
  · rw [← mul_left_inj' hpos.ne', hscaled, ← Nat.cast_inj (R := ℚ)]
    push_cast
    constructor <;> intro h <;> linarith

theorem nearestEven_nearestInteger (num : ℕ) {den : ℕ} (hden : 0 < den) :
    NearestInteger (nearestEven num den) (num / den) := by
  obtain ⟨fraction, hq, hnonneg, hone, hlt, heq⟩ := exists_fraction num hden
  rw [hq, nearestEven]
  split
  · rename_i hdown
    have hdistance : |((num / den : ℕ) : ℚ) - ((num / den : ℕ) + fraction)| = fraction := by
      rw [sub_add_cancel_left, abs_neg, abs_of_nonneg hnonneg]
    constructor <;> rw [hdistance]
    · exact hdown.elim (fun h => (hlt.mpr h).le) (fun h => (heq.mpr h.1).le)
    · intro htie
      have hmiddle := heq.mp htie
      rw [Nat.even_iff]
      omega
  · rename_i hup
    have hhalf : 1 / 2 ≤ fraction := le_of_not_gt fun h => hup (Or.inl (hlt.mp h))
    have hdistance : |((num / den + 1 : ℕ) : ℚ) - ((num / den : ℕ) + fraction)| = 1 - fraction := by
      rw [abs_of_nonneg] <;> push_cast <;> linarith
    constructor <;> rw [hdistance]
    · linarith
    · intro htie
      have hmiddle := heq.mp (by linarith)
      rw [Nat.even_iff]
      omega

/-- Among the multiples of a unit the nearest one is that of the nearest integer. -/
theorem NearestInteger.le_multiple {n : ℕ} {q unit : ℚ} (h : NearestInteger n (q / unit))
    (hunit : 0 < unit) (k : ℤ) :
    |n * unit - q| ≤ |k * unit - q| ∧
      (|k * unit - q| = |n * unit - q| → (k : ℚ) ≠ n → Even n) := by
  have hscale (c : ℚ) : |c * unit - q| = |c - q / unit| * unit := by
    rw [← abs_of_pos hunit, ← abs_mul, abs_of_pos hunit, sub_mul, div_mul_cancel₀ _ hunit.ne']
  rw [hscale, hscale]
  by_cases hk : (k : ℚ) = n
  · rw [hk]
    exact ⟨le_rfl, fun _ hne => absurd rfl hne⟩
  · -- Another integer is at least one away, so half of one away from the quotient.
    have hne : k - n ≠ 0 := fun h => hk (by exact_mod_cast sub_eq_zero.mp h)
    have hone : (1 : ℚ) ≤ |(k : ℚ) - n| := by exact_mod_cast Int.one_le_abs hne
    have htriangle := abs_sub_le (k : ℚ) (q / unit) n
    rw [abs_sub_comm (q / unit) (n : ℚ)] at htriangle
    have hnear := h.near
    refine ⟨mul_le_mul_of_nonneg_right (by linarith) hunit.le, fun htie _ => h.even ?_⟩
    have hequal := mul_right_cancel₀ hunit.ne' htie
    linarith

namespace Binary64

/-- The mantissas of a double of the magnitude `q` at this exponent have 53 bits, or fewer if the
exponent is the least one. -/
structure FitsAt (q : ℚ) (exponent : ℤ) : Prop where
  le_exponent : -1074 ≤ exponent
  lt : q < 2 ^ 53 * 2 ^ exponent
  le : -1074 < exponent → 2 ^ 52 * 2 ^ exponent ≤ q

theorem inUnits_ratio (num : ℕ) {den : ℕ} (hden : 0 < den) (exponent : ℤ) :
    0 < (inUnits num den exponent).2 ∧
      ((inUnits num den exponent).1 : ℚ) / (inUnits num den exponent).2 =
        num / den / 2 ^ exponent := by
  rw [inUnits]
  by_cases h : 0 ≤ exponent
  · obtain ⟨k, rfl⟩ := Int.eq_ofNat_of_zero_le h
    rw [if_pos h]
    refine ⟨Nat.mul_pos hden (Nat.two_pow_pos _), ?_⟩
    simp [div_div]
  · obtain ⟨k, hk⟩ := Int.eq_ofNat_of_zero_le (show 0 ≤ -exponent by omega)
    obtain rfl : exponent = -(k : ℤ) := by omega
    rw [if_neg h]
    refine ⟨hden, ?_⟩
    simp [div_eq_mul_inv]
    ring

theorem two_pow_log2 {n : ℕ} (hn : n ≠ 0) :
    (2 : ℚ) ^ (n.log2 : ℤ) ≤ n ∧ (n : ℚ) < 2 ^ ((n.log2 : ℤ) + 1) := by
  constructor
  · rw [zpow_natCast]
    exact_mod_cast Nat.log2_self_le hn
  · have hlt := Nat.lt_log2_self (n := n)
    exact_mod_cast hlt

/-- The logarithms leave two places for the leading bit of a quotient. -/
theorem quotient_bounds {num den : ℕ} (hnum : num ≠ 0) (hden : 0 < den) :
    (2 : ℚ) ^ ((num.log2 : ℤ) - den.log2 - 1) ≤ num / den ∧
      (num : ℚ) / den < 2 ^ ((num.log2 : ℤ) - den.log2 + 1) := by
  have hpos : (0 : ℚ) < den := by exact_mod_cast hden
  obtain ⟨hnumLow, hnumHigh⟩ := two_pow_log2 hnum
  obtain ⟨hdenLow, hdenHigh⟩ := two_pow_log2 hden.ne'
  constructor
  · rw [le_div_iff₀ hpos]
    calc
      (2 : ℚ) ^ ((num.log2 : ℤ) - den.log2 - 1) * den
          ≤ 2 ^ ((num.log2 : ℤ) - den.log2 - 1) * 2 ^ ((den.log2 : ℤ) + 1) := by gcongr
      _ = 2 ^ (num.log2 : ℤ) := by
        rw [← zpow_add₀ (by norm_num)]
        congr 1
        omega
      _ ≤ num := hnumLow
  · rw [div_lt_iff₀ hpos]
    calc
      (num : ℚ) < 2 ^ ((num.log2 : ℤ) + 1) := hnumHigh
      _ = 2 ^ ((num.log2 : ℤ) - den.log2 + 1) * 2 ^ (den.log2 : ℤ) := by
        rw [← zpow_add₀ (by norm_num)]
        congr 1
        omega
      _ ≤ 2 ^ ((num.log2 : ℤ) - den.log2 + 1) * den := by gcongr

/-- The exponent is found from the place of the leading bit. -/
theorem exists_leading {num den : ℕ} (hnum : num ≠ 0) (hden : 0 < den) :
    ∃ leading : ℤ, exponentFor num den = max (-1074) (leading - 52) ∧
      (2 : ℚ) ^ leading ≤ num / den ∧ (num : ℚ) / den < 2 ^ (leading + 1) := by
  obtain ⟨hlow, hhigh⟩ := quotient_bounds hnum hden
  obtain ⟨estimate, hestimate⟩ : ∃ e : ℤ, e = (num.log2 : ℤ) - den.log2 := ⟨_, rfl⟩
  rw [← hestimate] at hlow hhigh
  obtain ⟨hunits, hratio⟩ := inUnits_ratio num hden estimate
  have hunit : (0 : ℚ) < 2 ^ estimate := by positivity
  have htest : (inUnits num den estimate).2 ≤ (inUnits num den estimate).1 ↔
      (2 : ℚ) ^ estimate ≤ num / den := by
    have hcast : (0 : ℚ) < (inUnits num den estimate).2 := by exact_mod_cast hunits
    rw [← one_le_div₀ hunit, ← hratio, one_le_div₀ hcast, Nat.cast_le]
  by_cases h : (inUnits num den estimate).2 ≤ (inUnits num den estimate).1
  · exact ⟨estimate, by rw [exponentFor, ← hestimate]; simp only [if_pos h], htest.mp h, hhigh⟩
  · refine ⟨estimate - 1, by rw [exponentFor, ← hestimate]; simp only [if_neg h], hlow, ?_⟩
    rw [sub_add_cancel]
    exact lt_of_not_ge fun hle => h (htest.mpr hle)

theorem fitsAt_exponentFor {num den : ℕ} (hnum : num ≠ 0) (hden : 0 < den) :
    FitsAt (num / den) (exponentFor num den) := by
  obtain ⟨leading, hexponent, hlow, hhigh⟩ := exists_leading hnum hden
  have hpower (k : ℕ) : (2 : ℚ) ^ k * 2 ^ exponentFor num den = 2 ^ (k + exponentFor num den) := by
    rw [← zpow_natCast, ← zpow_add₀ (by norm_num)]
  constructor
  · omega
  · rw [hpower]
    apply hhigh.trans_le
    apply zpow_le_zpow_right₀ (by norm_num)
    omega
  · intro hnormal
    rw [hpower]
    apply le_trans _ hlow
    apply zpow_le_zpow_right₀ (by norm_num)
    omega

/-- The rationals with a mantissa of 53 bits at an exponent not below the least: the values of the
doubles, and what doubles would be worth without a greatest exponent. -/
def Short (t : ℚ) : Prop :=
  ∃ k exponent : ℤ, |k| < 2 ^ 53 ∧ -1074 ≤ exponent ∧ t = k * 2 ^ exponent

theorem Short.signed {t : ℚ} (h : Short t) (negative : Bool) : Short (signed negative t) := by
  obtain ⟨k, exponent, hk, hexponent, rfl⟩ := h
  cases negative with
  | false => exact ⟨k, exponent, hk, hexponent, rfl⟩
  | true =>
    refine ⟨-k, exponent, by rwa [abs_neg], hexponent, ?_⟩
    simp [Binary64.signed]

theorem short_value (x : Binary64) : Short x.value := by
  apply Short.signed
  refine ⟨x.mantissa, x.exponent, ?_, x.canonical.le_exponent, by simp⟩
  rw [Nat.abs_cast]
  exact_mod_cast x.canonical.mantissa_lt

/-- No mantissa of 53 bits gives a nearer number, and one that is as near leaves an even one. -/
theorem FitsAt.le_distance {m : ℕ} {q t : ℚ} {exponent : ℤ} (hfits : FitsAt q exponent)
    (hm : NearestInteger m (q / 2 ^ exponent)) (ht : Short t) :
    |m * 2 ^ exponent - q| ≤ |t - q| ∧
      (|t - q| = |m * 2 ^ exponent - q| → t ≠ m * 2 ^ exponent → Even m) := by
  have hunit : (0 : ℚ) < 2 ^ exponent := by positivity
  obtain ⟨k, lower, hk, hleast, rfl⟩ := ht
  rcases le_or_gt exponent lower with hlower | hlower
  · rw [mul_zpow_of_le k hlower]
    obtain ⟨hnear, heven⟩ := hm.le_multiple hunit (k * 2 ^ (lower - exponent).toNat)
    refine ⟨hnear, fun htie hne => heven htie fun h => hne ?_⟩
    rw [h]
  · -- The least normal number of this exponent lies between the two.
    have hlt := mul_zpow_lt ((le_abs_self k).trans_lt hk) hlower
    have hle := hfits.le (by omega)
    have hbetween := (hm.le_multiple hunit (2 ^ 52)).1
    have hcast : ((2 ^ 52 : ℤ) : ℚ) = 2 ^ 52 := by norm_num
    rw [hcast, abs_sub_comm (2 ^ 52 * _), abs_of_nonneg (sub_nonneg.mpr hle)] at hbetween
    rw [abs_sub_comm (_ * 2 ^ lower), abs_of_nonneg (sub_nonneg.mpr (hlt.le.trans hle))]
    refine ⟨by linarith, fun htie => absurd htie (ne_of_gt ?_)⟩
    linarith

/-- The same behind a sign, for the double that the mantissa becomes. -/
theorem FitsAt.le_distance_signed {m : ℕ} {q t : ℚ} {exponent : ℤ} {negative : Bool} {x : Binary64}
    (hfits : FitsAt q exponent) (hm : NearestInteger m (q / 2 ^ exponent))
    (hvalue : x.value = signed negative (m * 2 ^ exponent)) (heven : Even m → Even x.mantissa)
    (ht : Short t) :
    |x.value - signed negative q| ≤ |t - signed negative q| ∧
      (|t - signed negative q| = |x.value - signed negative q| →
        t ≠ x.value → Even x.mantissa) := by
  have hsign : |t - signed negative q| = |signed negative t - q| := by
    rw [← abs_signed negative (t - _), ← signed_sub, signed_signed]
  obtain ⟨hle, htie⟩ := hfits.le_distance hm (ht.signed negative)
  rw [hsign, hvalue, signed_sub, abs_signed]
  refine ⟨hle, fun heq hne => heven (htie heq fun h => hne ?_)⟩
  rw [← h, signed_signed]

/-- What is nearer to zero than to the least double above it has zero as its nearest one. -/
theorem zero_le_distance (negative : Bool) {q t : ℚ} (hnonneg : 0 ≤ q)
    (hq : q < 1 / 2 * 2 ^ (-1074 : ℤ)) (ht : Short t) :
    |(zero negative).value - signed negative q| ≤ |t - signed negative q| ∧
      (|t - signed negative q| = |(zero negative).value - signed negative q| →
        t ≠ (zero negative).value → Even (zero negative).mantissa) := by
  have hunit : (0 : ℚ) < 2 ^ (-1074 : ℤ) := by positivity
  have hfits : FitsAt q (-1074) := by
    refine ⟨le_rfl, hq.trans ?_, fun h => absurd h (lt_irrefl _)⟩
    gcongr
    norm_num
  have hhalf : q / 2 ^ (-1074 : ℤ) < 1 / 2 := (div_lt_iff₀ hunit).mpr hq
  have hquotient : 0 ≤ q / 2 ^ (-1074 : ℤ) := div_nonneg hnonneg hunit.le
  have hm : NearestInteger 0 (q / 2 ^ (-1074 : ℤ)) := by
    refine ⟨?_, fun _ => ⟨0, rfl⟩⟩
    rw [Nat.cast_zero, zero_sub, abs_neg, abs_of_nonneg hquotient]
    exact hhalf.le
  exact hfits.le_distance_signed hm (by cases negative <;> simp [signed]) id ht

end Binary64

namespace Extended

open Binary64

theorem ofParts_eq_finite {negative : Bool} {mantissa : ℕ} {exponent : ℤ} {x : Binary64}
    (h : ofParts negative mantissa exponent = .finite x) :
    x.value = signed negative (mantissa * 2 ^ exponent) ∧ (Even mantissa → Even x.mantissa) := by
  rw [ofParts] at h
  by_cases hcarry : mantissa = 2 * leadingBit
  · simp only [if_pos hcarry] at h
    split at h
    · cases h
      refine ⟨?_, fun _ => (by decide : Even leadingBit)⟩
      simp only [value]
      congr 1
      rw [hcarry, zpow_add_one₀ (by norm_num)]
      push_cast
      ring
    · cases h
  · simp only [if_neg hcarry] at h
    split at h
    · cases h
      exact ⟨rfl, id⟩
    · cases h

theorem ofParts_finite (negative : Bool) {mantissa : ℕ} {exponent : ℤ}
    (hmantissa : mantissa ≤ 2 ^ 53) (hleast : -1074 ≤ exponent) (hgreatest : exponent ≤ 970)
    (hnormal : 2 ^ 52 ≤ mantissa ∨ exponent = -1074) :
    ∃ x, ofParts negative mantissa exponent = .finite x := by
  rw [ofParts]
  by_cases hcarry : mantissa = 2 * leadingBit
  · have hcanonical : Canonical leadingBit (exponent + 1) :=
      ⟨by decide, by omega, by omega, Or.inl le_rfl⟩
    simp only [if_pos hcarry, dif_pos hcanonical]
    exact ⟨_, rfl⟩
  · have hcanonical : Canonical mantissa exponent := by
      refine ⟨?_, hleast, by omega, hnormal⟩
      simp only [leadingBit] at hcarry ⊢
      omega
    simp only [if_neg hcarry, dif_pos hcanonical]
    exact ⟨_, rfl⟩

/-- A quotient is rounded to the nearest mantissa at the exponent at which it fits. -/
theorem exists_parts {num den : ℕ} (hnum : num ≠ 0) (hden : 0 < den) :
    ∃ (mantissa : ℕ) (exponent : ℤ), FitsAt (num / den) exponent ∧
      NearestInteger mantissa (num / den / 2 ^ exponent) ∧
      ∀ negative, ofRatio negative num den = ofParts negative mantissa exponent := by
  obtain ⟨hunits, hratio⟩ := inUnits_ratio num hden (exponentFor num den)
  have hnear := nearestEven_nearestInteger (inUnits num den (exponentFor num den)).1 hunits
  rw [hratio] at hnear
  refine ⟨_, _, fitsAt_exponentFor hnum hden, hnear, fun negative => ?_⟩
  rw [ofRatio, if_neg hnum]

/-- The double given is nearest among all numbers with a mantissa of 53 bits. -/
theorem ofRatio_le_distance {negative : Bool} {num den : ℕ} {x : Binary64} (hden : 0 < den)
    (h : ofRatio negative num den = .finite x) {t : ℚ} (ht : Short t) :
    |x.value - signed negative (num / den)| ≤ |t - signed negative (num / den)| ∧
      (|t - signed negative (num / den)| = |x.value - signed negative (num / den)| →
        t ≠ x.value → Even x.mantissa) := by
  by_cases hnum : num = 0
  · rw [ofRatio, if_pos hnum] at h
    cases h
    exact zero_le_distance negative (by positivity) (by rw [hnum]; simp) ht
  · obtain ⟨mantissa, exponent, hfits, hnear, hparts⟩ := exists_parts hnum hden
    rw [hparts] at h
    obtain ⟨hvalue, heven⟩ := ofParts_eq_finite h
    exact hfits.le_distance_signed hnear hvalue heven ht

theorem ofRatio_nearestTo {negative : Bool} {num den : ℕ} {x : Binary64} (hden : 0 < den)
    (h : ofRatio negative num den = .finite x) : x.NearestTo (signed negative (num / den)) := by
  constructor
  · intro y
    exact (ofRatio_le_distance hden h (short_value y)).1
  · intro y
    exact (ofRatio_le_distance hden h (short_value y)).2

/-- A quotient with a short mantissa is not changed. -/
theorem value_of_short {negative : Bool} {num den : ℕ} {x : Binary64} (hden : 0 < den)
    (h : ofRatio negative num den = .finite x) (hshort : Short (num / den)) :
    x.value = signed negative (num / den) := by
  have hle := (ofRatio_le_distance hden h (hshort.signed negative)).1
  rw [sub_self, abs_zero] at hle
  exact sub_eq_zero.mp (abs_nonpos_iff.mp hle)

theorem ofRatio_finite (negative : Bool) {num den : ℕ} (hden : 0 < den)
    (h : (num : ℚ) / den < 2 ^ 1023) : ∃ x, ofRatio negative num den = .finite x := by
  by_cases hnum : num = 0
  · exact ⟨.zero negative, by rw [ofRatio, if_pos hnum]⟩
  · obtain ⟨mantissa, exponent, hfits, hnear, hparts⟩ := exists_parts hnum hden
    have hunit : (0 : ℚ) < 2 ^ exponent := by positivity
    obtain ⟨hlow, hhigh⟩ := abs_le.mp hnear.near
    rw [hparts]
    apply ofParts_finite
    · have hlt := (div_lt_iff₀ hunit).mpr hfits.lt
      have hmantissa : (mantissa : ℚ) < 2 ^ 53 + 1 := by linarith
      have : mantissa < 2 ^ 53 + 1 := by exact_mod_cast hmantissa
      omega
    · exact hfits.le_exponent
    · by_contra hgreat
      have hpower : (2 : ℚ) ^ (1023 : ℤ) ≤ 2 ^ 52 * 2 ^ exponent := by
        rw [← zpow_natCast, ← zpow_add₀ (by norm_num)]
        apply zpow_le_zpow_right₀ (by norm_num)
        push_cast
        omega
      have hle := hfits.le (by omega)
      exact absurd h (not_lt.mpr (hpower.trans hle))
    · by_cases hleast : exponent = -1074
      · exact Or.inr hleast
      · left
        have hle := (le_div_iff₀ hunit).mpr (hfits.le (by have := hfits.le_exponent; omega))
        have hmantissa : (2 : ℚ) ^ 52 < mantissa + 1 := by linarith
        have : 2 ^ 52 < mantissa + 1 := by exact_mod_cast hmantissa
        omega

/-- A decimal below `10 ^ (-324)` is nearer to zero than to any other double. -/
theorem decimal_lt_of_leading_le {digits : ℕ} {exponent : ℤ}
    (h : (Nat.toDigits 10 digits).length + exponent ≤ -324) :
    (digits : ℚ) * 10 ^ exponent < 1 / 2 * 2 ^ (-1074 : ℤ) := by
  have hdigits : digits < 10 ^ (Nat.toDigits 10 digits).length :=
    (Nat.length_toDigits_le_iff (by norm_num) Nat.length_toDigits_pos).mp le_rfl
  have hcast : (digits : ℚ) < 10 ^ (Nat.toDigits 10 digits).length := by exact_mod_cast hdigits
  have hpower : (10 : ℚ) ^ (-324 : ℤ) < 1 / 2 * 2 ^ (-1074 : ℤ) := by
    have hnat : 2 ^ 1075 < 10 ^ 324 := by decide +kernel
    have hrat : (2 : ℚ) ^ 1075 < 10 ^ 324 := by exact_mod_cast hnat
    have hdouble : 1 / 2 * (2 : ℚ) ^ (-1074 : ℤ) = ((2 : ℚ) ^ 1075)⁻¹ := by
      rw [one_div, zpow_neg, ← mul_inv, zpow_ofNat, ← pow_succ']
    rw [hdouble, zpow_neg, zpow_ofNat]
    exact inv_strictAnti₀ (by positivity) hrat
  calc
    (digits : ℚ) * 10 ^ exponent < 10 ^ (Nat.toDigits 10 digits).length * 10 ^ exponent := by gcongr
    _ = 10 ^ ((Nat.toDigits 10 digits).length + exponent) := by
      rw [zpow_add₀ (by norm_num), zpow_natCast]
    _ ≤ 10 ^ (-324 : ℤ) := zpow_le_zpow_right₀ (by norm_num) h
    _ < 1 / 2 * 2 ^ (-1074 : ℤ) := hpower

theorem ofDecimal_nearestTo {negative : Bool} {digits : ℕ} {exponent : ℤ} {x : Binary64}
    (h : ofDecimal negative digits exponent = .finite x) :
    x.NearestTo (signed negative (digits * 10 ^ exponent)) := by
  rw [ofDecimal] at h
  split at h
  · rename_i hzero
    cases h
    have hsmall : (digits : ℚ) * 10 ^ exponent < 1 / 2 * 2 ^ (-1074 : ℤ) := by
      rcases hzero with rfl | hleading
      · simp
      · exact decimal_lt_of_leading_le hleading
    have hnearest {t : ℚ} (ht : Short t) :=
      zero_le_distance negative (by positivity) hsmall ht
    exact ⟨fun y => (hnearest (short_value y)).1, fun y => (hnearest (short_value y)).2⟩
  · split at h
    · cases h
    · split at h
      · rename_i hexponent
        obtain ⟨k, rfl⟩ := Int.eq_ofNat_of_zero_le hexponent
        have hnearest := ofRatio_nearestTo Nat.one_pos h
        simpa using hnearest
      · rename_i hexponent
        obtain ⟨k, hk⟩ := Int.eq_ofNat_of_zero_le (show 0 ≤ -exponent by omega)
        obtain rfl : exponent = -(k : ℤ) := by omega
        have hnearest := ofRatio_nearestTo (Nat.pow_pos (by norm_num)) h
        simpa [div_eq_mul_inv] using hnearest

end Extended

end ValueRules
