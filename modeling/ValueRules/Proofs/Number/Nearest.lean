import ValueRules.Proofs.Number.Exact

/-!
Which double is nearest to a rational number. If another one is as near, the nearest has an even
mantissa, so at most one value is nearest (`NearestTo.value_eq`), and greater numbers have no
smaller nearest doubles (`NearestTo.value_le`). Two numbers may share their nearest double;
`NearestTo.value_le_iff` says what is left of their order then.
-/

namespace ValueRules.Binary64

/-- No double is nearer to `q` than `x`, and if another value is as near, the mantissa of `x` is
even. -/
structure NearestTo (x : Binary64) (q : ℚ) : Prop where
  le : ∀ y : Binary64, |x.value - q| ≤ |y.value - q|
  even : ∀ y : Binary64, |y.value - q| = |x.value - q| → y.value ≠ x.value → Even x.mantissa

/-- A multiple of `2 ^ lower` is one of every smaller power. -/
theorem mul_zpow_of_le (k : ℤ) {exponent lower : ℤ} (h : exponent ≤ lower) :
    (k : ℚ) * 2 ^ lower = (k * 2 ^ (lower - exponent).toNat : ℤ) * 2 ^ exponent := by
  push_cast
  rw [mul_assoc, ← zpow_natCast, ← zpow_add₀ (by norm_num)]
  congr 2
  omega

/-- Below the exponent of a normal number there are smaller numbers only. -/
theorem mul_zpow_lt {k exponent lower : ℤ} (hk : k < 2 ^ 53) (h : lower < exponent) :
    (k : ℚ) * 2 ^ lower < 2 ^ 52 * 2 ^ exponent := by
  have hlt : (k : ℚ) < 2 ^ 53 := by exact_mod_cast hk
  calc
    (k : ℚ) * 2 ^ lower < 2 ^ 53 * 2 ^ lower := by gcongr
    _ ≤ 2 ^ 53 * 2 ^ (exponent - 1) := by
      gcongr
      · norm_num
      · omega
    _ = 2 ^ 52 * 2 ^ exponent := by
      rw [zpow_sub_one₀ (by norm_num)]
      ring

/-- Two numbers with even mantissas are not neighbours: the mantissa after the lower one is free. -/
theorem exists_between_of_nonneg {x y : Binary64} (hx : Even x.mantissa) (hy : Even y.mantissa)
    (hnonneg : 0 ≤ x.value) (hlt : x.value < y.value) :
    ∃ z : Binary64, x.value < z.value ∧ z.value < y.value := by
  have hunit : (0 : ℚ) < 2 ^ x.exponent := by positivity
  obtain ⟨i, hi⟩ := hx
  obtain ⟨j, hj⟩ := hy
  have hxvalue := value_of_nonneg hnonneg
  have hyvalue := value_of_nonneg (hnonneg.trans hlt.le)
  have hnext : Canonical (x.mantissa + 1) x.exponent := by
    obtain ⟨hmantissa, hleast, hgreatest, hnormal⟩ := x.canonical
    refine ⟨?_, hleast, hgreatest, hnormal.imp_left (fun h => by omega)⟩
    simp only [leadingBit] at hmantissa ⊢
    omega
  have hzvalue : value ⟨false, _, _, hnext⟩ = ((x.mantissa + 1 : ℤ) : ℚ) * 2 ^ x.exponent := by
    simp [value, signed]
  refine ⟨⟨false, _, _, hnext⟩, ?_, ?_⟩
  · rw [hxvalue, hzvalue]
    gcongr
    exact_mod_cast lt_add_one x.mantissa
  · rcases le_or_gt x.exponent y.exponent with hexponent | hexponent
    · rw [mul_zpow_of_le _ hexponent] at hyvalue
      rw [hxvalue, hyvalue, mul_lt_mul_iff_left₀ hunit, Int.cast_lt, hi, hj] at hlt
      rw [hzvalue, hyvalue, mul_lt_mul_iff_left₀ hunit, Int.cast_lt, hi, hj]
      push_cast at hlt ⊢
      rw [add_mul] at hlt ⊢
      omega
    · -- With a smaller exponent `y` would be below every normal number, and `x` is one.
      exfalso
      have hsmall : (y.mantissa : ℤ) < 2 ^ 53 := by exact_mod_cast y.canonical.mantissa_lt
      have hbelow := mul_zpow_lt hsmall hexponent
      have hnormal : (2 : ℚ) ^ 52 ≤ (x.mantissa : ℤ) := by
        have := y.canonical.le_exponent
        exact_mod_cast x.canonical.normal_or_least.resolve_right (by omega)
      have hle := mul_le_mul_of_nonneg_right hnormal hunit.le
      linarith

theorem exists_between {x y : Binary64} (hx : Even x.mantissa) (hy : Even y.mantissa)
    (hlt : x.value < y.value) : ∃ z : Binary64, x.value < z.value ∧ z.value < y.value := by
  rcases le_or_gt 0 x.value with hnonneg | hneg
  · exact exists_between_of_nonneg hx hy hnonneg hlt
  · rcases le_or_gt y.value 0 with hnonpos | hpos
    · obtain ⟨z, hyz, hzx⟩ : ∃ z : Binary64, y.neg.value < z.value ∧ z.value < x.neg.value :=
        exists_between_of_nonneg hy hx (by simpa using hnonpos) (by simpa using hlt)
      rw [value_neg] at hyz hzx
      refine ⟨z.neg, ?_, ?_⟩ <;> rw [value_neg] <;> linarith
    · exact ⟨zero false, by simpa using hneg, by simpa using hpos⟩

/-- The nearer of two numbers is on the side of the middle between them. -/
theorem le_middle {a b q : ℚ} (h : |a - q| ≤ |b - q|) (hlt : a < b) : 2 * q ≤ a + b := by
  have hsquares := sq_le_sq.mpr h
  nlinarith

theorem middle_le {a b q : ℚ} (h : |b - q| ≤ |a - q|) (hlt : a < b) : a + b ≤ 2 * q := by
  have hsquares := sq_le_sq.mpr h
  nlinarith

namespace NearestTo

variable {x y : Binary64} {p q : ℚ}

theorem not_lt (hx : x.NearestTo q) (hy : y.NearestTo q) : ¬ x.value < y.value := by
  intro hlt
  have htie : |x.value - q| = |y.value - q| := le_antisymm (hx.le y) (hy.le x)
  have hlow := le_middle htie.le hlt
  have hhigh := middle_le htie.ge hlt
  obtain ⟨z, hxz, hzy⟩ :=
    exists_between (hx.even y htie.symm hlt.ne') (hy.even x htie hlt.ne) hlt
  have hnearer : |z.value - q| < |x.value - q| := by
    rw [abs_of_nonpos (by linarith : x.value - q ≤ 0), abs_lt]
    constructor <;> linarith
  exact absurd (hx.le z) (not_le.mpr hnearer)

/-- At most one value is nearest. -/
theorem value_eq (hx : x.NearestTo q) (hy : y.NearestTo q) : x.value = y.value :=
  le_antisymm (le_of_not_gt (hy.not_lt hx)) (le_of_not_gt (hx.not_lt hy))

theorem value_le (hx : x.NearestTo p) (hy : y.NearestTo q) (h : p ≤ q) : x.value ≤ y.value := by
  rcases h.eq_or_lt with rfl | h
  · exact (hx.value_eq hy).le
  · by_contra hlt
    have hp := middle_le (hx.le y) (not_le.mp hlt)
    have hq := le_middle (hy.le x) (not_le.mp hlt)
    linarith

/-- A double is the nearest one to its own value. -/
theorem of_value (x : Binary64) : x.NearestTo x.value := by
  constructor
  · intro y
    rw [sub_self, abs_zero]
    exact abs_nonneg _
  · intro y htie hne
    rw [sub_self, abs_zero, abs_eq_zero, sub_eq_zero] at htie
    exact absurd htie hne

end NearestTo

/-- Both numbers have the same nearest double. -/
def SameNearest (p q : ℚ) : Prop :=
  ∃ x y : Binary64, x.NearestTo p ∧ y.NearestTo q ∧ x.value = y.value

theorem SameNearest.symm {p q : ℚ} (h : SameNearest p q) : SameNearest q p := by
  obtain ⟨x, y, hx, hy, hsame⟩ := h
  exact ⟨y, x, hy, hx, hsame.symm⟩

/-- Nearest doubles are in the order of the numbers, unless the numbers have been made equal. -/
theorem NearestTo.value_le_iff {x y : Binary64} {p q : ℚ} (hx : x.NearestTo p)
    (hy : y.NearestTo q) : x.value ≤ y.value ↔ p ≤ q ∨ SameNearest p q := by
  constructor
  · intro hle
    rcases le_or_gt p q with h | h
    · exact Or.inl h
    · exact Or.inr ⟨x, y, hx, hy, le_antisymm hle (hy.value_le hx h.le)⟩
  · rintro (h | ⟨x', y', hx', hy', hsame⟩)
    · exact hx.value_le hy h
    · rw [hx.value_eq hx', hsame, hy'.value_eq hy]

end ValueRules.Binary64
