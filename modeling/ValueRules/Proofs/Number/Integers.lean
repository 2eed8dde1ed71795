import ValueRules.Proofs.Number.Rounding
import ValueRules.Value

/-!
Integers of 64 bits as doubles. Each has a nearest double (`exists_ofInt`), which is the integer
itself up to `2 ^ 53`; below that no other integer shares it (`eq_of_sameNearest`).
-/

namespace ValueRules

open Binary64 Extended

namespace Number

theorem natAbs_lt_of_isInteger {n : ℤ} (h : IsInteger n) : n.natAbs < 2 ^ 64 := by
  obtain ⟨hleast, hgreatest⟩ := h
  omega

theorem exists_ofRatio (negative : Bool) {m : ℕ} (hm : m < 2 ^ 64) :
    ∃ x, ofRatio negative m 1 = .finite x ∧ x.NearestTo (signed negative m) := by
  have hbound : (m : ℚ) / (1 : ℕ) < 2 ^ 1023 := by
    have hlt : m < 2 ^ 1023 := hm.trans (by decide +kernel)
    rw [Nat.cast_one, div_one]
    exact_mod_cast hlt
  obtain ⟨x, hx⟩ := ofRatio_finite negative Nat.one_pos hbound
  have hnearest := ofRatio_nearestTo Nat.one_pos hx
  rw [Nat.cast_one, div_one] at hnearest
  exact ⟨x, hx, hnearest⟩

theorem signed_natAbs (n : ℤ) : signed (n < 0) n.natAbs = n := by
  rcases lt_or_ge n 0 with h | h
  · have hcast : ((n.natAbs : ℤ) : ℚ) = ((-n : ℤ) : ℚ) := congrArg _ (by omega)
    rw [Int.cast_natCast] at hcast
    simp [signed, h, hcast]
  · have hcast : ((n.natAbs : ℤ) : ℚ) = (n : ℚ) := congrArg _ (by omega)
    rw [Int.cast_natCast] at hcast
    simp [signed, h.not_gt, hcast]

theorem exists_ofInt {n : ℤ} (h : IsInteger n) :
    ∃ x, ofInt n = .finite x ∧ x.NearestTo n := by
  obtain ⟨x, hx, hnearest⟩ := exists_ofRatio (n < 0) (natAbs_lt_of_isInteger h)
  rw [signed_natAbs] at hnearest
  exact ⟨x, hx, hnearest⟩

theorem nearestTo_of_ofInt {n : ℤ} {x : Binary64} (h : IsInteger n) (hx : ofInt n = .finite x) :
    x.NearestTo n := by
  obtain ⟨y, hy, hnearest⟩ := exists_ofInt h
  rw [hx, finite.injEq] at hy
  rwa [hy]

theorem short_natCast {m : ℕ} (h : m ≤ 2 ^ 53) : Short m := by
  rcases h.lt_or_eq with h | rfl
  · refine ⟨m, 0, ?_, by norm_num, by simp⟩
    rw [Nat.abs_cast]
    exact_mod_cast h
  · exact ⟨2 ^ 52, 1, by norm_num, by norm_num, by norm_num⟩

/-- Integers with at most 53 bits are doubles. -/
theorem value_eq_of_nearestTo {x : Binary64} {n : ℤ} (hx : x.NearestTo n) (hn : |n| ≤ 2 ^ 53) :
    x.value = n := by
  have hbits : n.natAbs ≤ 2 ^ 53 := by
    rw [Int.abs_eq_natAbs] at hn
    omega
  have hsmall : n.natAbs < 2 ^ 64 := hbits.trans_lt (by norm_num)
  obtain ⟨y, hy, hnearest⟩ := exists_ofRatio (n < 0) hsmall
  have hshort : Short ((n.natAbs : ℚ) / (1 : ℕ)) := by
    rw [Nat.cast_one, div_one]
    exact short_natCast hbits
  have hvalue := value_of_short Nat.one_pos hy hshort
  rw [Nat.cast_one, div_one, signed_natAbs] at hvalue
  rw [signed_natAbs] at hnearest
  rw [hx.value_eq hnearest, hvalue]

/-- Below `2 ^ 53` no other integer is rounded to the same double, however great it is. -/
theorem eq_of_sameNearest {m n : ℤ} (h : SameNearest m n) (hn : |n| < 2 ^ 53) : m = n := by
  obtain ⟨x, y, hx, hy, hsame⟩ := h
  have hvalue : x.value = n := hsame.trans (value_eq_of_nearestTo hy hn.le)
  -- The neighbours of `n` are doubles, and an integer beyond one of them is not rounded past it.
  have hneighbour (k : ℤ) (hk : |k| ≤ 2 ^ 53) : ∃ z : Binary64, z.value = k ∧ z.NearestTo k := by
    have hinteger : IsInteger k := by
      obtain ⟨hleast, hgreatest⟩ := abs_le.mp hk
      constructor <;> omega
    obtain ⟨z, -, hz⟩ := exists_ofInt hinteger
    exact ⟨z, value_eq_of_nearestTo hz hk, hz⟩
  obtain ⟨hleast, hgreatest⟩ := abs_lt.mp hn
  rcases lt_trichotomy m n with hlt | heq | hgt
  · obtain ⟨z, hz, hznearest⟩ := hneighbour (n - 1) (abs_le.mpr (by omega))
    have hle := hx.value_le hznearest (by exact_mod_cast Int.le_sub_one_of_lt hlt)
    rw [hvalue, hz] at hle
    have : n ≤ n - 1 := by exact_mod_cast hle
    omega
  · exact heq
  · obtain ⟨z, hz, hznearest⟩ := hneighbour (n + 1) (abs_le.mpr (by omega))
    have hle := hznearest.value_le hx (by exact_mod_cast Int.add_one_le_of_lt hgt)
    rw [hvalue, hz] at hle
    have : n + 1 ≤ n := by exact_mod_cast hle
    omega

end Number

end ValueRules
