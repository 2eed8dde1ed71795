import Mathlib.Data.List.TakeWhile
import ValueRules.Proofs.Number.Integers
import ValueRules.Text.Blank

/-!
Texts as doubles. A text is read as the double nearest to the number that it stands for
(`extended?_nearestTo`). A decimal text of an integer is rounded as the integer is
(`exists_extended?`), and the text that an integer is written as is read back, as an integer and as
a double (`intOfText?_toString`, `extended?_toString`).
-/

namespace ValueRules

open Binary64 Extended

namespace Number

/-- Digits times a power of ten, behind a sign. -/
def scientific (negative : Bool) (decimal : ℕ × ℤ) : ℚ :=
  signed negative (decimal.1 * 10 ^ decimal.2)

/-- The number that a text stands for, before it is rounded. -/
def rational? (text : String) : Option ℚ :=
  let (negative, magnitude) := afterSign text.toList
  (decimal? magnitude).map (scientific negative)

theorem unsigned?_nearestTo {negative : Bool} {text : List Char} {x : Binary64}
    (h : unsigned? negative text = some (.finite x)) :
    ∃ q, (decimal? text).map (scientific negative) = some q ∧ x.NearestTo q := by
  rw [unsigned?, magnitude?] at h
  cases hdecimal : decimal? text with
  | none =>
    -- A name stands for an infinity or for no number.
    rw [hdecimal, Option.map_none, Option.none_or, named?] at h
    split at h <;> cases h
  | some decimal =>
    rw [hdecimal, Option.map_some, Option.some_or, Option.some_inj] at h
    exact ⟨_, rfl, ofDecimal_nearestTo h⟩

/-- Reading a text rounds correctly. -/
theorem extended?_nearestTo {text : String} {x : Binary64}
    (h : extended? text = some (.finite x)) : ∃ q, rational? text = some q ∧ x.NearestTo q :=
  unsigned?_nearestTo h

theorem isDigit_of_natOfDigits? {digits : List Char} {m : ℕ} (h : natOfDigits? digits = some m) :
    ∀ c ∈ digits, c.isDigit := by
  rw [natOfDigits?] at h
  split at h
  · rename_i hdigits
    exact List.all_eq_true.mp hdigits.2
  · cases h

theorem unsigned?_of_digits (negative : Bool) {digits : List Char} {m : ℕ}
    (h : natOfDigits? digits = some m) (hm : m < 2 ^ 64) :
    unsigned? negative digits = some (.ofRatio negative m 1) := by
  have hdigits := isDigit_of_natOfDigits? h
  have hwhole : digits.takeWhile Char.isDigit = digits := List.takeWhile_eq_self_iff.mpr hdigits
  have hrest : digits.dropWhile Char.isDigit = [] := List.dropWhile_eq_nil_iff.mpr hdigits
  have hlength : (Nat.toDigits 10 m).length ≤ 20 :=
    (Nat.length_toDigits_le_iff (by norm_num) (by norm_num)).mpr (hm.trans (by norm_num))
  -- The power of ten is zero, and twenty digits are too few for an infinity.
  have hdecimal : ofDecimal negative m 0 = ofRatio negative m 1 := by
    rw [ofDecimal]
    by_cases hzero : m = 0
    · simp [hzero, ofRatio]
    · rw [if_neg (by omega), if_neg (by omega), if_pos le_rfl]
      simp
  simp [unsigned?, magnitude?, decimal?, hwhole, hrest, h, exponent?, hdecimal]

theorem extended?_of_intOfText? {text : String} {n : ℤ} (h : intOfText? text.toList = some n)
    (hn : IsInteger n) :
    ∃ negative, extended? text = some (ofRatio negative n.natAbs 1) ∧
      signed negative n.natAbs = n := by
  have hbits := natAbs_lt_of_isInteger hn
  rw [intOfText?] at h
  rw [extended?]
  generalize afterSign text.toList = parts at h ⊢
  obtain ⟨negative, digits⟩ := parts
  obtain ⟨m, hm, rfl⟩ := Option.map_eq_some_iff.mp h
  have hnatAbs : (if negative then -(m : ℤ) else m).natAbs = m := by
    split <;> simp
  rw [hnatAbs] at hbits ⊢
  refine ⟨negative, unsigned?_of_digits _ hm hbits, ?_⟩
  cases negative <;> simp [signed]

/-- A text of an integer stands for the double nearest to the integer. -/
theorem exists_extended? {text : String} {n : ℤ} (h : intOfText? text.toList = some n)
    (hn : IsInteger n) : ∃ x, extended? text = some (.finite x) ∧ x.NearestTo n := by
  obtain ⟨negative, htext, hsigned⟩ := extended?_of_intOfText? h hn
  obtain ⟨x, hx, hnearest⟩ := exists_ofRatio negative (natAbs_lt_of_isInteger hn)
  rw [hsigned] at hnearest
  exact ⟨x, by rw [htext, hx], hnearest⟩

theorem natOfDigits?_toDigits (n : ℕ) : natOfDigits? (Nat.toDigits 10 n) = some n := by
  have hdigits : (Nat.toDigits 10 n).all Char.isDigit := by
    rw [List.all_eq_true]
    intro c hc
    exact Nat.isDigit_of_mem_toDigits (by norm_num) (by norm_num) hc
  rw [natOfDigits?, if_pos ⟨Nat.toDigits_ne_nil, hdigits⟩, Nat.ofDigitChars_ten_toDigits]

theorem toList_toString (n : ℤ) : (toString n).toList =
    if n < 0 then '-' :: Nat.toDigits 10 n.natAbs else Nat.toDigits 10 n.natAbs := by
  rw [Int.toString_eq_repr, Int.repr_eq_if]
  by_cases h : n < 0
  · rw [if_neg h.not_ge, if_pos h, show (-n).toNat = n.natAbs by omega]
    simp
  · rw [if_pos (not_lt.mp h), if_neg h, show n.toNat = n.natAbs by omega]
    simp

theorem afterSign_of_digits {digits : List Char} {m : ℕ} (h : natOfDigits? digits = some m) :
    afterSign digits = (false, digits) := by
  have hdigits := isDigit_of_natOfDigits? h
  rw [afterSign.eq_def]
  split
  · exact absurd (hdigits '-' List.mem_cons_self) (by decide)
  · exact absurd (hdigits '+' List.mem_cons_self) (by decide)
  · rfl

theorem afterSign_toString (n : ℤ) :
    afterSign (toString n).toList = (decide (n < 0), Nat.toDigits 10 n.natAbs) := by
  rw [toList_toString]
  by_cases h : n < 0
  · rw [if_pos h, decide_eq_true h, afterSign]
  · rw [if_neg h, decide_eq_false h, afterSign_of_digits (natOfDigits?_toDigits n.natAbs)]

theorem intOfText?_toString (n : ℤ) : intOfText? (toString n).toList = some n := by
  have hsign : (if n < 0 then -(n.natAbs : ℤ) else n.natAbs) = n := by omega
  simp only [intOfText?, afterSign_toString, natOfDigits?_toDigits, Option.map_some,
    decide_eq_true_eq, hsign]

/-- The written text is rounded as the integer is, down to the sign of zero. -/
theorem extended?_toString {n : ℤ} (hn : IsInteger n) :
    extended? (toString n) = some (ofInt n) := by
  rw [extended?, afterSign_toString]
  exact unsigned?_of_digits _ (natOfDigits?_toDigits n.natAbs) (natAbs_lt_of_isInteger hn)

theorem trim_toString (n : ℤ) : Text.trim (toString n) = toString n := by
  apply Text.trim_of_not_isBlank
  intro c hc
  have hdigits := isDigit_of_natOfDigits? (natOfDigits?_toDigits n.natAbs)
  rw [toList_toString] at hc
  split at hc
  · rcases List.mem_cons.mp hc with rfl | hc
    · decide
    · exact Text.isBlank_of_isDigit (hdigits c hc)
  · exact Text.isBlank_of_isDigit (hdigits c hc)

theorem natOfText?_of_digits {digits : List Char} {m : ℕ} (h : natOfDigits? digits = some m) :
    natOfText? digits = some m := by
  have hdigits := isDigit_of_natOfDigits? h
  rw [natOfText?.eq_def]
  split
  · exact absurd (hdigits '+' List.mem_cons_self) (by decide)
  · exact h

/-- Natural numbers of 64 bits are read back from their decimal texts. -/
theorem uint64?_toString {n : ℕ} (hn : n < 2 ^ 64) : uint64? (toString n) = some n := by
  have htext : natOfText? (toString n).toList = some n := by
    rw [Nat.toString_eq_ofList_toDigits, String.toList_ofList]
    exact natOfText?_of_digits (natOfDigits?_toDigits n)
  rw [uint64?, htext]
  exact Option.filter_eq_some_iff.mpr ⟨rfl, decide_eq_true hn⟩

end Number

end ValueRules
