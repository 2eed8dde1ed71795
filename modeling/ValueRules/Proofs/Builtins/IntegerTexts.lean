import ValueRules.Proofs.Builtins.Between
import ValueRules.Proofs.Builtins.Truncation

/-!
An integer and the text that it is written as. Both are read as the same double, so the procedures
that look at doubles only treat them alike. Those that look for integers in texts look for signed
64-bit ones, and part from `2 ^ 63` on (`integer_text_treated`).
-/

namespace ValueRules.Builtins

open Number Binary64

theorem finite?_toString {n : ℤ} (hn : IsInteger n) :
    finite? (.str (toString n)) = finite? (.int n hn) := by
  simp only [finite?, Value.int, toBinary64?, trim_toString, extended?_toString hn,
    Option.bind_some]

theorem between_congr {v w : Value} (h : finite? v = finite? w) (args : List String) :
    between v args = between w args := by
  unfold between
  rw [h]

theorem isNumeric_congr {v w : Value} (h : finite? v = finite? w) (args : List String) :
    isNumeric v args = isNumeric w args := by
  unfold isNumeric
  rw [h]

theorem toFloat_of_finite? {value : Value} {x : Binary64} (h : finite? value = some x)
    (args : List String) : toFloat value args = .ok (.float x) := by
  unfold toFloat
  rw [h]

theorem toInt_int {n : ℤ} (hn : IsInteger n) (args : List String) :
    toInt (.int n hn) args = .ok (.int n hn) := by
  unfold toInt
  rfl

theorem int64?_toString (n : ℤ) :
    int64? (Text.trim (toString n)) = if h : IsInt64 n then some ⟨n, h⟩ else none := by
  rw [trim_toString, int64?, intOfText?_toString, Option.bind_some]

theorem toInt_toString {n : ℤ} (hn : IsInteger n) (h : IsInt64 n) (args : List String) :
    toInt (.str (toString n)) args = .ok (.int n hn) := by
  have htext : integerOfText? (toString n) = some (.int n hn) := by
    unfold integerOfText?
    rw [int64?_toString, dif_pos h]
  unfold toInt
  dsimp only
  rw [htext, Option.some_or]

theorem le_value_of_le {x : Binary64} {n : ℤ} (hx : x.NearestTo n) (hn : 2 ^ 63 ≤ n) :
    2 ^ 63 ≤ x.value := by
  have hend : int64End.value ≤ n := by
    rw [value_int64End]
    exact_mod_cast hn
  have hle := (NearestTo.of_value int64End).value_le hx hend
  rwa [value_int64End] at hle

theorem value_eq_end_iff {x : Binary64} {n : ℤ} (hx : x.NearestTo n) (hn : 2 ^ 63 ≤ n) :
    x.value = 2 ^ 63 ↔ n ≤ 2 ^ 63 + 1024 := by
  -- The next double is 2048 greater, and the middle between the two is rounded down.
  constructor
  · intro hequal
    obtain ⟨next, hnext, hvalue⟩ : ∃ next : Binary64, next.NearestTo (2 ^ 63 + 1025 : ℤ) ∧
        next.value = 2 ^ 63 + 2048 :=
      ⟨⟨false, 0x10000000000001, 11, by decide⟩,
        nearestTo_of_ofInt (by decide) (by decide +kernel), by norm_num [value, signed]⟩
    by_contra hgreater
    have hle := hnext.value_le hx (by exact_mod_cast (by omega : 2 ^ 63 + 1025 ≤ n))
    rw [hequal, hvalue] at hle
    norm_num at hle
  · intro hle
    have hmiddle : int64End.NearestTo (2 ^ 63 + 1024 : ℤ) :=
      nearestTo_of_ofInt (by decide) (by decide +kernel)
    have hbelow := hx.value_le hmiddle (by exact_mod_cast hle)
    rw [value_int64End] at hbelow
    exact le_antisymm hbelow (le_value_of_le hx hn)

theorem truncation_of_le {x : Binary64} {n : ℤ} (hx : x.NearestTo n) (hn : 2 ^ 63 ≤ n)
    (kind : String) :
    truncation x kind =
      if n ≤ 2 ^ 63 + 1024 then .ok (.int 0x7fffffffffffffff (by decide))
      else .error (.unsupportedValue "convert to integer" kind) := by
  have hout : ¬ IsInt64 (towardZero x.value) := by
    rw [← trunc_eq, isInt64_trunc_iff]
    rintro ⟨-, hlt⟩
    exact absurd hlt (not_lt.mpr (le_value_of_le hx hn))
  rw [truncation, dif_neg hout]
  simp only [value_eq_end_iff hx hn]

/-- Three procedures cannot tell an integer from its text. The two that look for integers can, from
`2 ^ 63` on: the check fails for the text, and the conversion goes by way of the double, which is
either `2 ^ 63` and lowered or too great. -/
theorem integer_text_treated {n : ℤ} (hn : IsInteger n) (args : List String) :
    isNumeric (.str (toString n)) args = isNumeric (.int n hn) args ∧
    toFloat (.str (toString n)) args = toFloat (.int n hn) args ∧
    between (.str (toString n)) args = between (.int n hn) args ∧
    isInt (.int n hn) args = .ok .pass ∧ toInt (.int n hn) args = .ok (.int n hn) ∧
    if n < 2 ^ 63 then
      isInt (.str (toString n)) args = .ok .pass ∧
        toInt (.str (toString n)) args = .ok (.int n hn)
    else
      isInt (.str (toString n)) args = .ok (.fail ["must be an integer"]) ∧
        toInt (.str (toString n)) args =
          if n ≤ 2 ^ 63 + 1024 then .ok (.int 0x7fffffffffffffff (by decide))
          else .error (.unsupportedValue "convert to integer" "string") := by
  have hsame := finite?_toString hn
  obtain ⟨x, hx, hnearest⟩ := exists_finite? hn
  refine ⟨isNumeric_congr hsame args, ?_, between_congr hsame args, rfl, toInt_int hn args, ?_⟩
  · rw [toFloat_of_finite? hx, toFloat_of_finite? (hsame.trans hx)]
  · split
    · rename_i hlt
      have hint : IsInt64 n := ⟨hn.1, hlt⟩
      refine ⟨?_, toInt_toString hn hint args⟩
      unfold isInt
      simp only [int64?_toString, dif_pos hint]
      rfl
    · rename_i hge
      have hint : ¬ IsInt64 n := fun h => hge h.2
      have hnone : int64? (Text.trim (toString n)) = none := by
        rw [int64?_toString, dif_neg hint]
      constructor
      · unfold isInt
        simp only [hnone]
        rfl
      · rw [← truncation_of_le hnearest (not_lt.mp hge)]
        exact toInt_text hnone (hsame.trans hx) args

/-- A sign belongs to the text of an integer. -/
theorem integer_text_treated_negative :
    between (.str (toString (-12 : ℤ))) ["-20", "0"] =
      between (.int (-12) (by decide)) ["-20", "0"] ∧
    toInt (.str (toString (-12 : ℤ))) ["-20", "0"] = .ok (.int (-12) (by decide)) := by
  obtain ⟨-, -, hbetween, -, -, hbelow⟩ :=
    integer_text_treated (n := -12) (by decide) ["-20", "0"]
  rw [if_pos (by decide)] at hbelow
  exact ⟨hbetween, hbelow.2⟩

/-- The greatest integer that a number can hold passes as a number and fails as a text. -/
theorem integer_text_fails :
    isInt (.int 18446744073709551615 (by decide)) [] = .ok .pass ∧
    isInt (.str (toString (18446744073709551615 : ℤ))) [] = .ok (.fail ["must be an integer"]) ∧
    toInt (.int 18446744073709551615 (by decide)) [] =
      .ok (.int 18446744073709551615 (by decide)) ∧
    toInt (.str (toString (18446744073709551615 : ℤ))) [] =
      .error (.unsupportedValue "convert to integer" "string") := by
  refine ⟨rfl, by decide +kernel, rfl, rfl⟩

end ValueRules.Builtins
