import Mathlib.Data.List.DropRight
import ValueRules.Proofs.Builtins.IntegerTexts

/-!
The numeric procedures agree on what a number is. All of them ask `finite?` for a double, and what
else they accept, the integers and the texts of integers, has one too. White space around a text is
dropped before anything else, so dropping it earlier changes nothing (`numeric_procedures_agree`).
-/

namespace ValueRules

/-- What is left has no white space at either end. -/
theorem Text.trim_trim (text : String) : trim (trim text) = trim text := by
  have hstrip (chars : List Char) : ((chars.dropWhile isBlank).reverse.dropWhile isBlank).reverse =
      (chars.dropWhile isBlank).rdropWhile isBlank := rfl
  -- The first character left by the first pass is still the first one after the second.
  have hstarts : ((text.toList.dropWhile isBlank).rdropWhile isBlank).dropWhile isBlank =
      (text.toList.dropWhile isBlank).rdropWhile isBlank := by
    have hstart := List.rdropWhile_prefix isBlank (text.toList.dropWhile isBlank)
    have hself := List.dropWhile_idempotent isBlank text.toList
    rw [List.dropWhile_eq_self_iff] at hself ⊢
    intro hlength
    rw [hstart.getElem hlength]
    exact hself (hlength.trans_le hstart.length_le)
  simp only [trim, String.toList_ofList, hstrip]
  rw [hstarts, List.rdropWhile_idempotent]

namespace Builtins

open Number Binary64

theorem finite?_trim (value : Value) : finite? (mapText Text.trim value) = finite? value := by
  cases value with
  | str text => simp only [mapText, finite?, Text.trim_trim]
  | _ => rfl

theorem isInt_trim (value : Value) (args : List String) :
    isInt (mapText Text.trim value) args = isInt value args := by
  cases value with
  | str text => simp only [mapText, isInt, Text.trim_trim]
  | _ => rfl

theorem toInt_trim (value : Value) (args : List String) :
    toInt (mapText Text.trim value) args = toInt value args := by
  have hfinite := finite?_trim value
  cases value with
  | str text =>
    have htext : integerOfText? (Text.trim text) = integerOfText? text := by
      unfold integerOfText?
      rw [Text.trim_trim]
    unfold toInt
    rw [hfinite]
    simp only [mapText, htext, Value.kindName]
  | _ => rfl

theorem kindName_mapText (f : String → String) (value : Value) :
    (mapText f value).kindName = value.kindName := by
  cases value <;> rfl

theorem toFloat_trim (value : Value) (args : List String) :
    toFloat (mapText Text.trim value) args = toFloat value args := by
  unfold toFloat
  rw [finite?_trim, kindName_mapText]

theorem isNumeric_eq_pass_iff {value : Value} {args : List String} :
    isNumeric value args = .ok .pass ↔ ∃ x, finite? value = some x := by
  rw [isNumeric, Except.ok.injEq, Verdict.check_eq_pass_iff, Option.isSome_iff_exists]

/-- A text of a signed 64-bit integer is one of a double too. -/
theorem exists_finite?_of_int64? {text : String} {n : { n : ℤ // IsInt64 n }}
    (h : int64? (Text.trim text) = some n) : ∃ x, finite? (.str text) = some x := by
  rw [int64?] at h
  obtain ⟨m, hm, hbits⟩ := Option.bind_eq_some_iff.mp h
  split at hbits
  · rename_i hint
    obtain ⟨x, hx, -⟩ := exists_extended? hm (isInteger_of_isInt64 hint)
    refine ⟨x, ?_⟩
    rw [finite?, hx]
    rfl
  · cases hbits

/-- Whatever is an integer is a number, and it can be converted. -/
theorem exists_of_isInt {value : Value} {args : List String} (h : isInt value args = .ok .pass) :
    (∃ x, finite? value = some x) ∧ ∀ others, ∃ n, toInt value others = .ok n := by
  unfold isInt at h
  rw [Except.ok.injEq, Verdict.check_eq_pass_iff] at h
  split at h
  · rename_i n hn
    obtain ⟨x, hx, -⟩ := exists_finite? hn
    exact ⟨⟨x, hx⟩, fun others => ⟨_, toInt_int hn others⟩⟩
  · rename_i text
    obtain ⟨n, hn⟩ := Option.isSome_iff_exists.mp h
    refine ⟨exists_finite?_of_int64? hn, fun others => ⟨.int n (isInteger_of_isInt64 n.2), ?_⟩⟩
    unfold toInt integerOfText?
    simp only [hn, Option.some_or]
  · cases h

theorem integerOfDouble?_eq_some {x : Binary64} {value : Value}
    (h : integerOfDouble? x = some value) : ∃ n, ∃ hn : IsInteger n, value = .int n hn := by
  rw [integerOfDouble?] at h
  dsimp only at h
  split at h
  · cases h
    exact ⟨_, _, rfl⟩
  · cases h

theorem integerOfText?_eq_some {text : String} {value : Value}
    (h : integerOfText? text = some value) :
    (∃ x, finite? (.str text) = some x) ∧ ∃ n, ∃ hn : IsInteger n, value = .int n hn := by
  unfold integerOfText? at h
  split at h
  · rename_i n hint hread
    cases h
    exact ⟨exists_finite?_of_int64? hread, n, _, rfl⟩
  · cases h

/-- A conversion to an integer gives one, and only out of a number. -/
theorem toInt_eq_ok {value result : Value} {args : List String}
    (h : toInt value args = .ok result) :
    (∃ x, finite? value = some x) ∧ ∃ n, ∃ hn : IsInteger n, result = .int n hn := by
  unfold toInt at h
  dsimp only at h
  split at h
  · rename_i n hsome
    cases h
    -- Integers and their texts are taken as they are, all other numbers by way of a double.
    rcases Option.or_eq_some_iff.mp hsome with hdirect | ⟨-, hdouble⟩
    · split at hdirect
      · rename_i n hn
        cases hdirect
        obtain ⟨x, hx, -⟩ := exists_finite? hn
        exact ⟨⟨x, hx⟩, n, hn, rfl⟩
      · exact integerOfText?_eq_some hdirect
      · cases hdirect
    · obtain ⟨x, hx, hresult⟩ := Option.bind_eq_some_iff.mp hdouble
      exact ⟨⟨x, hx⟩, integerOfDouble?_eq_some hresult⟩
  · cases h

theorem toFloat_eq_ok {value result : Value} {args : List String}
    (h : toFloat value args = .ok result) : ∃ x, finite? value = some x ∧ result = .float x := by
  unfold toFloat at h
  split at h
  · rename_i x hx
    cases h
    exact ⟨x, hx, rfl⟩
  · cases h

/-- Bounds apart, a range asks for a number. -/
theorem exists_of_between {value : Value} {args : List String}
    (h : between value args = .ok .pass) : ∃ x, finite? value = some x := by
  unfold between at h
  cases hlo : numberArgument args 0 "lo" with
  | error error =>
    rw [hlo] at h
    cases h
  | ok lo =>
    cases hhi : numberArgument args 1 "hi" with
    | error error =>
      rw [hlo, hhi] at h
      cases h
    | ok hi =>
      rw [hlo, hhi] at h
      cases hfinite : finite? value with
      | some x => exact ⟨x, rfl⟩
      | none =>
        simp only [hfinite, bind, Except.bind] at h
        split at h
        · cases h
        · cases h

/-- A value converts to a double if and only if it is numeric. What passes as an integer converts to
one and is numeric, and what is in a range is numeric. What a conversion gives passes the check of
its kind and stays as it is when it is converted again. White space around a text makes no
difference to any of the procedures. -/
theorem numeric_procedures_agree (value : Value) (args others : List String) :
    ((∃ result, toFloat value args = .ok result) ↔ isNumeric value others = .ok .pass) ∧
    (isInt value args = .ok .pass →
      (∃ result, toInt value others = .ok result) ∧ isNumeric value others = .ok .pass) ∧
    (between value args = .ok .pass → isNumeric value others = .ok .pass) ∧
    (∀ result, toInt value args = .ok result →
      isNumeric value others = .ok .pass ∧ isInt result others = .ok .pass ∧
        toInt result others = .ok result) ∧
    (∀ result, toFloat value args = .ok result →
      isNumeric result others = .ok .pass ∧ toFloat result others = .ok result) ∧
    ∃ trimmed, trim value others = .ok trimmed ∧
      toInt trimmed args = toInt value args ∧ toFloat trimmed args = toFloat value args ∧
      isInt trimmed args = isInt value args ∧ isNumeric trimmed args = isNumeric value args ∧
      between trimmed args = between value args := by
  refine ⟨⟨?_, ?_⟩, ?_, ?_, ?_, ?_, mapText Text.trim value, rfl, toInt_trim value args,
    toFloat_trim value args, isInt_trim value args, isNumeric_congr (finite?_trim value) args,
    between_congr (finite?_trim value) args⟩
  -- A conversion to a double and the check for a number ask the same question.
  · rintro ⟨result, h⟩
    obtain ⟨x, hx, -⟩ := toFloat_eq_ok h
    exact isNumeric_eq_pass_iff.mpr ⟨x, hx⟩
  · intro h
    obtain ⟨x, hx⟩ := isNumeric_eq_pass_iff.mp h
    exact ⟨.float x, toFloat_of_finite? hx args⟩
  · intro h
    obtain ⟨hfinite, hconverts⟩ := exists_of_isInt h
    exact ⟨hconverts others, isNumeric_eq_pass_iff.mpr hfinite⟩
  · intro h
    exact isNumeric_eq_pass_iff.mpr (exists_of_between h)
  -- What a conversion gives is its own kind of number, which the same conversion keeps.
  · intro result h
    obtain ⟨hfinite, n, hn, rfl⟩ := toInt_eq_ok h
    exact ⟨isNumeric_eq_pass_iff.mpr hfinite, rfl, toInt_int hn others⟩
  · intro result h
    obtain ⟨x, -, rfl⟩ := toFloat_eq_ok h
    exact ⟨isNumeric_eq_pass_iff.mpr ⟨x, rfl⟩, toFloat_of_finite? rfl others⟩

end Builtins

end ValueRules
