import ValueRules.Builtins.Validators
import ValueRules.Proofs.Number.Texts

/-!
The range validator compares doubles. Bounds that are numbers are refused exactly if they are not in
order. A range of integers is exact for values below `2 ^ 53`; further out a value also passes if
rounding makes it equal to the bound that it is beyond (`between_rounds`).
-/

namespace ValueRules

namespace Extended

theorem gt_eq_not_le {x y : Extended} (hx : x ≠ .nan) (hy : y ≠ .nan) : x.gt y = !x.le y := by
  simp [gt, hx, hy]

theorem finite_le_finite {x y : Binary64} :
    (finite x).le (finite y) = true ↔ x.value ≤ y.value :=
  Binary64.le_iff x y

end Extended

namespace Builtins

open Number Binary64

theorem numberArgument_eq (args : List String) (index : ℕ) (name : String) {raw : String}
    {x : Extended} (hraw : args[index]? = some raw) (hx : extended? (Text.trim raw) = some x) :
    numberArgument args index name = .ok x := by
  have hargument : argument args index name = .ok raw := by
    unfold argument
    rw [hraw]
  unfold numberArgument
  simp only [hargument, bind, Except.bind, hx]
  rfl

/-- Whether a value is read as a double from `l` to `h`. -/
def liesIn (l h : Extended) (value : Value) : Bool :=
  (finite? value).any fun x => l.le (.finite x) && (Extended.finite x).le h

theorem between_eq {lo hi : String} {l h : Extended} (hlo : extended? (Text.trim lo) = some l)
    (hhi : extended? (Text.trim hi) = some h) (rest : List String) (value : Value) :
    between value (lo :: hi :: rest) =
      if l.gt h then
        .error (.invalidArgument "lo" s!"lower bound {l.text} exceeds upper bound {h.text}")
      else .ok (.check (liesIn l h value) s!"must be between {l.text} and {h.text}") := by
  have hlower := numberArgument_eq (lo :: hi :: rest) 0 "lo" rfl hlo
  have hupper := numberArgument_eq (lo :: hi :: rest) 1 "hi" rfl hhi
  unfold between
  rw [hlower, hupper]
  simp only [bind, Except.bind]
  split
  · rfl
  · simp only [pure, Except.pure, liesIn]
    cases finite? value <;> rfl

theorem exists_finite? {n : ℤ} (hn : IsInteger n) :
    ∃ x, finite? (.int n hn) = some x ∧ x.NearestTo n := by
  obtain ⟨x, hx, hnearest⟩ := exists_ofInt hn
  refine ⟨x, ?_, hnearest⟩
  simp only [finite?, Value.int, toBinary64?, hx, Extended.finite?]

theorem liesIn_int_iff {x y : Binary64} {a b n : ℤ} (hx : x.NearestTo a) (hy : y.NearestTo b)
    (hn : IsInteger n) : liesIn (.finite x) (.finite y) (.int n hn) = true ↔
      (a ≤ n ∨ SameNearest a n) ∧ (n ≤ b ∨ SameNearest n b) := by
  obtain ⟨z, hfinite, hnearest⟩ := exists_finite? hn
  rw [liesIn, hfinite, Option.any_some, Bool.and_eq_true, Extended.finite_le_finite,
    Extended.finite_le_finite, hx.value_le_iff hnearest, hnearest.value_le_iff hy, Int.cast_le,
    Int.cast_le]

theorem between_int_eq_pass_iff {lo hi : String} {a b n : ℤ}
    (hlo : intOfText? (Text.trim lo).toList = some a)
    (hhi : intOfText? (Text.trim hi).toList = some b) (ha : IsInteger a) (hb : IsInteger b)
    (hab : a ≤ b) (hn : IsInteger n) (rest : List String) :
    between (.int n hn) (lo :: hi :: rest) = .ok .pass ↔
      (a ≤ n ∨ SameNearest a n) ∧ (n ≤ b ∨ SameNearest n b) := by
  obtain ⟨x, hxread, hx⟩ := exists_extended? hlo ha
  obtain ⟨y, hyread, hy⟩ := exists_extended? hhi hb
  -- Rounding may make the bounds equal, but it does not put them out of order.
  have hordered : (Extended.finite x).le (.finite y) = true := by
    rw [Extended.finite_le_finite]
    exact hx.value_le hy (by exact_mod_cast hab)
  have hgt : (Extended.finite x).gt (.finite y) = false := by
    rw [Extended.gt_eq_not_le (by simp) (by simp), hordered, Bool.not_true]
  rw [between_eq hxread hyread, hgt, ← liesIn_int_iff hx hy hn, if_neg Bool.false_ne_true,
    Except.ok.injEq, Verdict.check_eq_pass_iff]

/-- Neither bound is not a number: then the range is refused exactly if the bounds are not in order.
Both bounds are texts of integers in order: then an integer passes exactly if it is in the range or
has been rounded to the bound that it is beyond. -/
theorem between_rounds (lo hi : String) (rest : List String) :
    (∀ l h, extended? (Text.trim lo) = some l → extended? (Text.trim hi) = some h →
      l ≠ .nan → h ≠ .nan → ∀ value,
        if l.le h then ∃ verdict, between value (lo :: hi :: rest) = .ok verdict
        else between value (lo :: hi :: rest) = .error
          (.invalidArgument "lo" s!"lower bound {l.text} exceeds upper bound {h.text}")) ∧
    ∀ a b n : ℤ, ∀ hn : IsInteger n, intOfText? (Text.trim lo).toList = some a →
      intOfText? (Text.trim hi).toList = some b → IsInteger a → IsInteger b → a ≤ b →
        (between (.int n hn) (lo :: hi :: rest) = .ok .pass ↔
          (a ≤ n ∨ SameNearest a n) ∧ (n ≤ b ∨ SameNearest n b)) ∧
        (|n| < 2 ^ 53 →
          (between (.int n hn) (lo :: hi :: rest) = .ok .pass ↔ a ≤ n ∧ n ≤ b)) := by
  constructor
  · intro l h hlo hhi hl hh value
    rw [between_eq hlo hhi, Extended.gt_eq_not_le hl hh]
    cases l.le h with
    | false => simp
    | true => simp
  · intro a b n hn hlo hhi ha hb hab
    have hpass := between_int_eq_pass_iff hlo hhi ha hb hab hn rest
    refine ⟨hpass, fun hsmall => ?_⟩
    have hlow : SameNearest a n → a ≤ n := fun h => (eq_of_sameNearest h hsmall).le
    have hhigh : SameNearest n b → n ≤ b := fun h => (eq_of_sameNearest h.symm hsmall).ge
    rw [hpass, or_iff_left_of_imp hlow, or_iff_left_of_imp hhigh]

/-- Infinite bounds in the wrong order are refused, and a bound that is rounded does no harm to a
small value. -/
theorem between_rounds_thousand :
    between .null ["inf", " -inf"] =
      .error (.invalidArgument "lo" "lower bound inf exceeds upper bound -inf") ∧
    (between (.int 1000 (by decide)) ["-1", "+9007199254740993"] = .ok .pass ↔
      (-1 : ℤ) ≤ 1000 ∧ (1000 : ℤ) ≤ 9007199254740993) := by
  have hrefused := (between_rounds "inf" " -inf" []).1 (.infinite false) (.infinite true)
    (by decide +kernel) (by decide +kernel) (by decide) (by decide) .null
  rw [if_neg (by decide)] at hrefused
  have hexact := (between_rounds "-1" "+9007199254740993" []).2 (-1) 9007199254740993 1000
    (by decide) (by decide +kernel) (by decide +kernel) (by decide) (by decide) (by decide)
  exact ⟨hrefused, hexact.2 (by decide)⟩

/-- A value beyond a bound that it is rounded to passes, and a bound that is not a number is not
refused although nothing is in order with it. -/
theorem between_not_exact :
    (between (.int 9007199254740993 (by decide)) ["9007199254740992", "9007199254740992"] =
        .ok .pass ∧ ¬ (9007199254740993 : ℤ) ≤ 9007199254740992) ∧
    (extended? "nan" = some .nan ∧ extended? "inf" = some (.infinite false) ∧
      Extended.nan.le (.infinite false) = false ∧
      between .null ["nan", "inf"] = .ok (.fail ["must be between NaN and inf"])) := by
  refine ⟨⟨?_, by decide⟩, by decide +kernel, by decide +kernel, by decide, ?_⟩
  · rfl
  · rfl

end Builtins

end ValueRules
