import ValueRules.Builtins
import ValueRules.Proofs.Chain.Piecewise
import ValueRules.Proofs.Engine.Sequence
import ValueRules.Proofs.Number.Texts
import ValueRules.Proofs.Registry.LastWrite

/-!
The length rules from the rule text to the report. The bounds are written in decimal, cut out of
the rule text, read back and compared with the length of the value; `length_rules_exact` says what
is reported for every value and every two bounds.
-/

namespace ValueRules

namespace Delimiters

/-- Tokens without a digit leave decimal texts alone. -/
theorem plain_toString {delimiters : Delimiters}
    (h : ∀ role, (delimiters.get role).toList.all (!·.isDigit) = true) (n : ℕ) :
    delimiters.Plain (toString n) := by
  intro role c hc htoken
  rw [Nat.toString_eq_ofList_toDigits, String.toList_ofList] at hc
  have hdigit := Nat.isDigit_of_mem_toDigits (by norm_num) (by norm_num) hc
  have hother := List.all_eq_true.mp (h role) c htoken
  rw [hdigit] at hother
  exact absurd hother (by decide)

theorem standard_plain_toString (n : ℕ) : standard.Plain (toString n) :=
  plain_toString (fun role => by cases role <;> decide) n

end Delimiters

/-- The characters of a text and the items of a list are counted; no other value has a length. -/
inductive Value.HasLength : Value → ℕ → Prop where
  | text (text : String) : HasLength (.str text) text.length
  | list (items : List Value) : HasLength (.arr items) items.length

theorem Value.HasLength.unique {value : Value} {m n : ℕ} (hm : value.HasLength m)
    (hn : value.HasLength n) : m = n := by
  cases hm <;> cases hn <;> rfl

namespace Builtins

theorem nodup_names_validators : (validators.map Prod.fst).Nodup := by
  decide

/-- The argument is a decimal text, so it is read as the number it was written from. -/
theorem naturalArgument_toString {n : ℕ} (hn : n < 2 ^ 64) (rest : List String) (name : String) :
    naturalArgument (toString n :: rest) 0 name = .ok n := by
  have htrim : Text.trim (toString n) = toString n := Number.trim_toString n
  have hraw : argument (toString n :: rest) 0 name = .ok (toString n) := rfl
  simp only [naturalArgument, hraw, bind, Except.bind, htrim, Number.uint64?_toString hn]
  rfl

/-- What both length rules come down to: a test of the length, and what is said of a length that
does not pass it. -/
def lengthVerdict (within : ℕ → Bool) (complaint : String → String) (value : Value) : Verdict :=
  match measure? value with
  | some (length, unit) => .check (within length) (complaint unit)
  | none => unmeasurable value

def atLeast (a : ℕ) : Value → Verdict :=
  lengthVerdict (a ≤ ·) fun unit => s!"must be at least {a} {unit} long"

def atMost (b : ℕ) : Value → Verdict :=
  lengthVerdict (· ≤ b) fun unit => s!"must be at most {b} {unit} long"

theorem minLength_toString {a : ℕ} (ha : a < 2 ^ 64) (value : Value) :
    minLength value [toString a] = .ok (atLeast a value) := by
  simp only [minLength, naturalArgument_toString ha, bind, Except.bind]
  rfl

theorem maxLength_toString {b : ℕ} (hb : b < 2 ^ 64) (value : Value) :
    maxLength value [toString b] = .ok (atMost b value) := by
  simp only [maxLength, naturalArgument_toString hb, bind, Except.bind]
  rfl

variable {within : ℕ → Bool} {complaint : String → String} {value : Value}

/-- Of a value with a length the test decides. -/
theorem lengthVerdict_eq_pass_iff {n : ℕ} (h : value.HasLength n) :
    lengthVerdict within complaint value = .pass ↔ within n = true := by
  cases h <;> exact Verdict.check_eq_pass_iff

/-- A value without a length passes no test. -/
theorem lengthVerdict_ne_pass (h : ∀ n, ¬ value.HasLength n) :
    lengthVerdict within complaint value ≠ .pass := by
  cases value with
  | str text => exact absurd (.text text) (h _)
  | arr items => exact absurd (.list items) (h _)
  | _ => exact Verdict.noConfusion

theorem lengthVerdict_ne_skip : lengthVerdict within complaint value ≠ .skip := by
  cases value with
  | str text => exact Verdict.check_ne_skip
  | arr items => exact Verdict.check_ne_skip
  | _ => exact Verdict.noConfusion

theorem atLeast_eq_pass_iff {a n : ℕ} (h : value.HasLength n) :
    atLeast a value = .pass ↔ a ≤ n := by
  rw [atLeast, lengthVerdict_eq_pass_iff h, decide_eq_true_iff]

theorem atMost_eq_pass_iff {b n : ℕ} (h : value.HasLength n) :
    atMost b value = .pass ↔ n ≤ b := by
  rw [atMost, lengthVerdict_eq_pass_iff h, decide_eq_true_iff]

/-- The failures of both rules, in the order of the rule text. -/
def lengthFailures (a b : ℕ) (value : Value) : Failures :=
  (atLeast a value).failures "min_len" ++ (atMost b value).failures "max_len"

theorem names_lengthFailures (a b : ℕ) (value : Value) :
    (lengthFailures a b value).map Prod.fst =
      (if atLeast a value = .pass then [] else ["min_len"]) ++
        if atMost b value = .pass then [] else ["max_len"] := by
  have hlow : atLeast a value ≠ .skip := lengthVerdict_ne_skip
  have hhigh : atMost b value ≠ .skip := lengthVerdict_ne_skip
  rw [lengthFailures, List.map_append, Verdict.names_failures hlow, Verdict.names_failures hhigh]

theorem lengthFailures_eq_nil_iff {a b : ℕ} :
    lengthFailures a b value = [] ↔ ∃ n, value.HasLength n ∧ a ≤ n ∧ n ≤ b := by
  have hpass : lengthFailures a b value = [] ↔
      atLeast a value = .pass ∧ atMost b value = .pass := by
    rw [← List.map_eq_nil_iff, names_lengthFailures, List.append_eq_nil_iff]
    simp
  rw [hpass]
  constructor
  · -- Without a length there would be no verdict to pass, so both speak of the one length.
    rintro ⟨hlow, hhigh⟩
    by_cases hlength : ∃ n, value.HasLength n
    · obtain ⟨n, hn⟩ := hlength
      exact ⟨n, hn, (atLeast_eq_pass_iff hn).mp hlow, (atMost_eq_pass_iff hn).mp hhigh⟩
    · exact absurd hlow (lengthVerdict_ne_pass (not_exists.mp hlength))
  · rintro ⟨n, hn, hlow, hhigh⟩
    exact ⟨(atLeast_eq_pass_iff hn).mpr hlow, (atMost_eq_pass_iff hn).mpr hhigh⟩

/-- The two names differ, so the report lists those that failed. -/
theorem keys_lengthFailures (a b : ℕ) (value : Value) :
    (Report.recordAll {} (lengthFailures a b value)).messages.map Prod.fst =
      (if atLeast a value = .pass then [] else ["min_len"]) ++
        if atMost b value = .pass then [] else ["max_len"] := by
  rw [(Report.sumsUp_nil.recordAll _).keys_eq, List.nil_append, names_lengthFailures]
  split <;> split <;> rfl

end Builtins

namespace Registry

theorem follows_withBuiltins (delimiters : Delimiters) :
    (withBuiltins delimiters).Follows delimiters
      ((Builtins.filterEntries ++ Builtins.validatorEntries).map fun entry =>
        .put entry.1 entry.2) := by
  rw [withBuiltins, registerAll_eq]
  exact (follows_nil delimiters).requestAll _

theorem delimiters_withBuiltins (delimiters : Delimiters) :
    (withBuiltins delimiters).delimiters = delimiters :=
  (follows_withBuiltins delimiters).delimiters_eq

/-- A stock validator is found under its name, wherever that name can be stored. -/
theorem validator?_withBuiltins {delimiters : Delimiters} {name : String} {validator : Validator}
    (hstock : (name, validator) ∈ Builtins.validators) (hname : delimiters.Accepts name) :
    (withBuiltins delimiters).validator? name = some validator := by
  obtain ⟨before, after, hvalidators⟩ := List.append_of_mem hstock
  have hnodup := Builtins.nodup_names_validators
  rw [validator?_eq_some_iff, (follows_withBuiltins delimiters).resolve?_eq, latest_eq_some_iff]
  refine ⟨(Builtins.filterEntries.map fun entry => .put entry.1 entry.2) ++
    before.map fun entry => .put entry.1 (.validator entry.2),
    after.map fun entry => .put entry.1 (.validator entry.2), ?_, rfl, hname, ?_⟩
  · simp [Builtins.validatorEntries, hvalidators, Function.comp_def]
  · -- The names are distinct, so nothing that is stored later takes the place.
    rw [hvalidators, List.map_append, List.map_cons] at hnodup
    have hlater := (List.nodup_cons.mp hnodup.of_append_right).1
    intro request hrequest
    obtain ⟨⟨other, stored⟩, hmem, rfl⟩ := List.mem_map.mp hrequest
    have hother : other ≠ name := by
      rintro rfl
      exact hlater (List.mem_map.mpr ⟨_, hmem, rfl⟩)
    simp [Request.leaves?, hother]

end Registry

namespace Engine

open Builtins

/-- The two calls that the rule text of the length rules is read as. -/
def lengthChain (a b : ℕ) : Chain :=
  ⟨[⟨"min_len", [toString a]⟩, ⟨"max_len", [toString b]⟩]⟩

theorem render_lengthChain (a b : ℕ) :
    (lengthChain a b).render .standard = s!"min_len::{a}->max_len::{b}" := by
  have hargs : Delimiters.standard.args = "::" := rfl
  have hchain : Delimiters.standard.chain = "->" := rfl
  rw [← String.toList_inj]
  simp [lengthChain, Chain.render, Step.render, hargs, hchain]
  rfl

theorem parse_lengths (a b : ℕ) :
    Chain.parse .standard s!"min_len::{a}->max_len::{b}" = lengthChain a b := by
  have hround (name : String) (hname : name = "min_len" ∨ name = "max_len") (n : ℕ) :
      Step.roundTrips .standard ⟨name, [toString n]⟩ = true := by
    apply Step.roundTrips_of_plain
    · rw [← Text.position?_append_self_iff]
      rcases hname with rfl | rfl <;> decide +kernel
    · rw [← Text.position?_append_self_iff]
      rcases hname with rfl | rfl <;> decide +kernel
    · exact Delimiters.standard_plain_toString n
  rw [← render_lengthChain]
  apply Chain.parse_render_of_roundTrips (List.cons_ne_nil _ _)
  simp only [List.forall_mem_cons]
  exact ⟨hround _ (.inl rfl) a, hround _ (.inr rfl) b, List.forall_mem_nil _⟩

/-- Wherever the two names are the stock rules, both of them run, and each leaves what its verdict
says. -/
theorem validateInput_lengths (registry : Registry) (hdelimiters : registry.delimiters = .standard)
    (hmin : registry.validator? "min_len" = some { check := minLength })
    (hmax : registry.validator? "max_len" = some { check := maxLength })
    (value : Value) {a b : ℕ} (ha : a < 2 ^ 64) (hb : b < 2 ^ 64) :
    (validateInput ⟨registry⟩ value s!"min_len::{a}->max_len::{b}").result =
      .ok (Report.recordAll {} (lengthFailures a b value)) := by
  have hblank : (lengthChain a b).isBlank = false := by simp [lengthChain, Chain.isBlank]
  have hlow := minLength_toString ha value
  have hhigh := maxLength_toString hb value
  have hsettles : ∀ step ∈ (lengthChain a b).steps, registry.Settles value step := by
    simp only [lengthChain, List.forall_mem_cons]
    exact ⟨⟨_, _, hmin, hlow, lengthVerdict_ne_skip⟩,
      ⟨_, _, hmax, hhigh, lengthVerdict_ne_skip⟩, List.forall_mem_nil _⟩
  have hfailures : registry.failures value (lengthChain a b).steps =
      lengthFailures a b value := by
    have hfirst : (registry.failure? value ⟨"min_len", [toString a]⟩).toList = _ :=
      Registry.failure?_of_check hmin hlow
    have hsecond : (registry.failure? value ⟨"max_len", [toString b]⟩).toList = _ :=
      Registry.failure?_of_check hmax hhigh
    rw [lengthChain, Registry.failures_cons, Registry.failures_cons, hfirst, hsecond]
    exact congrArg _ (List.append_nil _)
  rw [validateInput, parse, delimiters, hdelimiters, parse_lengths,
    validate_of_settles hblank hsettles, hfailures]

/-- The length rules mean what they say. A value is valid if its length is within the bounds; of a
length that is not, the rules that it breaks are reported, and of a value without a length both. -/
theorem length_rules_exact (value : Value) {a b : ℕ} (ha : a < 2 ^ 64) (hb : b < 2 ^ 64) :
    let engine : Engine := ⟨.withBuiltins .standard⟩
    ∃ report, (engine.validateInput value s!"min_len::{a}->max_len::{b}").result = .ok report ∧
      report.outcome = .exhausted ∧
      (report.valid = true ↔ ∃ n, value.HasLength n ∧ a ≤ n ∧ n ≤ b) ∧
      (∀ n, value.HasLength n → report.messages.map Prod.fst =
        (if n < a then ["min_len"] else []) ++ if b < n then ["max_len"] else []) ∧
      ((∀ n, ¬ value.HasLength n) → report.messages.map Prod.fst = ["min_len", "max_len"]) := by
  have hmin : (Registry.withBuiltins .standard).validator? "min_len" =
      some { check := minLength } :=
    Registry.validator?_withBuiltins (by simp [validators, validatorsWith]) (by decide +kernel)
  have hmax : (Registry.withBuiltins .standard).validator? "max_len" =
      some { check := maxLength } :=
    Registry.validator?_withBuiltins (by simp [validators, validatorsWith]) (by decide +kernel)
  have hrun := validateInput_lengths (.withBuiltins .standard)
    (Registry.delimiters_withBuiltins .standard) hmin hmax value ha hb
  refine ⟨_, hrun, Report.outcome_recordAll _ _, ?_, fun n hn => ?_, fun hnone => ?_⟩
  · rw [(Report.sumsUp_nil.recordAll _).valid_iff, List.nil_append, lengthFailures_eq_nil_iff]
  · have hlow : atLeast a value = .pass ↔ ¬ n < a := (atLeast_eq_pass_iff hn).trans not_lt.symm
    have hhigh : atMost b value = .pass ↔ ¬ b < n := (atMost_eq_pass_iff hn).trans not_lt.symm
    rw [keys_lengthFailures]
    simp only [hlow, hhigh, ite_not]
  · have hlow : atLeast a value ≠ .pass := lengthVerdict_ne_pass hnone
    have hhigh : atMost b value ≠ .pass := lengthVerdict_ne_pass hnone
    rw [keys_lengthFailures, if_neg hlow, if_neg hhigh]
    rfl

/-- Two characters are too few, though three bytes encode them; the upper bound is the greatest
that can be read. -/
theorem length_rules_exact_accent :
    3 < 2 ^ 64 ∧ 2 ^ 64 - 1 < 2 ^ 64 ∧
    ∃ report, (validateInput ⟨.withBuiltins .standard⟩ (.str "né")
        "min_len::3->max_len::18446744073709551615").result = .ok report ∧
      report.outcome = .exhausted ∧ report.valid = false ∧
      report.messages.map Prod.fst = ["min_len"] := by
  have hlow : 3 < 2 ^ 64 := by decide
  have hhigh : 2 ^ 64 - 1 < 2 ^ 64 := by decide
  have htext : s!"min_len::{3}->max_len::{2 ^ 64 - 1}" =
      "min_len::3->max_len::18446744073709551615" := by decide +kernel
  have hlength : Value.HasLength (.str "né") 2 := .text "né"
  obtain ⟨report, hrun, houtcome, hvalid, hkeys, -⟩ := length_rules_exact (.str "né") hlow hhigh
  refine ⟨hlow, hhigh, report, htext ▸ hrun, houtcome, ?_, hkeys 2 hlength⟩
  rw [← Bool.not_eq_true, hvalid]
  rintro ⟨n, hn, hle, -⟩
  obtain rfl := hn.unique hlength
  exact absurd hle (by decide)

end Engine

end ValueRules
