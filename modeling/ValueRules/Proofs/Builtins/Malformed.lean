import ValueRules.Builtins.Filters
import ValueRules.Builtins.Validators

/-!
What is wrong with the arguments of a step. All stock procedures but one read their arguments before
they look at the value, so an error about them comes with every value. `matchesPattern` does not
read its pattern if the value is not a text, and a malformed one is then not told
(`malformed_arguments_reported`).
-/

namespace ValueRules

/-- The error is about the texts of a step and not about the value. -/
def ProcedureError.isOfArguments : ProcedureError → Bool
  | missingArgument _ _ | invalidArgument _ _ => true
  | unsupportedValue _ _ | custom _ => false

namespace Builtins

/-- An error about the arguments that comes with one value comes with every value. -/
def ReadsArgumentsFirst {α : Type} (run : Value → Except ProcedureError α) : Prop :=
  ∀ v w error, error.isOfArguments → run v = .error error → run w = .error error

section

variable {α β : Type}

/-- What fails for the sake of the value only has no fault to find with the arguments. -/
theorem readsArgumentsFirst_of_forall {run : Value → Except ProcedureError α}
    (h : ∀ value error, run value = .error error → error.isOfArguments = false) :
    ReadsArgumentsFirst run := by
  intro v w error hargs hv
  rw [h v error hv] at hargs
  exact absurd hargs (by decide)

theorem readsArgumentsFirst_ok (f : Value → α) :
    ReadsArgumentsFirst fun value => .ok (f value) := by
  apply readsArgumentsFirst_of_forall
  intro value error h
  cases h

theorem readsArgumentsFirst_const (result : Except ProcedureError α) :
    ReadsArgumentsFirst fun _ => result :=
  fun _ _ _ _ h => h

theorem ReadsArgumentsFirst.bind (read : Except ProcedureError β)
    {run : β → Value → Except ProcedureError α}
    (h : ∀ argument, ReadsArgumentsFirst (run argument)) :
    ReadsArgumentsFirst fun value => read >>= fun argument => run argument value := by
  cases read with
  | error error => exact readsArgumentsFirst_const (.error error)
  | ok argument => exact h argument

end

variable (args : List String)

theorem toInt_readsArgumentsFirst : ReadsArgumentsFirst fun value => toInt value args := by
  apply readsArgumentsFirst_of_forall
  intro value error h
  unfold toInt at h
  dsimp only at h
  split at h
  · cases h
  · cases h
    rfl

theorem toFloat_readsArgumentsFirst : ReadsArgumentsFirst fun value => toFloat value args := by
  apply readsArgumentsFirst_of_forall
  intro value error h
  unfold toFloat at h
  split at h
  · cases h
  · cases h
    rfl

theorem replace_readsArgumentsFirst : ReadsArgumentsFirst fun value => replace value args := by
  apply ReadsArgumentsFirst.bind
  intro old
  by_cases hempty : old = ""
  · simp only [if_pos hempty]
    exact readsArgumentsFirst_const _
  · simp only [if_neg hempty]
    exact readsArgumentsFirst_ok _

theorem between_readsArgumentsFirst : ReadsArgumentsFirst fun value => between value args := by
  apply ReadsArgumentsFirst.bind
  intro lo
  apply ReadsArgumentsFirst.bind
  intro hi
  by_cases hgt : lo.gt hi = true
  · simp only [if_pos hgt]
    exact readsArgumentsFirst_const _
  · simp only [if_neg hgt]
    exact readsArgumentsFirst_ok _

theorem filters_readArgumentsFirst :
    ∀ entry ∈ filters, ReadsArgumentsFirst fun value => entry.2.apply value args := by
  simp only [filters, List.forall_mem_cons]
  refine ⟨readsArgumentsFirst_ok _, readsArgumentsFirst_ok _, readsArgumentsFirst_ok _,
    toInt_readsArgumentsFirst args, toFloat_readsArgumentsFirst args, ?_,
    replace_readsArgumentsFirst args, by simp⟩
  exact ReadsArgumentsFirst.bind _ fun fallback => readsArgumentsFirst_ok _

section

variable {ε α : Type} (matcher : Pattern.Matcher ε α)

/-- All validators but the one that looks for a pattern. -/
theorem validators_readArgumentsFirst :
    ∀ entry ∈ validatorsWith matcher, entry.1 ≠ "matches" →
      ReadsArgumentsFirst fun value => entry.2.check value args := by
  simp only [validatorsWith, List.forall_mem_cons]
  -- One goal for each entry, in the order of the list.
  refine ⟨?_, ?_, ?_, ?_, ?_, ?_, ?_, ?_, ?_, ?_, by simp⟩ <;> intro hname
  · exact readsArgumentsFirst_ok _
  · exact readsArgumentsFirst_ok _
  · exact readsArgumentsFirst_ok _
  · exact readsArgumentsFirst_ok _
  · exact ReadsArgumentsFirst.bind _ fun least => readsArgumentsFirst_ok _
  · exact ReadsArgumentsFirst.bind _ fun greatest => readsArgumentsFirst_ok _
  · exact between_readsArgumentsFirst args
  · exact absurd rfl hname
  · exact ReadsArgumentsFirst.bind _ fun choice => readsArgumentsFirst_ok _
  · exact readsArgumentsFirst_ok _

theorem exists_text {value : Value} (h : value.kindName = "string") :
    ∃ text, value = .str text := by
  cases value with
  | str text => exact ⟨text, rfl⟩
  | _ => simp [Value.kindName] at h

/-- What a text gives depends on its pattern. -/
theorem matchesPattern_text (text pattern : String) (rest : List String) :
    matchesPattern matcher (.str text) (pattern :: rest) =
      match Pattern.limited matcher.read pattern with
      | .ok compiled =>
        .ok (.check (matcher.isFoundIn compiled text) "has an invalid format")
      | .error refusal => .error (.invalidArgument "pattern" (refusal.message matcher.tell)) :=
  rfl

/-- A value that is not a text fails without a look at the pattern. -/
theorem matchesPattern_of_other {value : Value} (h : value.kindName ≠ "string") (pattern : String)
    (rest : List String) :
    matchesPattern matcher value (pattern :: rest) = .ok (.fail ["has an invalid format"]) := by
  cases value with
  | str text => exact absurd rfl h
  | _ => rfl

variable {matcher}

theorem matchesPattern_of_error {args : List String} {v : Value} {error : ProcedureError}
    (h : matchesPattern matcher v args = .error error) (w : Value) :
    matchesPattern matcher w args =
      if args ≠ [] ∧ w.kindName ≠ "string" then .ok (.fail ["has an invalid format"])
      else .error error := by
  cases args with
  | nil =>
    -- The missing pattern is noticed before the value is.
    rw [if_neg fun hne => hne.1 rfl]
    exact h
  | cons pattern rest =>
    by_cases hv : v.kindName = "string"
    · obtain ⟨text, rfl⟩ := exists_text hv
      rw [matchesPattern_text] at h
      split at h
      · cases h
      · rename_i hrefusal
        -- The pattern is the same for both, but only a text has it compiled.
        by_cases hw : w.kindName = "string"
        · obtain ⟨other, rfl⟩ := exists_text hw
          rw [if_neg fun hne => hne.2 hw, matchesPattern_text, hrefusal]
          exact h
        · rw [if_pos ⟨List.cons_ne_nil _ _, hw⟩, matchesPattern_of_other matcher hw]
    · rw [matchesPattern_of_other matcher hv] at h
      cases h

end

/-- An error about the arguments comes with every value, whatever the language of the patterns,
unless it is about a pattern: then a value that is not a text fails instead. -/
theorem malformed_arguments_reported {ε α : Type} (matcher : Pattern.Matcher ε α)
    {args : List String} {error : ProcedureError} (hargs : error.isOfArguments) (v w : Value) :
    (∀ name filter, (name, filter) ∈ filters → filter.apply v args = .error error →
      filter.apply w args = .error error) ∧
    ∀ name validator, (name, validator) ∈ validatorsWith matcher →
      validator.check v args = .error error →
      validator.check w args =
        if name = "matches" ∧ args ≠ [] ∧ w.kindName ≠ "string" then
          .ok (.fail ["has an invalid format"])
        else .error error := by
  constructor
  · intro name filter hmem hv
    exact filters_readArgumentsFirst args _ hmem v w error hargs hv
  · intro name validator hmem hv
    by_cases hname : name = "matches"
    · obtain rfl : validator = { check := matchesPattern matcher } := by
        subst hname
        simpa [validatorsWith] using hmem
      have hw := matchesPattern_of_error hv w
      simp only [hname, true_and]
      exact hw
    · rw [if_neg fun h => hname h.1]
      exact validators_readArgumentsFirst args matcher _ hmem hname v w error hargs hv

/-- An empty text cannot be replaced, whatever the value. A group that is not closed is no pattern,
which is told of every text and of no other value. -/
theorem malformed_arguments_reported_empty :
    replace .null ["", "x"] = .error (.invalidArgument "from" "must not be empty") ∧
    (∃ reason,
      matchesPattern Pattern.matcher (.str "a") ["("] =
        .error (.invalidArgument "pattern" reason) ∧
      matchesPattern Pattern.matcher (.str "b") ["("] =
        .error (.invalidArgument "pattern" reason)) ∧
    matchesPattern Pattern.matcher .null ["("] = .ok (.fail ["has an invalid format"]) := by
  have hreplace : replace (.str "a") ["", "x"] =
      .error (.invalidArgument "from" "must not be empty") := rfl
  obtain ⟨reason, hmatches⟩ : ∃ reason, matchesPattern Pattern.matcher (.str "a") ["("] =
      .error (.invalidArgument "pattern" reason) := ⟨_, rfl⟩
  have hfilters := (malformed_arguments_reported Pattern.matcher rfl (.str "a") .null).1 "replace"
    { apply := replace } (by simp [filters]) hreplace
  have hvalidators (w : Value) :=
    (malformed_arguments_reported Pattern.matcher rfl (.str "a") w).2 "matches"
      { check := matchesPattern Pattern.matcher } (by simp [validatorsWith]) hmatches
  exact ⟨hfilters, ⟨reason, hmatches, hvalidators (.str "b")⟩, hvalidators .null⟩

/-- A pattern that is malformed for a text is not so for a value of another kind. -/
theorem malformed_pattern_untold :
    (∃ reason, matchesPattern Pattern.matcher (.str "") ["("] =
      .error (.invalidArgument "pattern" reason)) ∧
    matchesPattern Pattern.matcher .null ["("] = .ok (.fail ["has an invalid format"]) :=
  ⟨⟨_, rfl⟩, rfl⟩

end Builtins

end ValueRules
