import ValueRules.Proofs.Engine.Validation
import ValueRules.Proofs.Report.Joined

/-!
Validators that settle a value, by passing or failing, can run in any order. Only the failures of
one name overwrite each other, so the steps of each name have to stay in their order;
`validate_reordered` says that then nothing but the order of the messages changes.
-/

namespace ValueRules

namespace Failures

/-- The failures of one name. -/
def named (name : String) (failures : Failures) : Failures :=
  failures.filter fun failure => failure.1 = name

theorem lookup_named (name : String) (failures : Failures) :
    (named name failures).lookup name = failures.lookup name := by
  induction failures with
  | nil => rfl
  | cons failure failures ih =>
    obtain ⟨key, found⟩ := failure
    rw [named, Messages.lookup_cons_eq]
    by_cases h : name = key
    · rw [List.filter_cons_of_pos (by simpa using h.symm), Messages.lookup_cons_eq, if_pos h,
        if_pos h]
    · rw [List.filter_cons_of_neg (by simpa using Ne.symm h), if_neg h]
      exact ih

end Failures

namespace Report

/-- What is found under a name comes from the failures of this name alone. -/
theorem get?_recordAll_congr {failures others : Failures} {name : String}
    (h : failures.named name = others.named name) :
    (recordAll {} failures).messages.get? name = (recordAll {} others).messages.get? name := by
  have hfound (failures : Failures) : (recordAll {} failures).messages.get? name =
      (failures.named name).reverse.lookup name := by
    have hreverse : (failures.named name).reverse = Failures.named name failures.reverse :=
      List.filter_reverse.symm
    rw [(sumsUp_nil.recordAll failures).get?_eq, List.nil_append, hreverse, Failures.lookup_named]
  rw [hfound, hfound, h]

end Report

namespace Chain

/-- The same steps in another order, in which those of one name stay in theirs. -/
structure Reorders (first second : Chain) : Prop where
  perm : first.steps.Perm second.steps
  same_order : ∀ name, first.steps.filter (·.name = name) = second.steps.filter (·.name = name)

theorem Reorders.isBlank_eq {first second : Chain} (h : first.Reorders second) :
    first.isBlank = second.isBlank := by
  have hnil : first.steps = [] ↔ second.steps = [] :=
    ⟨fun hfirst => (hfirst ▸ h.perm).symm.eq_nil, fun hsecond => (hsecond ▸ h.perm).eq_nil⟩
  have hsingle (step : Step) : first.steps = [step] ↔ second.steps = [step] :=
    ⟨fun hfirst => List.perm_singleton.mp (hfirst ▸ h.perm).symm,
      fun hsecond => List.perm_singleton.mp (hsecond ▸ h.perm)⟩
  rw [isBlank, isBlank]
  simp only [hnil, hsingle]

end Chain

namespace Registry

theorem name_of_failure? {registry : Registry} {value : Value} {step : Step}
    {failure : String × List String} (h : registry.failure? value step = some failure) :
    failure.1 = step.name := by
  unfold failure? at h
  split at h
  · exact Option.some.inj h ▸ rfl
  · exact absurd h (by simp)

theorem named_failures (registry : Registry) (value : Value) (name : String)
    (steps : List Step) :
    (registry.failures value steps).named name =
      registry.failures value (steps.filter (·.name = name)) := by
  rw [failures, failures, Failures.named, List.filter_filterMap, List.filterMap_filter]
  refine List.filterMap_congr fun step _ => ?_
  cases hfailure : registry.failure? value step with
  | none => simp
  | some failure => simp [Option.filter_some, name_of_failure? hfailure]

end Registry

namespace Engine

/-- Validators that pass or fail commute, as long as those of one name keep their order. -/
theorem validate_reordered (engine : Engine) (value : Value) {first second : Chain}
    (horder : first.Reorders second)
    (hsettles : ∀ step ∈ first.steps, engine.registry.Settles value step) :
    ∃ report later, (engine.validate value first).result = .ok report ∧
      (engine.validate value second).result = .ok later ∧
      report.outcome = .exhausted ∧ later.outcome = .exhausted ∧ report.valid = later.valid ∧
      (∀ name, report.messages.get? name = later.messages.get? name) ∧
      report.messages.Perm later.messages := by
  have hsettles' : ∀ step ∈ second.steps, engine.registry.Settles value step := fun step hstep =>
    hsettles step (horder.perm.mem_iff.mpr hstep)
  by_cases hblank : first.isBlank = true
  · have hblank' : second.isBlank = true := horder.isBlank_eq ▸ hblank
    exact ⟨{}, {}, by simp [validate, hblank], by simp [validate, hblank'], rfl, rfl, rfl,
      fun _ => rfl, .refl _⟩
  · rw [Bool.not_eq_true] at hblank
    have hblank' : second.isBlank = false := horder.isBlank_eq ▸ hblank
    let failures := engine.registry.failures value first.steps
    let later := engine.registry.failures value second.steps
    -- As a whole the failures are in another order, and those of one name are not.
    have hperm : failures.Perm later := horder.perm.filterMap _
    have hget (name : String) : (Report.recordAll {} failures).messages.get? name =
        (Report.recordAll {} later).messages.get? name := by
      apply Report.get?_recordAll_congr
      rw [engine.registry.named_failures, engine.registry.named_failures, horder.same_order]
    refine ⟨_, _, validate_of_settles hblank hsettles, validate_of_settles hblank' hsettles',
      Report.outcome_recordAll _ _, Report.outcome_recordAll _ _, ?_, hget, ?_⟩
    · rw [Report.valid_recordAll, Report.valid_recordAll, hperm.isEmpty_eq]
    · exact (Report.distinct_recordAll _).perm_of_get? (Report.distinct_recordAll _) hget

/-- Of the two failures of one name the second counts on both sides; the step that moves to the
front takes the place of its messages along. -/
theorem validate_reordered_echo :
    let echo : Validator := { check := fun _ args => .ok (.fail args) }
    let engine : Engine :=
      ⟨(Registry.insert {} "echo" (.validator echo)).insert "other" (.validator echo)⟩
    let first : Chain := ⟨[⟨"echo", ["a"]⟩, ⟨"echo", ["b"]⟩, ⟨"other", ["c"]⟩]⟩
    let second : Chain := ⟨[⟨"other", ["c"]⟩, ⟨"echo", ["a"]⟩, ⟨"echo", ["b"]⟩]⟩
    first.Reorders second ∧ (∀ step ∈ first.steps, engine.registry.Settles .null step) ∧
    (∃ report later, (engine.validate .null first).result = .ok report ∧
      (engine.validate .null second).result = .ok later ∧
      report.outcome = .exhausted ∧ later.outcome = .exhausted ∧ report.valid = later.valid ∧
      (∀ name, report.messages.get? name = later.messages.get? name) ∧
      report.messages.Perm later.messages) ∧
    (engine.validate .null first).result =
      .ok { valid := false, messages := [("echo", ["b"]), ("other", ["c"])] } ∧
    (engine.validate .null second).result =
      .ok { valid := false, messages := [("other", ["c"]), ("echo", ["b"])] } := by
  intro echo engine first second
  have horder : first.Reorders second := by
    refine ⟨by decide, fun name => ?_⟩
    by_cases hname : "other" = name
    · subst hname
      decide
    · simp [first, second, List.filter_cons, hname]
  have hsettles : ∀ step ∈ first.steps, engine.registry.Settles .null step := by
    have hstored : ∀ step ∈ first.steps,
        engine.registry.validator? step.name = some echo := by
      simp only [first, List.forall_mem_cons]
      exact ⟨rfl, rfl, rfl, List.forall_mem_nil _⟩
    exact fun step hstep => ⟨echo, .fail step.args, hstored step hstep, rfl, by simp⟩
  exact ⟨horder, hsettles, validate_reordered engine .null horder hsettles, rfl, rfl⟩

end Engine

end ValueRules
