import ValueRules.Engine
import ValueRules.Proofs.Report.Failures

/-!
The result of a run of validators in closed form. Everything is decided by the first step at which
the run stops, because its name is not stored, its validator refuses to work, or it skips the rest;
`validate_closed_form` says what is returned there.
-/

namespace ValueRules

@[simp] theorem Run.result_after {α : Type} (run : Run α) (invocation : Invocation)
    (events : List Event) : (run.after invocation events).result = run.result :=
  rfl

namespace Verdict

/-- What a verdict leaves in the report under a name. -/
def failures (name : String) : Verdict → Failures
  | fail messages => [(name, messages)]
  | pass | skip => []

theorem names_failures {verdict : Verdict} (h : verdict ≠ skip) (name : String) :
    (verdict.failures name).map Prod.fst = if verdict = pass then [] else [name] := by
  cases verdict with
  | skip => exact absurd rfl h
  | _ => rfl

end Verdict

namespace Registry

/-- What the validator of a step says, if there is one of this name. -/
def verdict? (registry : Registry) (value : Value) (step : Step) :
    Option (Except ProcedureError Verdict) :=
  (registry.validator? step.name).map fun validator => validator.check value step.args

/-- No step is run after this one. -/
def stopsAt (registry : Registry) (value : Value) (step : Step) : Bool :=
  match registry.verdict? value step with
  | none | some (.error _) => true
  | some (.ok verdict) => verdict = .skip

/-- How many steps are run before the one that stops the run; all of them if none does. -/
def stopIndex (registry : Registry) (value : Value) (steps : List Step) : Nat :=
  steps.findIdx (registry.stopsAt value)

theorem stopIndex_cons_of_stopsAt {registry : Registry} {value : Value} {step : Step}
    (h : registry.stopsAt value step = true) (steps : List Step) :
    registry.stopIndex value (step :: steps) = 0 := by
  rw [stopIndex, List.findIdx_cons, h, cond_true]

theorem stopIndex_cons_of_not_stopsAt {registry : Registry} {value : Value} {step : Step}
    (h : registry.stopsAt value step = false) (steps : List Step) :
    registry.stopIndex value (step :: steps) = registry.stopIndex value steps + 1 := by
  rw [stopIndex, List.findIdx_cons, h, cond_false, stopIndex]

def failure? (registry : Registry) (value : Value) (step : Step) :
    Option (String × List String) :=
  match registry.verdict? value step with
  | some (.ok (.fail messages)) => some (step.name, messages)
  | _ => none

/-- The names and messages of the steps that fail, in order. -/
def failures (registry : Registry) (value : Value) (steps : List Step) : Failures :=
  steps.filterMap (registry.failure? value)

theorem failures_cons (registry : Registry) (value : Value) (step : Step) (steps : List Step) :
    registry.failures value (step :: steps) =
      (registry.failure? value step).toList ++ registry.failures value steps := by
  rw [failures, List.filterMap_cons, failures]
  cases registry.failure? value step <;> rfl

/-- What is returned at the step that stops the run, or after the last one. -/
def conclude (registry : Registry) (value : Value) (position : Nat) (report : Report) :
    Option Step → Except ChainError Report
  | none => .ok report
  | some step =>
    match registry.verdict? value step with
    | none => .error (.unknown .validator step.name position)
    | some (.error source) => .error (.procedure step.name position source)
    | some (.ok _) => .ok { report with outcome := .skipped position }

def answerEvents (position : Nat) (name : String) : Except ProcedureError Verdict → List Event
  | .ok (.fail _) => [.failed position name]
  | .ok .skip => [.skipped position name]
  | .ok .pass | .error _ => []

/-- The call of a step among validators, with the event logged before it and that of its answer. -/
def validatorCall? (registry : Registry) (value : Value) (position : Nat) (step : Step) :
    Option (Invocation × List Event) :=
  (registry.validator? step.name).map fun validator =>
    (⟨position, .validator validator, value, step.args⟩,
      .running position step.name ::
        answerEvents position step.name (validator.check value step.args))

/-- A step that stops the run is the first and last to be looked at. -/
theorem validateSteps_of_stopsAt {registry : Registry} {value : Value} {step : Step}
    (h : registry.stopsAt value step = true) (position : Nat) (report : Report)
    (steps : List Step) :
    registry.validateSteps value position report (step :: steps) =
      { result := registry.conclude value position report (some step)
        invocations := (registry.validatorCall? value position step).toList.map Prod.fst
        events := (registry.validatorCall? value position step).toList.flatMap Prod.snd } := by
  rw [stopsAt, verdict?] at h
  rw [validateSteps, conclude, verdict?, validatorCall?]
  cases hv : registry.validator? step.name with
  | none => rfl
  | some validator =>
    rw [hv, Option.map_some] at h
    simp only [Option.map_some]
    cases hc : validator.check value step.args with
    | error source => rfl
    | ok verdict =>
      obtain rfl : verdict = .skip := by simpa [hc] using h
      rfl

/-- Any other step makes its call and leaves the run to those behind it, with its failure
recorded. -/
theorem validateSteps_of_not_stopsAt {registry : Registry} {value : Value} {step : Step}
    (h : registry.stopsAt value step = false) (position : Nat) (report : Report)
    (steps : List Step) :
    ∃ call, registry.validatorCall? value position step = some call ∧
      registry.validateSteps value position report (step :: steps) =
        (registry.validateSteps value (position + 1)
          (report.recordAll (registry.failure? value step).toList) steps).after call.1 call.2 := by
  rw [stopsAt, verdict?] at h
  rw [validateSteps, failure?, verdict?, validatorCall?]
  cases hv : registry.validator? step.name with
  | none => simp [hv] at h
  | some validator =>
    rw [hv, Option.map_some] at h
    simp only [Option.map_some]
    cases hc : validator.check value step.args with
    | error source => simp [hc] at h
    | ok verdict =>
      cases verdict with
      | pass => exact ⟨_, rfl, rfl⟩
      | fail messages => exact ⟨_, rfl, rfl⟩
      | skip => simp [hc] at h

theorem validateSteps_result (registry : Registry) (value : Value) (position : Nat)
    (report : Report) (steps : List Step) :
    (registry.validateSteps value position report steps).result =
      registry.conclude value (position + registry.stopIndex value steps)
        (report.recordAll
          (registry.failures value (steps.take (registry.stopIndex value steps))))
        steps[registry.stopIndex value steps]? := by
  -- The position and the report are those that the steps before have left.
  induction steps generalizing position report with
  | nil => rfl
  | cons step steps ih =>
    cases h : registry.stopsAt value step with
    | true =>
      rw [stopIndex_cons_of_stopsAt h, validateSteps_of_stopsAt h]
      rfl
    | false =>
      obtain ⟨call, -, hrun⟩ := validateSteps_of_not_stopsAt h position report steps
      rw [stopIndex_cons_of_not_stopsAt h, hrun, Run.result_after, ih, List.take_succ_cons,
        failures_cons, Report.recordAll_append, List.getElem?_cons_succ, Nat.add_right_comm,
        Nat.add_assoc]

theorem failure?_of_check {registry : Registry} {value : Value} {step : Step}
    {validator : Validator} {verdict : Verdict}
    (hstored : registry.validator? step.name = some validator)
    (hcheck : validator.check value step.args = .ok verdict) :
    (registry.failure? value step).toList = verdict.failures step.name := by
  rw [failure?, verdict?, hstored, Option.map_some, hcheck]
  cases verdict <;> rfl

/-- The validator of the step is stored, and it passes or fails. -/
def Settles (registry : Registry) (value : Value) (step : Step) : Prop :=
  ∃ validator verdict, registry.validator? step.name = some validator ∧
    validator.check value step.args = .ok verdict ∧ verdict ≠ .skip

theorem Settles.not_stopsAt {registry : Registry} {value : Value} {step : Step}
    (h : registry.Settles value step) : registry.stopsAt value step = false := by
  obtain ⟨validator, verdict, hstored, hcheck, hskip⟩ := h
  simp [stopsAt, verdict?, hstored, hcheck, hskip]

/-- Steps that all settle the value are all run, and their failures are all recorded. -/
theorem validateSteps_of_settles {registry : Registry} {value : Value} {steps : List Step}
    (h : ∀ step ∈ steps, registry.Settles value step) (position : Nat) (report : Report) :
    (registry.validateSteps value position report steps).result =
      .ok (report.recordAll (registry.failures value steps)) := by
  have hindex : registry.stopIndex value steps = steps.length :=
    List.findIdx_eq_length_of_false fun step hstep => (h step hstep).not_stopsAt
  rw [validateSteps_result, hindex, List.take_length, List.getElem?_eq_none (Nat.le_refl _),
    conclude]

end Registry

namespace Engine

theorem validate_of_settles {engine : Engine} {value : Value} {chain : Chain}
    (hchain : chain.isBlank = false)
    (h : ∀ step ∈ chain.steps, engine.registry.Settles value step) :
    (engine.validate value chain).result =
      .ok (Report.recordAll {} (engine.registry.failures value chain.steps)) := by
  simp [validate, hchain, Registry.validateSteps_of_settles h]

/-- Validation in closed form. With `k` the first step that stops the run, the error is that of
step `k` or the report sums up the failures before it. -/
theorem validate_closed_form (engine : Engine) (value : Value) (chain : Chain)
    (hchain : chain.isBlank = false) :
    let k := engine.registry.stopIndex value chain.steps
    let failures := engine.registry.failures value (chain.steps.take k)
    let result := (engine.validate value chain).result
    match chain.steps[k]? with
    | none => k = chain.length ∧
      ∃ report, result = .ok report ∧ report.SumsUp failures ∧ report.outcome = .exhausted ∧
        (report.valid = false ↔ report.messages ≠ [])
    | some step =>
      match engine.registry.verdict? value step with
      | none => result = .error (.unknown .validator step.name k)
      | some (.error source) => result = .error (.procedure step.name k source)
      | some (.ok verdict) => verdict = .skip ∧
        ∃ report, result = .ok report ∧ report.SumsUp failures ∧ report.outcome = .skipped k ∧
          (report.valid = false ↔ report.messages ≠ []) := by
  intro k failures result
  have hresult : result = engine.registry.conclude value k (Report.recordAll {} failures)
      chain.steps[k]? := by
    have hrun := engine.registry.validateSteps_result value 0 {} chain.steps
    rw [Nat.zero_add] at hrun
    rw [← hrun]
    simp [result, validate, hchain]
  have hsums : (Report.recordAll {} failures).SumsUp failures :=
    Report.sumsUp_nil.recordAll failures
  cases hstep : chain.steps[k]? with
  | none =>
    rw [hstep] at hresult
    refine ⟨?_, _, hresult, hsums, Report.outcome_recordAll _ _, hsums.valid_eq_false_iff⟩
    exact Nat.le_antisymm List.findIdx_le_length (List.getElem?_eq_none_iff.mp hstep)
  | some step =>
    have hstops : engine.registry.stopsAt value step = true :=
      List.findIdx_of_getElem?_eq_some hstep
    rw [hstep, Registry.conclude] at hresult
    rw [Registry.stopsAt] at hstops
    cases hverdict : engine.registry.verdict? value step with
    | none => simpa only [hverdict] using hresult
    | some answer =>
      cases answer with
      | error source => simpa only [hverdict] using hresult
      | ok verdict =>
        have hskip : verdict = .skip := by simpa [hverdict] using hstops
        simp only [hverdict] at hresult ⊢
        have hsums' : ({ Report.recordAll {} failures with outcome := .skipped k } :
            Report).SumsUp failures := ⟨hsums.valid_iff, hsums.keys_eq, hsums.get?_eq⟩
        exact ⟨hskip, _, hresult, hsums', rfl, hsums'.valid_eq_false_iff⟩

/-- The second failure of a name carries no message and still counts; the step after the one that
skips is not stored and is never looked at. -/
theorem validate_closed_form_skip :
    let echo : Validator := { check := fun _ args => .ok (.fail args) }
    let stop : Validator := { check := fun _ _ => .ok .skip }
    let engine : Engine :=
      ⟨(Registry.insert {} "echo" (.validator echo)).insert "stop" (.validator stop)⟩
    let chain : Chain := ⟨[⟨"echo", ["a", "b"]⟩, ⟨"echo", []⟩, ⟨"stop", []⟩, ⟨"gone", []⟩]⟩
    chain.isBlank = false ∧
    ∃ report, (engine.validate .null chain).result = .ok report ∧
      report.SumsUp [("echo", ["a", "b"]), ("echo", [])] ∧ report.outcome = .skipped 2 ∧
      (report.valid = false ↔ report.messages ≠ []) := by
  intro echo stop engine chain
  have hchain : chain.isBlank = false := by decide
  exact ⟨hchain, (validate_closed_form engine .null chain hchain).2⟩

end Engine

end ValueRules
