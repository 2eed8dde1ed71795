import ValueRules.Proofs.Engine.Validation
import ValueRules.Proofs.Report.Joined

/-!
One chain behind another. A run over both is a run over the first one and, unless that ended it, a
run over the second one from there (`filterSteps_append`, `validateSteps_append`).
`run_concat` says what this makes of the results of two runs that each count from zero.
-/

namespace ValueRules

namespace Run

variable {α : Type}

/-- Goes on from what a run returned; a run that failed is over. -/
def andThen (run : Run α) (next : α → Run α) : Run α :=
  match run.result with
  | .error _ => run
  | .ok reached =>
    { result := (next reached).result
      invocations := run.invocations ++ (next reached).invocations
      events := run.events ++ (next reached).events }

@[simp] theorem andThen_after (run : Run α) (invocation : Invocation) (events : List Event)
    (next : α → Run α) :
    (run.after invocation events).andThen next = (run.andThen next).after invocation events := by
  cases hresult : run.result <;> simp [andThen, after, hresult]

@[simp] theorem andThen_error (error : ChainError) (next : α → Run α) :
    andThen { result := .error error } next = { result := .error error } :=
  rfl

@[simp] theorem andThen_ok (reached : α) (next : α → Run α) :
    andThen { result := .ok reached } next = next reached :=
  rfl

theorem andThen_of_error {run : Run α} {error : ChainError} (h : run.result = .error error)
    (next : α → Run α) : run.andThen next = run := by
  rw [andThen, h]

theorem andThen_of_ok {run : Run α} {reached : α} (h : run.result = .ok reached)
    (next : α → Run α) :
    run.andThen next =
      { result := (next reached).result
        invocations := run.invocations ++ (next reached).invocations
        events := run.events ++ (next reached).events } := by
  rw [andThen, h]

theorem result_andThen (run : Run α) (next : α → Run α) :
    (run.andThen next).result = run.result.bind fun reached => (next reached).result := by
  cases hresult : run.result <;> simp [andThen, hresult, Except.bind]

end Run

namespace ChainError

/-- The same error, counted from the beginning of a chain that has `offset` steps before. -/
def shift (offset : Nat) : ChainError → ChainError
  | unknown side name position => unknown side name (position + offset)
  | procedure name position source => procedure name (position + offset) source

end ChainError

namespace Registry

theorem filterSteps_append (registry : Registry) (position : Nat) (value : Value)
    (first second : List Step) :
    registry.filterSteps position value (first ++ second) =
      (registry.filterSteps position value first).andThen fun reached =>
        registry.filterSteps (position + first.length) reached second := by
  -- Each step of the first chain hands its value on, and moves the seam one position nearer.
  induction first generalizing position value with
  | nil => rfl
  | cons step first ih =>
    rw [List.cons_append, filterSteps, filterSteps]
    cases registry.filter? step.name with
    | none => rfl
    | some filter =>
      cases happly : filter.apply value step.args with
      | error source => simp [happly]
      | ok output =>
        simp only [happly, ih, Run.andThen_after, List.length_cons]
        rw [Nat.add_right_comm, Nat.add_assoc]

/-- A report that a validator cut short is not added to. -/
def validateOn (registry : Registry) (value : Value) (position : Nat) (report : Report)
    (steps : List Step) : Run Report :=
  if report.wasSkipped then { result := .ok report }
  else registry.validateSteps value position report steps

theorem validateSteps_append (registry : Registry) (value : Value) (position : Nat)
    {report : Report} (hreport : report.outcome = .exhausted) (first second : List Step) :
    registry.validateSteps value position report (first ++ second) =
      (registry.validateSteps value position report first).andThen fun reached =>
        registry.validateOn value (position + first.length) reached second := by
  -- The outcome stays exhausted along the steps that go on, so only a skip keeps the second out.
  induction first generalizing position report with
  | nil => simp [validateSteps, validateOn, Report.wasSkipped, hreport]
  | cons step first ih =>
    have hlength : position + (step :: first).length = position + 1 + first.length := by
      rw [List.length_cons]
      omega
    rw [List.cons_append, validateSteps, validateSteps, hlength]
    cases registry.validator? step.name with
    | none => rfl
    | some validator =>
      cases hcheck : validator.check value step.args with
      | error source => simp [hcheck]
      | ok verdict =>
        cases verdict with
        | pass => simp only [hcheck, ih _ hreport, Run.andThen_after]
        | fail messages =>
          have hrecord : (report.recordFailure step.name messages).outcome = .exhausted := hreport
          simp only [hcheck, ih _ hrecord, Run.andThen_after]
        | skip => simp [hcheck, validateOn, Report.wasSkipped]

/-- Filters are not told where they stand; only an error says it. -/
theorem filterSteps_result_shift (registry : Registry) (position offset : Nat) (value : Value)
    (steps : List Step) :
    (registry.filterSteps (position + offset) value steps).result =
      (registry.filterSteps position value steps).result.mapError (ChainError.shift offset) := by
  induction steps generalizing position value with
  | nil => rfl
  | cons step steps ih =>
    rw [filterSteps, filterSteps]
    cases registry.filter? step.name with
    | none => rfl
    | some filter =>
      cases happly : filter.apply value step.args with
      | error source => simp only [happly]; rfl
      | ok output =>
        simp only [happly, Run.after]
        rw [Nat.add_right_comm, ih]

/-- A run that begins with a report and behind other steps ends as one of its own does, with its
report joined to the first. -/
theorem conclude_joined (registry : Registry) (value : Value) (position offset : Nat)
    {report : Report} (hreport : report.outcome = .exhausted) (hmessages : report.messages.Distinct)
    (failures : Failures) (last : Option Step) :
    registry.conclude value (position + offset) (report.recordAll failures) last =
      ((registry.conclude value position (Report.recordAll {} failures) last).mapError
        (ChainError.shift offset)).map (report.joined offset) := by
  have hjoined := fun outcome => Report.joined_recordAll hmessages offset failures outcome
  cases last with
  | none =>
    -- Nothing ended the run, and recording failures leaves an outcome as it was.
    have hkept {start : Report} (hstart : start.outcome = .exhausted) :
        { start.recordAll failures with outcome := .exhausted } = start.recordAll failures := by
      rw [← hstart, ← Report.outcome_recordAll start failures]
    have hwhole := hjoined .exhausted
    rw [Outcome.shift, hkept hreport, hkept rfl] at hwhole
    exact congrArg Except.ok hwhole.symm
  | some step =>
    rw [conclude, conclude]
    cases registry.verdict? value step with
    | none => rfl
    | some answer =>
      cases answer with
      | error source => rfl
      | ok verdict => exact congrArg Except.ok (hjoined (.skipped position)).symm

theorem validateSteps_result_joined (registry : Registry) (value : Value) (offset : Nat)
    {report : Report} (hreport : report.outcome = .exhausted) (hmessages : report.messages.Distinct)
    (steps : List Step) :
    (registry.validateSteps value offset report steps).result =
      ((registry.validateSteps value 0 {} steps).result.mapError (ChainError.shift offset)).map
        (report.joined offset) := by
  rw [validateSteps_result, validateSteps_result, Nat.zero_add, Nat.add_comm offset]
  exact conclude_joined registry value _ offset hreport hmessages _ _

theorem distinct_of_validateSteps {registry : Registry} {value : Value} {position : Nat}
    {steps : List Step} {report : Report}
    (h : (registry.validateSteps value position {} steps).result = .ok report) :
    report.messages.Distinct := by
  rw [validateSteps_result] at h
  -- However the run came to its report, the messages are those of the failures it recorded.
  cases hlast : steps[registry.stopIndex value steps]? with
  | none =>
    rw [hlast, conclude] at h
    exact Except.ok.inj h ▸ Report.distinct_recordAll _
  | some step =>
    rw [hlast, conclude] at h
    cases hverdict : registry.verdict? value step with
    | none => simp [hverdict] at h
    | some answer =>
      cases answer with
      | error source => simp [hverdict] at h
      | ok verdict =>
        simp only [hverdict] at h
        exact Except.ok.inj h ▸ Report.distinct_recordAll _

/-- What filters return from two chains, the second of which counts from zero. -/
theorem filterSteps_append_result (registry : Registry) (value : Value)
    (first second : List Step) :
    (registry.filterSteps 0 value (first ++ second)).result =
      (registry.filterSteps 0 value first).result.bind fun reached =>
        (registry.filterSteps 0 reached second).result.mapError
          (ChainError.shift first.length) := by
  rw [filterSteps_append, Run.result_andThen, Nat.zero_add]
  refine congrArg _ (funext fun reached => ?_)
  rw [← filterSteps_result_shift, Nat.zero_add]

/-- What validators return from two chains, the second of which counts from zero. -/
theorem validateSteps_append_result (registry : Registry) (value : Value)
    (first second : List Step) :
    (registry.validateSteps value 0 {} (first ++ second)).result =
      (registry.validateSteps value 0 {} first).result.bind fun report =>
        if report.wasSkipped then .ok report
        else ((registry.validateSteps value 0 {} second).result.mapError
          (ChainError.shift first.length)).map (report.joined first.length) := by
  rw [validateSteps_append registry value 0 rfl, Run.result_andThen, Nat.zero_add]
  cases hrun : (registry.validateSteps value 0 {} first).result with
  | error error => rfl
  | ok report =>
    simp only [Except.bind, validateOn]
    by_cases hskipped : report.wasSkipped
    · rw [if_pos hskipped, if_pos hskipped]
    · rw [if_neg hskipped, if_neg hskipped]
      have hreport : report.outcome = .exhausted := by simpa [Report.wasSkipped] using hskipped
      exact registry.validateSteps_result_joined value first.length hreport
        (distinct_of_validateSteps hrun) second

end Registry

namespace Chain

/-- A blank chain has one step at most, and no chain that is not blank is empty. -/
theorem isBlank_append {first second : Chain} (hfirst : first.isBlank = false)
    (hsecond : second.isBlank = false) :
    isBlank ⟨first.steps ++ second.steps⟩ = false := by
  obtain ⟨steps⟩ := first
  obtain ⟨others⟩ := second
  cases steps with
  | nil => exact absurd hfirst (by decide)
  | cons step steps =>
    cases others with
    | nil => exact absurd hsecond (by decide)
    | cons other others => simp [isBlank]

end Chain

namespace Engine

theorem applyFilters_of_not_blank (engine : Engine) (value : Value) {chain : Chain}
    (hchain : chain.isBlank = false) :
    engine.applyFilters value chain = engine.registry.filterSteps 0 value chain.steps := by
  simp [applyFilters, hchain]

theorem validate_of_not_blank (engine : Engine) (value : Value) {chain : Chain}
    (hchain : chain.isBlank = false) :
    engine.validate value chain = engine.registry.validateSteps value 0 {} chain.steps := by
  simp [validate, hchain]

/-- Chains compose. What the second one does behind the first one is what it does alone, with its
positions counted on and its report joined to the first; after an error, and for validators also
after a skip, it has no part in the result. -/
theorem run_concat (engine : Engine) (value : Value) (first second : Chain)
    (hfirst : first.isBlank = false) (hsecond : second.isBlank = false) :
    let both : Chain := ⟨first.steps ++ second.steps⟩
    (match (engine.applyFilters value first).result with
    | .error error => (engine.applyFilters value both).result = .error error
    | .ok reached =>
      (engine.applyFilters value both).result =
        (engine.applyFilters reached second).result.mapError (.shift first.length)) ∧
    match (engine.validate value first).result with
    | .error error => (engine.validate value both).result = .error error
    | .ok report =>
      if report.wasSkipped then (engine.validate value both).result = .ok report
      else match (engine.validate value second).result with
        | .error error => (engine.validate value both).result = .error (error.shift first.length)
        | .ok later =>
          (engine.validate value both).result = .ok (report.joined first.length later) ∧
          (report.messages.insertAll later.messages).map Prod.fst =
            report.messages.map Prod.fst ++
              (later.messages.map Prod.fst).filter (· ∉ report.messages.map Prod.fst) ∧
          ∀ name, (report.messages.insertAll later.messages).get? name =
            (later.messages.get? name).or (report.messages.get? name) := by
  intro both
  have hboth : both.isBlank = false := Chain.isBlank_append hfirst hsecond
  -- Nothing is blank here, so every run is one over steps.
  rw [engine.applyFilters_of_not_blank value hfirst, engine.applyFilters_of_not_blank value hboth,
    engine.validate_of_not_blank value hfirst, engine.validate_of_not_blank value hsecond,
    engine.validate_of_not_blank value hboth]
  constructor
  · rw [engine.registry.filterSteps_append_result]
    cases (engine.registry.filterSteps 0 value first.steps).result with
    | error error => rfl
    | ok reached =>
      simp only [engine.applyFilters_of_not_blank reached hsecond]
      rfl
  · rw [engine.registry.validateSteps_append_result]
    cases (engine.registry.validateSteps value 0 {} first.steps).result with
    | error error => rfl
    | ok report =>
      simp only [Except.bind]
      by_cases hskipped : report.wasSkipped
      · simp only [if_pos hskipped]
      · simp only [if_neg hskipped]
        cases hlater : (engine.registry.validateSteps value 0 {} second.steps).result with
        | error error => rfl
        | ok later =>
          have hdistinct := Registry.distinct_of_validateSteps hlater
          exact ⟨rfl, Messages.keys_insertAll _ hdistinct, Messages.get?_insertAll _ hdistinct⟩

/-- The name that failed before fails again behind the seam and keeps its place. Both positions, of
the step that skips and of the one that is no filter, count on. -/
theorem run_concat_echo :
    let same : Filter := { apply := fun value _ => .ok value }
    let echo : Validator := { check := fun _ args => .ok (.fail args) }
    let stop : Validator := { check := fun _ _ => .ok .skip }
    let engine : Engine :=
      ⟨((Registry.insert {} "echo" (.validator echo)).insert "stop" (.validator stop)).insert "echo"
        (.filter same)⟩
    let first : Chain := ⟨[⟨"echo", ["a"]⟩]⟩
    let second : Chain := ⟨[⟨"echo", ["b"]⟩, ⟨"stop", []⟩, ⟨"gone", []⟩]⟩
    first.isBlank = false ∧ second.isBlank = false ∧
    (engine.applyFilters .null ⟨first.steps ++ second.steps⟩).result =
      .error (.unknown .filter "stop" 2) ∧
    (engine.validate .null ⟨first.steps ++ second.steps⟩).result =
      .ok { valid := false, messages := [("echo", ["b"])], outcome := .skipped 2 } := by
  intro same echo stop engine first second
  have hfirst : first.isBlank = false := by decide
  have hsecond : second.isBlank = false := by decide
  have hboth := run_concat engine .null first second hfirst hsecond
  exact ⟨hfirst, hsecond, hboth.1, hboth.2.1⟩

end Engine

end ValueRules
