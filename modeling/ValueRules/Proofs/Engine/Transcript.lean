import ValueRules.Proofs.Engine.Sequence

/-!
What a run calls and what it logs. Every step up to the one that stops the run makes one call, with
its events right behind it; `run_tells_transcript` says that nothing else is called or logged, and
that the result is that of the same step.
-/

namespace ValueRules

/-- Calls in order, each with the events that are logged for it. -/
abbrev Transcript := List (Invocation × List Event)

/-- The calls that steps make, if a step at a position makes one. -/
def Transcript.ofSteps (call? : Nat → Step → Option (Invocation × List Event))
    (steps : List Step) : Transcript :=
  steps.zipIdx.filterMap fun (step, position) => call? position step

theorem Transcript.ofSteps_nil (call? : Nat → Step → Option (Invocation × List Event)) :
    ofSteps call? [] = [] :=
  rfl

theorem Transcript.ofSteps_cons (call? : Nat → Step → Option (Invocation × List Event))
    (step : Step) (steps : List Step) :
    ofSteps call? (step :: steps) =
      (call? 0 step).toList ++ ofSteps (fun position => call? (position + 1)) steps := by
  rw [ofSteps, List.zipIdx_cons, List.filterMap_cons, List.zipIdx_succ, List.filterMap_map, ofSteps]
  cases hfirst : call? 0 step <;> simp [hfirst]

namespace Run

variable {α : Type} {run : Run α} {transcript : Transcript}

/-- The run made these calls, and logged their events and no others. -/
structure Tells (run : Run α) (transcript : Transcript) : Prop where
  invocations_eq : run.invocations = transcript.map Prod.fst
  events_eq : run.events = transcript.flatMap Prod.snd

theorem tells_nil (result : Except ChainError α) : Tells { result } [] := ⟨rfl, rfl⟩

theorem Tells.after (h : run.Tells transcript) (call : Invocation × List Event) :
    (run.after call.1 call.2).Tells (call :: transcript) := by
  constructor
  · rw [List.map_cons, ← h.invocations_eq]
    rfl
  · rw [List.flatMap_cons, ← h.events_eq]
    rfl

end Run

namespace Registry

variable {registry : Registry} {value : Value} {step : Step}

/-- What the filter of a step makes of a value, if there is one of this name. -/
def output? (registry : Registry) (input : Value) (step : Step) :
    Option (Except ProcedureError Value) :=
  (registry.filter? step.name).map fun filter => filter.apply input step.args

/-- The call of a step among filters, with the event logged before it. -/
def filterCall? (registry : Registry) (input : Value) (position : Nat) (step : Step) :
    Option (Invocation × List Event) :=
  (registry.filter? step.name).map fun filter =>
    (⟨position, .filter filter, input, step.args⟩, [.applying position step.name])

/-- The filters of the steps before `k` hand a value on, each giving the next input, and that of
step `k` does not: its name is not stored, or it refuses to work. -/
structure Threads (registry : Registry) (value : Value) (steps : List Step) (k : Nat)
    (inputs : Nat → Value) : Prop where
  starts : inputs 0 = value
  hands_on : ∀ i < k, ∃ step, steps[i]? = some step ∧
    registry.output? (inputs i) step = some (.ok (inputs (i + 1)))
  stops : ∀ step, steps[k]? = some step →
    ∀ output, registry.output? (inputs k) step ≠ some (.ok output)

theorem Threads.le_length {steps : List Step} {k : Nat} {inputs : Nat → Value}
    (h : registry.Threads value steps k inputs) : k ≤ steps.length := by
  by_contra hbeyond
  obtain ⟨step, hstep, -⟩ := h.hands_on steps.length (by omega)
  rw [List.getElem?_length] at hstep
  exact Option.some_ne_none step hstep.symm

theorem Threads.tail {steps : List Step} {k : Nat} {inputs : Nat → Value}
    (h : registry.Threads value (step :: steps) (k + 1) inputs) :
    registry.Threads (inputs 1) steps k fun i => inputs (i + 1) where
  starts := rfl
  hands_on i hi := h.hands_on (i + 1) (Nat.succ_lt_succ hi)
  stops := h.stops

theorem threads_zero {steps : List Step} (h : ∀ step, steps[0]? = some step →
    ∀ output, registry.output? value step ≠ some (.ok output)) :
    registry.Threads value steps 0 fun _ => value where
  starts := rfl
  hands_on i hi := absurd hi (Nat.not_lt_zero i)
  stops := h

theorem exists_threads (registry : Registry) (value : Value) (steps : List Step) :
    ∃ k inputs, registry.Threads value steps k inputs := by
  induction steps generalizing value with
  | nil => exact ⟨0, _, threads_zero nofun⟩
  | cons step steps ih =>
    -- Either the first filter gives the value that the rest starts from, or the run ends with it.
    by_cases hworks : ∃ output, registry.output? value step = some (.ok output)
    · obtain ⟨output, houtput⟩ := hworks
      obtain ⟨k, inputs, h⟩ := ih output
      have hstart : inputs 0 = output := h.starts
      rw [← hstart] at houtput
      refine ⟨k + 1, Nat.rec value fun i _ => inputs i, rfl, ?_, ?_⟩
      · intro i hi
        cases i with
        | zero => exact ⟨step, rfl, houtput⟩
        | succ i => exact h.hands_on i (Nat.lt_of_succ_lt_succ hi)
      · exact h.stops
    · refine ⟨0, _, threads_zero ?_⟩
      intro other hother output houtput
      obtain rfl : step = other := Option.some.inj hother
      exact hworks ⟨output, houtput⟩

/-- What filters return where the first step stands that does not hand the value on, or after the
last one. -/
def concludeFilters (registry : Registry) (position : Nat) (reached : Value) :
    Option Step → Except ChainError Value
  | none => .ok reached
  | some step =>
    match registry.output? reached step with
    | none => .error (.unknown .filter step.name position)
    | some (.error source) => .error (.procedure step.name position source)
    | some (.ok output) => .ok output

theorem Threads.concludeFilters_of_step {steps : List Step} {k : Nat} {inputs : Nat → Value}
    (h : registry.Threads value steps k inputs) (hstep : steps[k]? = some step) (position : Nat) :
    (registry.filter? step.name = none ∧
        registry.concludeFilters position (inputs k) steps[k]? =
          .error (.unknown .filter step.name position)) ∨
      ∃ source, registry.output? (inputs k) step = some (.error source) ∧
        registry.concludeFilters position (inputs k) steps[k]? =
          .error (.procedure step.name position source) := by
  rw [hstep, concludeFilters]
  cases houtput : registry.output? (inputs k) step with
  | none => exact .inl ⟨Option.map_eq_none_iff.mp houtput, rfl⟩
  | some answer =>
    cases answer with
    | error source => exact .inr ⟨source, rfl, rfl⟩
    | ok output => exact absurd houtput (h.stops step hstep output)

theorem Threads.concludeFilters_eq_ok_iff {steps : List Step} {k : Nat} {inputs : Nat → Value}
    {output : Value} (h : registry.Threads value steps k inputs) (position : Nat) :
    registry.concludeFilters position (inputs k) steps[k]? = .ok output ↔
      k = steps.length ∧ output = inputs k := by
  cases hstep : steps[k]? with
  | none =>
    have hall : k = steps.length :=
      Nat.le_antisymm h.le_length (List.getElem?_eq_none_iff.mp hstep)
    rw [concludeFilters, and_iff_right hall, Except.ok.injEq, eq_comm]
  | some step =>
    have hshort : k < steps.length := (List.getElem?_eq_some_iff.mp hstep).1
    have hends := h.concludeFilters_of_step hstep position
    rw [hstep] at hends
    rcases hends with ⟨-, hend⟩ | ⟨source, -, hend⟩ <;> simp [hend, Nat.ne_of_lt hshort]

/-- A step that does not hand the value on is the last to be looked at. -/
theorem filterSteps_of_stops (h : ∀ output, registry.output? value step ≠ some (.ok output))
    (position : Nat) (steps : List Step) :
    registry.filterSteps position value (step :: steps) =
      { result := registry.concludeFilters position value (some step)
        invocations := (registry.filterCall? value position step).toList.map Prod.fst
        events := (registry.filterCall? value position step).toList.flatMap Prod.snd } := by
  rw [filterSteps, concludeFilters, filterCall?]
  rw [output?] at h ⊢
  cases hfilter : registry.filter? step.name with
  | none => rfl
  | some filter =>
    rw [hfilter, Option.map_some] at h
    simp only [Option.map_some]
    cases happly : filter.apply value step.args with
    | error source => rfl
    | ok output => exact absurd (congrArg some happly) (h output)

theorem filterSteps_of_output {output : Value}
    (h : registry.output? value step = some (.ok output)) (position : Nat) (steps : List Step) :
    ∃ call, registry.filterCall? value position step = some call ∧
      registry.filterSteps position value (step :: steps) =
        (registry.filterSteps (position + 1) output steps).after call.1 call.2 := by
  obtain ⟨filter, hfilter, happly⟩ := Option.map_eq_some_iff.mp h
  refine ⟨_, by rw [filterCall?, hfilter, Option.map_some], ?_⟩
  simp only [filterSteps, hfilter, happly]

theorem filterSteps_tells {steps : List Step} {k : Nat} {inputs : Nat → Value}
    (h : registry.Threads value steps k inputs) (position : Nat) :
    (registry.filterSteps position value steps).Tells
        (.ofSteps (fun i => registry.filterCall? (inputs i) (position + i))
          (steps.take (k + 1))) ∧
      (registry.filterSteps position value steps).result =
        registry.concludeFilters (position + k) (inputs k) steps[k]? := by
  -- The first input is the value, and behind each step the later inputs count from zero again.
  induction steps generalizing position value k inputs with
  | nil =>
    obtain rfl : k = 0 := Nat.le_zero.mp h.le_length
    refine ⟨Run.tells_nil _, ?_⟩
    rw [h.starts]
    rfl
  | cons step steps ih =>
    have hstart := h.starts
    subst hstart
    cases k with
    | zero =>
      rw [filterSteps_of_stops (h.stops step rfl), List.take_succ_cons, List.take_zero,
        Transcript.ofSteps_cons, Transcript.ofSteps_nil, List.append_nil, Nat.add_zero]
      exact ⟨⟨rfl, rfl⟩, rfl⟩
    | succ k =>
      obtain ⟨first, hfirst, houtput⟩ := h.hands_on 0 (Nat.succ_pos k)
      obtain rfl : step = first := Option.some.inj hfirst
      obtain ⟨call, hcall, hrun⟩ := filterSteps_of_output houtput position steps
      obtain ⟨htells, hresult⟩ := ih h.tail (position + 1)
      simp only [Nat.add_right_comm position 1, Nat.add_assoc] at htells hresult
      rw [List.take_succ_cons, Transcript.ofSteps_cons, Nat.add_zero, hcall, hrun]
      exact ⟨htells.after call, hresult⟩

theorem validateSteps_tells (registry : Registry) (value : Value) (position : Nat)
    (report : Report) (steps : List Step) :
    (registry.validateSteps value position report steps).Tells
      (.ofSteps (fun i => registry.validatorCall? value (position + i))
        (steps.take (registry.stopIndex value steps + 1))) := by
  -- A step that goes on makes its own call. What it adds to the report changes no later one.
  induction steps generalizing position report with
  | nil => exact Run.tells_nil _
  | cons step steps ih =>
    rw [List.take_succ_cons, Transcript.ofSteps_cons, Nat.add_zero]
    cases h : registry.stopsAt value step with
    | true =>
      rw [stopIndex_cons_of_stopsAt h, List.take_zero, validateSteps_of_stopsAt h,
        Transcript.ofSteps_nil, List.append_nil]
      exact ⟨rfl, rfl⟩
    | false =>
      obtain ⟨call, hcall, hrun⟩ := validateSteps_of_not_stopsAt h position report steps
      have htells := ih (position + 1) (report.recordAll (registry.failure? value step).toList)
      simp only [Nat.add_right_comm position 1, Nat.add_assoc] at htells
      rw [stopIndex_cons_of_not_stopsAt h, hcall, hrun]
      exact htells.after call

end Registry

namespace Engine

/-- Calls, events and result tell one story. Filters are called as far as the value is handed on,
and the run returns what the last of them gave or the error of the step that stopped it; validators
are called up to the first that stops the run, all with the same value. -/
theorem run_tells_transcript (engine : Engine) (value : Value) (chain : Chain)
    (hchain : chain.isBlank = false) :
    (∃ k inputs, engine.registry.Threads value chain.steps k inputs) ∧
    (∀ k inputs, engine.registry.Threads value chain.steps k inputs →
      (engine.applyFilters value chain).Tells
        (.ofSteps (fun i => engine.registry.filterCall? (inputs i) i)
          (chain.steps.take (k + 1))) ∧
      (∀ output, (engine.applyFilters value chain).result = .ok output ↔
        k = chain.length ∧ output = inputs k) ∧
      ∀ step, chain.steps[k]? = some step →
        (engine.registry.filter? step.name = none ∧
          (engine.applyFilters value chain).result = .error (.unknown .filter step.name k)) ∨
        ∃ source, engine.registry.output? (inputs k) step = some (.error source) ∧
          (engine.applyFilters value chain).result = .error (.procedure step.name k source)) ∧
    (engine.validate value chain).Tells
      (.ofSteps (engine.registry.validatorCall? value)
        (chain.steps.take (engine.registry.stopIndex value chain.steps + 1))) := by
  rw [engine.applyFilters_of_not_blank value hchain, engine.validate_of_not_blank value hchain]
  refine ⟨engine.registry.exists_threads value chain.steps, ?_, ?_⟩
  · intro k inputs h
    obtain ⟨htells, hresult⟩ := Registry.filterSteps_tells h 0
    simp only [Nat.zero_add] at htells hresult
    refine ⟨htells, ?_⟩
    rw [hresult]
    exact ⟨fun output => h.concludeFilters_eq_ok_iff k,
      fun step hstep => h.concludeFilters_of_step hstep k⟩
  · have htells := engine.registry.validateSteps_tells value 0 {} chain.steps
    simpa only [Nat.zero_add] using htells

/-- The second call stops both runs, once with an error and once with a skip; the third step, whose
name is not stored, is not looked at. -/
theorem run_tells_transcript_say :
    let say : Filter := { apply := fun value args =>
      if args = ["b"] then .error (.custom "no") else .ok (.arr [value]) }
    let ask : Validator := { check := fun _ args =>
      if args = ["b"] then .ok .skip else .ok (.fail args) }
    let engine : Engine :=
      ⟨(Registry.insert {} "say" (.filter say)).insert "say" (.validator ask)⟩
    let chain : Chain := ⟨[⟨"say", ["a"]⟩, ⟨"say", ["b"]⟩, ⟨"gone", []⟩]⟩
    let inputs : Nat → Value := fun i => if i = 0 then .null else .arr [.null]
    chain.isBlank = false ∧ engine.registry.Threads .null chain.steps 1 inputs ∧
    (engine.applyFilters .null chain).Tells
      [(⟨0, .filter say, .null, ["a"]⟩, [.applying 0 "say"]),
        (⟨1, .filter say, .arr [.null], ["b"]⟩, [.applying 1 "say"])] ∧
    ((engine.applyFilters .null chain).result = .error (.procedure "say" 1 (.custom "no"))) ∧
    (engine.validate .null chain).Tells
      [(⟨0, .validator ask, .null, ["a"]⟩, [.running 0 "say", .failed 0 "say"]),
        (⟨1, .validator ask, .null, ["b"]⟩, [.running 1 "say", .skipped 1 "say"])] := by
  intro say ask engine chain inputs
  have hchain : chain.isBlank = false := by decide
  have hthreads : engine.registry.Threads .null chain.steps 1 inputs := by
    refine ⟨rfl, ?_, ?_⟩
    · intro i hi
      obtain rfl : i = 0 := by omega
      exact ⟨⟨"say", ["a"]⟩, rfl, rfl⟩
    · intro step hstep output houtput
      obtain rfl := Option.some.inj hstep
      exact nomatch Option.some.inj houtput
  obtain ⟨-, hfilter, hvalidate⟩ := run_tells_transcript engine .null chain hchain
  obtain ⟨htells, -, hend⟩ := hfilter 1 inputs hthreads
  refine ⟨hchain, hthreads, htells, ?_, hvalidate⟩
  rcases hend _ rfl with ⟨hnone, -⟩ | ⟨source, hsource, hresult⟩
  · exact nomatch hnone
  · rw [hresult, ← Except.error.inj (Option.some.inj hsource)]

end Engine

end ValueRules
