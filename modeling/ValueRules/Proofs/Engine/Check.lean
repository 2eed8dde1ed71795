import ValueRules.Proofs.Engine.Sequence
import ValueRules.Proofs.Registry.Contents

/-!
What the check of a rule text tells about running it. The check looks up every name at once and a
run looks up each one when it gets there, so they can differ only where a run stops early:
`checkRule_foretells`.
-/

namespace ValueRules

namespace Run

variable {α : Type} {run : Run α} {cut : α → Option Nat} {stop : Nat}

/-- All that happened in the run happened at steps before `stop`, and none of them was of an unknown
name. `cut` tells where a result was cut short. -/
structure StaysBefore (run : Run α) (cut : α → Option Nat) (stop : Nat) : Prop where
  of_error : ∀ error, run.result = .error error → error.isUnknown = false ∧ error.position < stop
  of_cut : ∀ reached, run.result = .ok reached → ∀ position ∈ cut reached, position < stop
  of_invocation : ∀ invocation ∈ run.invocations, invocation.position < stop

theorem staysBefore_ok {reached : α} (h : ∀ position ∈ cut reached, position < stop) :
    StaysBefore { result := .ok reached } cut stop where
  of_error _ herror := nomatch herror
  of_cut _ hreached := Except.ok.inj hreached ▸ h
  of_invocation _ hinvocation := absurd hinvocation List.not_mem_nil

theorem staysBefore_procedure {name : String} {position : Nat} (source : ProcedureError)
    (h : position < stop) :
    StaysBefore { result := .error (.procedure name position source) } cut stop where
  of_error _ herror := Except.error.inj herror ▸ ⟨rfl, h⟩
  of_cut _ hreached := nomatch hreached
  of_invocation _ hinvocation := absurd hinvocation List.not_mem_nil

theorem StaysBefore.after (h : run.StaysBefore cut stop) {invocation : Invocation}
    (hinvocation : invocation.position < stop) (events : List Event) :
    (run.after invocation events).StaysBefore cut stop where
  of_error := h.of_error
  of_cut := h.of_cut
  of_invocation := List.forall_mem_cons.mpr ⟨hinvocation, h.of_invocation⟩

/-- The run ended at an earlier step, by an error of its procedure or by a result cut short. -/
def EndsBefore (run : Run α) (cut : α → Option Nat) (stop : Nat) : Prop :=
  (∃ name position source, position < stop ∧
    run.result = .error (.procedure name position source)) ∨
  ∃ reached, run.result = .ok reached ∧ ∃ position ∈ cut reached, position < stop

/-- What a check tells about a run. A rule text that passes is not stopped by a name; one that is
refused stops where the check says, with the same error and no procedure called from there on, or
before that. -/
structure Foretold (run : Run α) (cut : α → Option Nat) (side : Namespace)
    (check : Except ChainError Chain) : Prop where
  of_ok : ∀ chain, check = .ok chain →
    ∀ error, run.result = .error error → error.isUnknown = false
  of_error : ∀ error, check = .error error → ∃ name stop, error = .unknown side name stop ∧
    (run.result = .error error ∨ run.EndsBefore cut stop) ∧
    ∀ invocation ∈ run.invocations, invocation.position < stop
  of_unknown : ∀ error, run.result = .error error → error.isUnknown = true → check = .error error

theorem foretold_of_ok {reached : α} (h : run.result = .ok reached) (side : Namespace)
    (chain : Chain) : run.Foretold cut side (.ok chain) where
  of_ok _ _ _ herror := nomatch h.symm.trans herror
  of_error _ herror := nomatch herror
  of_unknown _ herror := nomatch h.symm.trans herror

theorem StaysBefore.foretold (h : run.StaysBefore cut stop) (side : Namespace) (chain : Chain) :
    run.Foretold cut side (.ok chain) where
  of_ok _ _ error herror := (h.of_error error herror).1
  of_error _ herror := nomatch herror
  of_unknown error herror hunknown := by
    rw [(h.of_error error herror).1] at hunknown
    exact absurd hunknown Bool.false_ne_true

theorem foretold_of_ends {side : Namespace} {name : String}
    (hend : run.result = .error (.unknown side name stop) ∨ run.EndsBefore cut stop)
    (hinvocation : ∀ invocation ∈ run.invocations, invocation.position < stop) :
    run.Foretold cut side (.error (.unknown side name stop)) where
  of_ok _ hchain := nomatch hchain
  of_error error herror := by
    obtain rfl := Except.error.inj herror
    exact ⟨name, stop, rfl, hend, hinvocation⟩
  of_unknown error herror hunknown := by
    rcases hend with hsame | ⟨other, position, source, -, hearlier⟩ | ⟨reached, hreached, -⟩
    · exact congrArg Except.error (Except.error.inj (hsame.symm.trans herror))
    · obtain rfl := Except.error.inj (herror.symm.trans hearlier)
      exact absurd hunknown Bool.false_ne_true
    · exact nomatch herror.symm.trans hreached

/-- A run that stays before an unknown name and then, unless it was cut short, comes to it. -/
theorem StaysBefore.foretold_andThen (h : run.StaysBefore cut stop) {side : Namespace}
    {name : String} {next : α → Run α}
    (hnext : ∀ reached, next reached =
      if (cut reached).isSome then { result := .ok reached }
      else { result := .error (.unknown side name stop) }) :
    (run.andThen next).Foretold cut side (.error (.unknown side name stop)) := by
  cases hresult : run.result with
  | error error =>
    obtain ⟨hknown, hposition⟩ := h.of_error error hresult
    rw [andThen_of_error hresult]
    cases error with
    | unknown => exact absurd hknown.symm Bool.false_ne_true
    | procedure other position source =>
      exact foretold_of_ends (.inr (.inl ⟨other, position, source, hposition, hresult⟩))
        h.of_invocation
  | ok reached =>
    have hgoes := hnext reached
    rw [andThen_of_ok hresult]
    cases hcut : cut reached with
    | none =>
      rw [hcut] at hgoes
      rw [hgoes]
      exact foretold_of_ends (.inl rfl) (by simpa using h.of_invocation)
    | some position =>
      rw [hcut] at hgoes
      rw [hgoes]
      have hends := h.of_cut reached hresult position hcut
      exact foretold_of_ends (.inr (.inr ⟨reached, rfl, position, hcut, hends⟩))
        (by simpa using h.of_invocation)

end Run

/-- Where a report was cut short. -/
def Report.cut? (report : Report) : Option Nat :=
  match report.outcome with
  | .exhausted => none
  | .skipped position => some position

theorem Report.wasSkipped_eq_isSome (report : Report) :
    report.wasSkipped = report.cut?.isSome := by
  rw [wasSkipped, cut?]
  cases report.outcome <;> rfl

namespace Registry

/-- Every step has a name that is stored. -/
def Knows (registry : Registry) (side : Namespace) (steps : List Step) : Prop :=
  ∀ step ∈ steps, registry.has side step.name = true

theorem has_filter (registry : Registry) (name : String) :
    registry.has .filter name = (registry.filter? name).isSome := by
  rw [has_eq_isSome, resolve?, Option.isSome_map]

theorem has_validator (registry : Registry) (name : String) :
    registry.has .validator name = (registry.validator? name).isSome := by
  rw [has_eq_isSome, resolve?, Option.isSome_map]

theorem filterSteps_staysBefore {registry : Registry} {steps : List Step}
    (h : registry.Knows .filter steps) (position : Nat) (value : Value) :
    (registry.filterSteps position value steps).StaysBefore (fun _ => none)
      (position + steps.length) := by
  induction steps generalizing position value with
  | nil => exact Run.staysBefore_ok nofun
  | cons step steps ih =>
    obtain ⟨hstep, hsteps⟩ := List.forall_mem_cons.mp h
    rw [has_filter, Option.isSome_iff_exists] at hstep
    obtain ⟨filter, hfilter⟩ := hstep
    have hposition : position < position + (step :: steps).length := by simp
    simp only [filterSteps, hfilter]
    -- The step itself is in bounds; the rest starts one further on and is one step shorter.
    refine Run.StaysBefore.after ?_ hposition _
    cases filter.apply value step.args with
    | error source => exact Run.staysBefore_procedure source hposition
    | ok output =>
      have hrest := ih hsteps (position + 1) output
      rwa [Nat.add_right_comm, Nat.add_assoc] at hrest

theorem validateSteps_staysBefore {registry : Registry} {steps : List Step}
    (h : registry.Knows .validator steps) (value : Value) (position : Nat) {report : Report}
    (hreport : report.outcome = .exhausted) :
    (registry.validateSteps value position report steps).StaysBefore Report.cut?
      (position + steps.length) := by
  induction steps generalizing position report with
  | nil =>
    refine Run.staysBefore_ok fun other hother => ?_
    simp [Report.cut?, hreport] at hother
  | cons step steps ih =>
    obtain ⟨hstep, hsteps⟩ := List.forall_mem_cons.mp h
    rw [has_validator, Option.isSome_iff_exists] at hstep
    obtain ⟨validator, hvalidator⟩ := hstep
    have hposition : position < position + (step :: steps).length := by simp
    have hrest {next : Report} (hnext : next.outcome = .exhausted) :
        (registry.validateSteps value (position + 1) next steps).StaysBefore Report.cut?
          (position + (step :: steps).length) := by
      have hlater := ih hsteps (position + 1) hnext
      rwa [Nat.add_right_comm, Nat.add_assoc] at hlater
    simp only [validateSteps, hvalidator]
    cases validator.check value step.args with
    | error source => exact (Run.staysBefore_procedure source hposition).after hposition _
    | ok verdict =>
      cases verdict with
      | pass => exact (hrest hreport).after hposition _
      | fail messages =>
        have hrecord : (report.recordFailure step.name messages).outcome = .exhausted := hreport
        exact (hrest hrecord).after hposition _
      | skip =>
        -- The only report that is cut short, and it is cut short right here.
        refine (Run.staysBefore_ok fun other hother => ?_).after hposition _
        obtain rfl : position = other := by simpa [Report.cut?] using hother
        exact hposition

/-- Every name is stored, or there is a first one that is not. -/
theorem knows_or_split (registry : Registry) (side : Namespace) (steps : List Step) :
    registry.Knows side steps ∨
      ∃ known step rest, steps = known ++ step :: rest ∧ registry.Knows side known ∧
        registry.has side step.name = false := by
  cases hfind : steps.find? fun step => !registry.has side step.name with
  | none =>
    refine Or.inl fun step hstep => ?_
    simpa using List.find?_eq_none.mp hfind step hstep
  | some step =>
    obtain ⟨hstep, known, rest, hsteps, hknown⟩ := List.find?_eq_some_iff_append.mp hfind
    refine Or.inr ⟨known, step, rest, hsteps, fun other hother => ?_, by simpa using hstep⟩
    simpa using hknown other hother

theorem filterSteps_of_unknown {registry : Registry} {step : Step}
    (h : registry.has .filter step.name = false) (position : Nat) (value : Value)
    (steps : List Step) :
    registry.filterSteps position value (step :: steps) =
      { result := .error (.unknown .filter step.name position) } := by
  rw [has_filter, Option.isSome_eq_false_iff, Option.isNone_iff_eq_none] at h
  simp only [filterSteps, h]

theorem validateSteps_of_unknown {registry : Registry} {step : Step}
    (h : registry.has .validator step.name = false) (value : Value) (position : Nat)
    (report : Report) (steps : List Step) :
    registry.validateSteps value position report (step :: steps) =
      { result := .error (.unknown .validator step.name position) } := by
  rw [has_validator, Option.isSome_eq_false_iff, Option.isNone_iff_eq_none] at h
  simp only [validateSteps, h]

end Registry

namespace Engine

theorem firstUnknown?_of_knows {engine : Engine} {side : Namespace} {chain : Chain}
    (h : engine.registry.Knows side chain.steps) : engine.firstUnknown? side chain = none := by
  rw [firstUnknown?, List.find?_eq_none]
  rintro ⟨step, position⟩ hstep
  simp [h step (List.fst_mem_of_mem_zipIdx hstep)]

theorem firstUnknown?_of_split {engine : Engine} {side : Namespace} {chain : Chain}
    {known rest : List Step} {step : Step} (hsteps : chain.steps = known ++ step :: rest)
    (hknown : engine.registry.Knows side known)
    (hstep : engine.registry.has side step.name = false) :
    engine.firstUnknown? side chain = some (step, known.length) := by
  have hnone : engine.firstUnknown? side ⟨known⟩ = none := firstUnknown?_of_knows hknown
  rw [firstUnknown?] at hnone
  rw [firstUnknown?, hsteps, List.zipIdx_append, List.find?_append, hnone, List.zipIdx_cons,
    List.find?_cons]
  simp [hstep]

/-- A rule text passes if it is blank or all its names are stored, and is refused for the first name
that is not. -/
theorem checkRule_cases (engine : Engine) (side : Namespace) (text : String) :
    ((engine.parse text).isBlank = true ∧
      engine.checkRule side text = .ok (engine.parse text)) ∨
    ((engine.parse text).isBlank = false ∧ engine.registry.Knows side (engine.parse text).steps ∧
      engine.checkRule side text = .ok (engine.parse text)) ∨
    ((engine.parse text).isBlank = false ∧ ∃ known step rest,
      (engine.parse text).steps = known ++ step :: rest ∧ engine.registry.Knows side known ∧
      engine.registry.has side step.name = false ∧
      engine.checkRule side text = .error (.unknown side step.name known.length)) := by
  cases hblank : (engine.parse text).isBlank with
  | true => exact Or.inl ⟨rfl, by simp [checkRule, hblank]⟩
  | false =>
    refine Or.inr ?_
    rcases engine.registry.knows_or_split side (engine.parse text).steps with
      hknows | ⟨known, step, rest, hsteps, hknown, hstep⟩
    · exact Or.inl ⟨rfl, hknows, by simp [checkRule, hblank, firstUnknown?_of_knows hknows]⟩
    · refine Or.inr ⟨rfl, known, step, rest, hsteps, hknown, hstep, ?_⟩
      simp [checkRule, hblank, firstUnknown?_of_split hsteps hknown hstep]

theorem filterInput_foretold (engine : Engine) (value : Value) (text : String) :
    (engine.filterInput value text).Foretold (fun _ => none) .filter
      (engine.checkRule .filter text) := by
  rw [filterInput]
  rcases engine.checkRule_cases .filter text with
    ⟨hblank, hcheck⟩ | ⟨hblank, hknows, hcheck⟩ |
      ⟨hblank, known, step, rest, hsteps, hknown, hstep, hcheck⟩
  · rw [hcheck, applyFilters, if_pos hblank]
    exact Run.foretold_of_ok rfl .filter _
  · rw [hcheck, engine.applyFilters_of_not_blank value hblank]
    exact (Registry.filterSteps_staysBefore hknows 0 value).foretold .filter _
  · -- Up to the missing name the run is one over stored names, and what follows starts with it.
    rw [hcheck, engine.applyFilters_of_not_blank value hblank, hsteps, Registry.filterSteps_append]
    have hstays := Registry.filterSteps_staysBefore hknown 0 value
    rw [Nat.zero_add] at hstays ⊢
    exact hstays.foretold_andThen fun reached =>
      Registry.filterSteps_of_unknown hstep known.length reached rest

theorem validateInput_foretold (engine : Engine) (value : Value) (text : String) :
    (engine.validateInput value text).Foretold Report.cut? .validator
      (engine.checkRule .validator text) := by
  rw [validateInput]
  rcases engine.checkRule_cases .validator text with
    ⟨hblank, hcheck⟩ | ⟨hblank, hknows, hcheck⟩ |
      ⟨hblank, known, step, rest, hsteps, hknown, hstep, hcheck⟩
  · rw [hcheck, validate, if_pos hblank]
    exact Run.foretold_of_ok rfl .validator _
  · rw [hcheck, engine.validate_of_not_blank value hblank]
    exact (Registry.validateSteps_staysBefore hknows value 0 rfl).foretold .validator _
  · rw [hcheck, engine.validate_of_not_blank value hblank, hsteps,
      Registry.validateSteps_append _ _ _ rfl]
    have hstart : ({} : Report).outcome = .exhausted := rfl
    have hstays := Registry.validateSteps_staysBefore hknown value 0 hstart
    rw [Nat.zero_add] at hstays ⊢
    refine hstays.foretold_andThen fun reached => ?_
    rw [Registry.validateOn, Registry.validateSteps_of_unknown hstep, Report.wasSkipped_eq_isSome]

/-- The check of a rule text foretells its runs. What passes is the chain that is run, and no name
in it stops a run; what is refused for a name stops a run at that name, with the same error, or
before it; and a run that an unknown name stops was refused for that name. Filters that were refused
give no value. -/
theorem checkRule_foretells (engine : Engine) (value : Value) (text : String) :
    (∀ side chain, engine.checkRule side text = .ok chain → chain = engine.parse text) ∧
    (engine.filterInput value text).Foretold (fun _ => none) .filter
      (engine.checkRule .filter text) ∧
    (engine.validateInput value text).Foretold Report.cut? .validator
      (engine.checkRule .validator text) ∧
    ∀ error output, engine.checkRule .filter text = .error error →
      (engine.filterInput value text).result ≠ .ok output := by
  have hfilter := engine.filterInput_foretold value text
  refine ⟨fun side chain hchain => ?_, hfilter, engine.validateInput_foretold value text,
    fun error output herror houtput => ?_⟩
  · rcases engine.checkRule_cases side text with
      ⟨-, h⟩ | ⟨-, -, h⟩ | ⟨-, known, step, rest, -, -, -, h⟩
    · exact Except.ok.inj (hchain.symm.trans h)
    · exact Except.ok.inj (hchain.symm.trans h)
    · exact nomatch hchain.symm.trans h
  · obtain ⟨name, stop, -, hend, -⟩ := hfilter.of_error error herror
    rcases hend with h | ⟨other, position, source, -, h⟩ | ⟨reached, -, position, hcut, -⟩
    · exact nomatch h.symm.trans houtput
    · exact nomatch h.symm.trans houtput
    · exact nomatch hcut

/-- A step that skips hides the unknown name behind it from the run, though not from the check. -/
example :
    let stop : Validator := { check := fun _ _ => .ok .skip }
    let engine : Engine := ⟨Registry.insert {} "stop" (.validator stop)⟩
    engine.checkRule .validator "stop->gone" = .error (.unknown .validator "gone" 1) ∧
    (engine.validateInput .null "stop->gone").result = .ok { outcome := .skipped 0 } := by
  decide +kernel

end Engine

end ValueRules
