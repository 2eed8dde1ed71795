import ValueRules.Builder
import ValueRules.Proofs.Chain.Reading

/-!
Which chains are read back from what they render to. The test that is made for one step alone,
`Step.roundTrips`, decides this for every step that another one follows. The blank chains are those
that render to the empty text.
-/

namespace ValueRules

namespace Chain

theorem steps_eq_iff {chain : Chain} {steps : List Step} :
    chain.steps = steps ↔ chain = ⟨steps⟩ := by
  cases chain
  rw [Chain.mk.injEq]

/-- A text is read as these steps if it is cut into what they render to and each of them is read
from that. -/
theorem parse_eq_iff {delimiters : Delimiters} {text : String} {steps : List Step} :
    parse delimiters text = ⟨steps⟩ ↔
      Text.split delimiters.chain text = steps.map (·.render delimiters) ∧
        ∀ step ∈ steps, Step.parse delimiters (step.render delimiters) = step := by
  constructor
  · intro h
    obtain rfl : (Text.split delimiters.chain text).map (Step.parse delimiters) = steps :=
      congrArg Chain.steps h
    refine ⟨by simp [Function.comp_def, Step.render_parse], fun step hstep => ?_⟩
    obtain ⟨piece, -, rfl⟩ := List.mem_map.mp hstep
    rw [Step.render_parse]
  · rintro ⟨hsplit, hsteps⟩
    have hback : steps.map (fun step => Step.parse delimiters (step.render delimiters)) = steps :=
      (List.map_congr_left hsteps).trans (List.map_id steps)
    rw [parse, hsplit, List.map_map]
    exact congrArg Chain.mk hback

theorem parse_eq_singleton_iff {delimiters : Delimiters} {step : Step} :
    parse delimiters (step.render delimiters) = ⟨[step]⟩ ↔
      ¬ Text.Occurs delimiters.chain (step.render delimiters) ∧
        Step.parse delimiters (step.render delimiters) = step := by
  have halone := Text.split_intercalate_iff [step.render delimiters] delimiters.chain_ne_empty
    (List.cons_ne_nil _ _)
  rw [String.intercalate_singleton] at halone
  rw [parse_eq_iff, List.map_singleton, halone]
  simp

end Chain

namespace Step

theorem roundTrips_iff {delimiters : Delimiters} {step : Step} :
    step.roundTrips delimiters = true ↔
      Text.Closes delimiters.chain.toList (step.render delimiters).toList ∧
        parse delimiters (step.render delimiters) = step := by
  have hnameless : parse delimiters "" = { name := "" } :=
    parse_of_not_occurs (Text.not_occurs_empty delimiters.args_ne_empty)
  -- The token behind the step makes two pieces, of which the last is empty.
  have hjoin : step.render delimiters ++ delimiters.chain =
      delimiters.chain.intercalate [step.render delimiters, ""] := by
    rw [String.intercalate_cons_cons, String.intercalate_singleton, String.append_empty]
  have hsplit := Text.split_intercalate_iff [step.render delimiters, ""] delimiters.chain_ne_empty
    (List.cons_ne_nil _ _)
  rw [roundTrips, decide_eq_true_iff, Chain.steps_eq_iff, Chain.parse_eq_iff, hjoin]
  have hrender : [step, { name := "" }].map (·.render delimiters) =
      [step.render delimiters, ""] := rfl
  rw [hrender, hsplit]
  simp [Text.not_occurs_empty delimiters.chain_ne_empty, hnameless, render]

/-- A step that can be followed by another one can also stand alone. -/
theorem parse_of_roundTrips {delimiters : Delimiters} {step : Step}
    (h : step.roundTrips delimiters = true) :
    Chain.parse delimiters (step.render delimiters) = ⟨[step]⟩ := by
  obtain ⟨hclose, hstep⟩ := roundTrips_iff.mp h
  exact Chain.parse_eq_singleton_iff.mpr
    ⟨hclose.absent (delimiters.toList_get_ne_nil .chain), hstep⟩

theorem render_eq_empty_iff {delimiters : Delimiters} {step : Step} :
    step.render delimiters = "" ↔ step = { name := "" } := by
  obtain ⟨name, args⟩ := step
  rw [render, mk.injEq]
  by_cases hargs : args = []
  · simp [hargs]
  · -- The args token is written, whatever the name is.
    simp [hargs, delimiters.args_ne_empty]

end Step

namespace Chain

/-- A chain is read back exactly if every step but the last can be followed by another one, and the
last is read back alone. -/
theorem parse_render_iff {delimiters : Delimiters} {steps : List Step} (hsteps : steps ≠ []) :
    parse delimiters (render delimiters ⟨steps⟩) = ⟨steps⟩ ↔
      (∀ step ∈ steps.dropLast, step.roundTrips delimiters = true) ∧
        ∀ step ∈ steps.getLast?, parse delimiters (step.render delimiters) = ⟨[step]⟩ := by
  have hjoined := Text.split_intercalate_iff (steps.map (·.render delimiters))
    delimiters.chain_ne_empty (by simpa using hsteps)
  rw [← List.map_dropLast, List.forall_mem_map, List.getLast?_map, Option.forall_mem_map]
    at hjoined
  -- The steps are asked about in two groups, as the pieces of the text are.
  have hall : (∀ step ∈ steps, Step.parse delimiters (step.render delimiters) = step) ↔
      (∀ step ∈ steps.dropLast, Step.parse delimiters (step.render delimiters) = step) ∧
        ∀ step ∈ steps.getLast?, Step.parse delimiters (step.render delimiters) = step := by
    obtain ⟨others, last, rfl⟩ := (List.eq_nil_or_concat steps).resolve_left hsteps
    simp [or_imp, forall_and]
  simp only [Step.roundTrips_iff, parse_eq_singleton_iff]
  rw [parse_eq_iff, render, hjoined, hall, and_and_and_comm, forall₂_and, forall₂_and]

theorem parse_render_of_roundTrips {delimiters : Delimiters} {steps : List Step}
    (hsteps : steps ≠ []) (h : ∀ step ∈ steps, step.roundTrips delimiters = true) :
    parse delimiters (render delimiters ⟨steps⟩) = ⟨steps⟩ :=
  (parse_render_iff hsteps).mpr
    ⟨fun step hstep => h step (List.mem_of_mem_dropLast hstep),
      fun step hstep => Step.parse_of_roundTrips (h step (List.mem_of_mem_getLast? hstep))⟩

/-- The chains that there is nothing to run of are those with an empty rule text: two steps have a
chain token between them. -/
theorem isBlank_iff_render_eq_empty (delimiters : Delimiters) (chain : Chain) :
    chain.isBlank = true ↔ chain.render delimiters = "" := by
  obtain ⟨steps⟩ := chain
  rw [isBlank, decide_eq_true_iff, render]
  rcases steps with _ | ⟨first, _ | ⟨second, others⟩⟩
  · simp
  · simp [Step.render_eq_empty_iff]
  · rw [List.map_cons, List.map_cons, String.intercalate_cons_cons]
    simp [delimiters.chain_ne_empty]

/-- Also a chain that is not read back from its text is blank exactly if what is read is. -/
theorem isBlank_parse_render (delimiters : Delimiters) (chain : Chain) :
    (parse delimiters (chain.render delimiters)).isBlank = chain.isBlank := by
  rw [Bool.eq_iff_iff, isBlank_iff_render_eq_empty delimiters,
    isBlank_iff_render_eq_empty delimiters, render_parse]

end Chain

end ValueRules
