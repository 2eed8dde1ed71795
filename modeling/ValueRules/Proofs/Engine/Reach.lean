import ValueRules.Proofs.Engine.Check
import ValueRules.Proofs.Registry.Calls
import ValueRules.Proofs.Registry.LastWrite

/-!
Every name in a registry can be written in a rule text. It is read as itself, alone and in front of
any other text, and `stored_name_reached` follows it from the registry to the call.
-/

namespace ValueRules

namespace Delimiters

variable {delimiters : Delimiters} {name : String}

theorem Accepts.parse_name (h : delimiters.Accepts name) :
    Step.parse delimiters name = { name } := by
  have hargs := (accepts_iff.mp h).2.1 .args
  exact Step.parse_of_not_occurs hargs

/-- The tokens that can follow an accepted name begin right behind it. -/
theorem Accepts.roundTrips (h : delimiters.Accepts name) :
    Step.roundTrips delimiters { name } = true :=
  Step.roundTrips_iff.mpr ⟨h.closes.1, h.parse_name⟩

end Delimiters

/-- Whatever operations led to it, a registry holds only names that its delimiters accept. -/
theorem Registry.Follows.accepts {registry : Registry} {delimiters : Delimiters}
    {history : Registry.History} (h : registry.Follows delimiters history) {side : Namespace}
    {name : String} (hname : name ∈ registry.names side) : delimiters.Accepts name := by
  rw [Registry.mem_names_iff, h.resolve?_eq] at hname
  exact Registry.accepts_of_latest hname

namespace Engine

/-- The calls that a rule text makes on one side. -/
def invocations (engine : Engine) (side : Namespace) (value : Value) (text : String) :
    List Invocation :=
  match side with
  | .filter => (engine.filterInput value text).invocations
  | .validator => (engine.validateInput value text).invocations

/-- The first step of a rule text is looked up and called before anything else is. -/
theorem head?_invocations {engine : Engine} {side : Namespace} {text : String} {step : Step}
    {steps : List Step} {procedure : Procedure} (hread : engine.parse text = ⟨step :: steps⟩)
    (hblank : (engine.parse text).isBlank = false)
    (hstored : engine.registry.resolve? side step.name = some procedure) (value : Value) :
    (engine.invocations side value text).head? = some ⟨0, procedure, value, step.args⟩ := by
  cases side with
  | filter =>
    obtain ⟨filter, hfilter, rfl⟩ := Option.map_eq_some_iff.mp hstored
    rw [invocations, filterInput, engine.applyFilters_of_not_blank value hblank, hread]
    simp only [Registry.filterSteps, hfilter]
    rfl
  | validator =>
    obtain ⟨validator, hvalidator, rfl⟩ := Option.map_eq_some_iff.mp hstored
    rw [invocations, validateInput, engine.validate_of_not_blank value hblank, hread]
    simp only [Registry.validateSteps, hvalidator]
    -- The answer decides how the run goes on, and the call comes before it in every case.
    cases validator.check value step.args with
    | error source => rfl
    | ok verdict => cases verdict <;> rfl

theorem checkRule_of_knows {engine : Engine} {side : Namespace} {text : String}
    (h : engine.registry.Knows side (engine.parse text).steps) :
    engine.checkRule side text = .ok (engine.parse text) := by
  have hnone := firstUnknown?_of_knows h
  simp [checkRule, hnone]

/-- A name that operations left in a registry is read as one step, passes the check and the builder,
and with any text behind it it is the first to be called, with no arguments. -/
theorem stored_name_reached (delimiters : Delimiters) (operations : List Registry.Operation)
    (side : Namespace) (name rest : String) (value : Value)
    (hname : name ∈ (Registry.run { delimiters } operations).1.names side) :
    let engine : Engine := ⟨(Registry.run { delimiters } operations).1⟩
    Chain.parse delimiters name = ⟨[{ name }]⟩ ∧
    (Chain.parse delimiters name).isBlank = false ∧
    Chain.parse delimiters (name ++ delimiters.chain ++ rest) =
      ⟨{ name } :: (Chain.parse delimiters rest).steps⟩ ∧
    engine.checkRule side name = .ok ⟨[{ name }]⟩ ∧
    (∀ builder : Builder, builder.delimiters = delimiters →
      ∀ buffer, (builder.add buffer { name }).2 = none) ∧
    ∃ procedure, engine.registry.resolve? side name = some procedure ∧
      (engine.invocations side value (name ++ delimiters.chain ++ rest)).head? =
        some ⟨0, procedure, value, []⟩ := by
  intro engine
  have hfollows := (Registry.follows_nil delimiters).run operations
  have hdelimiters : engine.delimiters = delimiters := hfollows.delimiters_eq
  have haccepts : delimiters.Accepts name := hfollows.accepts hname
  have hround := haccepts.roundTrips
  have halone : Chain.parse delimiters name = ⟨[{ name }]⟩ := Step.parse_of_roundTrips hround
  have hread : Chain.parse delimiters (name ++ delimiters.chain ++ rest) =
      ⟨{ name } :: (Chain.parse delimiters rest).steps⟩ := by
    rw [Chain.parse_append rest haccepts.closes.1, haccepts.parse_name]
  refine ⟨halone, ?_, hread, ?_, ?_, ?_⟩
  · have hempty : name ≠ "" := (Delimiters.accepts_iff.mp haccepts).1
    simp [halone, Chain.isBlank, hempty]
  · have hparse : engine.parse name = ⟨[{ name }]⟩ := by rw [parse, hdelimiters, halone]
    have hknows : engine.registry.Knows side (engine.parse name).steps := by
      intro step hstep
      rw [hparse] at hstep
      obtain rfl := List.mem_singleton.mp hstep
      rw [Registry.has_eq_isSome]
      exact Registry.mem_names_iff.mp hname
    rw [checkRule_of_knows hknows, hparse]
  · intro builder hbuilder buffer
    rw [Builder.add, hbuilder, if_pos hround]
  · obtain ⟨procedure, hstored⟩ := Option.isSome_iff_exists.mp (Registry.mem_names_iff.mp hname)
    have hparse : engine.parse (name ++ delimiters.chain ++ rest) =
        ⟨{ name } :: (Chain.parse delimiters rest).steps⟩ := by rw [parse, hdelimiters, hread]
    have hblank : (engine.parse (name ++ delimiters.chain ++ rest)).isBlank = false := by
      -- Behind the name there is at least one more step, the nameless one.
      have hmore : (Chain.parse delimiters rest).steps ≠ [] := by
        simpa [Chain.parse] using Text.split_ne_nil delimiters.chain rest
      simp [hparse, Chain.isBlank, hmore]
    exact ⟨procedure, hstored, head?_invocations hparse hblank hstored value⟩

/-- The name ends in half a chain token and was stored twice, next to one that is refused. -/
theorem stored_name_reached_half_token :
    let keep : Filter := { apply := fun value _ => .ok value }
    let clear : Filter := { apply := fun _ _ => .ok .null }
    let operations : List Registry.Operation := [.register "a-" (.filter keep),
      .registerAll [("len:", .filter keep), ("a-", .filter clear), ("b", .filter keep)],
      .remove .filter "b"]
    let engine : Engine := ⟨(Registry.run { delimiters := .standard } operations).1⟩
    "a-" ∈ (Registry.run { delimiters := .standard } operations).1.names .filter ∧
    Chain.parse .standard "a-->b::->" =
      ⟨{ name := "a-" } :: (Chain.parse .standard "b::->").steps⟩ ∧
    engine.checkRule .filter "a-" = .ok ⟨[{ name := "a-" }]⟩ ∧
    ∃ procedure, engine.registry.resolve? .filter "a-" = some procedure ∧
      (engine.invocations .filter (.bool true) "a-->b::->").head? =
        some ⟨0, procedure, .bool true, []⟩ := by
  intro keep clear operations engine
  have hname : "a-" ∈ (Registry.run { delimiters := .standard } operations).1.names .filter := by
    decide +kernel
  obtain ⟨-, -, hread, hcheck, -, hfirst⟩ :=
    stored_name_reached .standard operations .filter "a-" "b::->" (.bool true) hname
  exact ⟨hname, hread, hcheck, hfirst⟩

end Engine

end ValueRules
