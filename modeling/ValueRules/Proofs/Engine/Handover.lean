import ValueRules.Engine
import ValueRules.Proofs.Builder.Warning

/-!
What a builder hands over runs the same way as a rule text and as a chain. An empty buffer is not
read back from its text: it renders to the empty text, which is read as one nameless step. But both
are blank, and so `handover_runs_alike` holds for it too.
-/

namespace ValueRules

/-- A builder that warned of no step holds only steps that are read back. -/
theorem Builder.AccountedBy.roundTrips {builder : Builder} {delimiters : Delimiters}
    {records : List Builder.Record} (h : builder.AccountedBy delimiters records) {buffer : Buffer}
    (hquiet : ∀ addition ∈ Builder.pendingAdditions buffer records, ¬ addition.Warned) :
    ∀ step ∈ builder.steps buffer, step.roundTrips delimiters = true := by
  rw [h.steps_eq, List.forall_mem_map]
  intro addition haddition
  have hnot := hquiet addition haddition
  rwa [h.warned_iff buffer addition haddition, Bool.not_eq_false] at hnot

namespace Engine

/-- A blank chain is left alone by both routes; any other chain comes back from its text. -/
theorem run_render_of_roundTrips (engine : Engine) (value : Value) {chain : Chain}
    (h : ∀ step ∈ chain.steps, step.roundTrips engine.delimiters = true) :
    engine.filterInput value (chain.render engine.delimiters) =
        engine.applyFilters value chain ∧
      engine.validateInput value (chain.render engine.delimiters) =
        engine.validate value chain := by
  have hsame : (engine.parse (chain.render engine.delimiters)).isBlank = chain.isBlank :=
    Chain.isBlank_parse_render engine.delimiters chain
  rw [filterInput, validateInput]
  cases hblank : chain.isBlank with
  | true =>
    -- Here the chain may be without steps, and then it is another one that is read.
    rw [hblank] at hsame
    simp [applyFilters, validate, hsame, hblank]
  | false =>
    have hsteps : chain.steps ≠ [] := fun hnone => by simp [Chain.isBlank, hnone] at hblank
    have hread : engine.parse (chain.render engine.delimiters) = chain :=
      Chain.parse_render_of_roundTrips hsteps h
    rw [hread]
    exact ⟨rfl, rfl⟩

/-- Whatever an engine's builder has been asked before, a buffer without a step that was warned of
runs the same way from its text and as a chain: with the same result, the same calls and the same
events. Blank chains are those with an empty text, under all delimiters. -/
theorem handover_runs_alike (engine : Engine) (operations : List Builder.Operation)
    (buffer : Buffer) (value : Value) :
    (∀ (delimiters : Delimiters) (chain : Chain),
      chain.isBlank = true ↔ chain.render delimiters = "") ∧
    let builder := (engine.builder.run operations).2
    ((∀ addition ∈ Builder.pendingAdditions buffer (engine.builder.run operations).1,
        ¬ addition.Warned) →
      engine.filterInput value (builder.drain buffer).1 =
          engine.applyFilters value (builder.drainChain buffer).1 ∧
        engine.validateInput value (builder.drain buffer).1 =
          engine.validate value (builder.drainChain buffer).1) := by
  refine ⟨Chain.isBlank_iff_render_eq_empty, fun hquiet => ?_⟩
  have haccount := (Builder.accountedBy_nil engine.delimiters).run operations
  rw [List.nil_append] at haccount
  have hrounds := haccount.roundTrips hquiet
  -- The text was rendered with the builder's delimiters, and the engine reads it with its own.
  have hdelimiters : (engine.builder.run operations).2.delimiters = engine.delimiters :=
    haccount.delimiters_eq
  rw [Builder.drain, Builder.drainChain]
  simp only [Builder.delimiters_withSteps, hdelimiters]
  exact engine.run_render_of_roundTrips value hrounds

/-- A warned step in the other buffer and one that is gone already have no part in it. Both routes
stop at the nameless step that is left at the end of the text. -/
theorem handover_runs_alike_nameless :
    let same : Filter := { apply := fun value _ => .ok value }
    let engine : Engine := ⟨Registry.insert {} "same" (.filter same)⟩
    let operations : List Builder.Operation := [.conditionWith "len:" ["3"],
      .filterWith "len:" ["3"], .createFilter, .filterWith "same" ["", "a"], .filter ""]
    let chain : Chain := ⟨[⟨"same", ["", "a"]⟩, ⟨"", []⟩]⟩
    (∀ addition ∈ Builder.pendingAdditions .filter (engine.builder.run operations).1,
      ¬ addition.Warned) ∧
    engine.filterInput .null "same::,,a->" = engine.applyFilters .null chain ∧
    engine.validateInput .null "same::,,a->" = engine.validate .null chain ∧
    (engine.filterInput .null "same::,,a->").result = .error (.unknown .filter "" 1) := by
  intro same engine operations chain
  have hpending : Builder.pendingAdditions .filter (engine.builder.run operations).1 =
      [⟨⟨"same", ["", "a"]⟩, none⟩, ⟨⟨"", []⟩, none⟩] := by decide +kernel
  have hquiet : ∀ addition ∈ Builder.pendingAdditions .filter (engine.builder.run operations).1,
      ¬ addition.Warned := by
    rw [hpending]
    simp [Builder.Addition.Warned]
  have hchain : ((engine.builder.run operations).2.drainChain .filter).1 = chain := by
    decide +kernel
  have htext : ((engine.builder.run operations).2.drain .filter).1 = "same::,,a->" := by
    decide +kernel
  obtain ⟨hfilter, hvalidate⟩ := (handover_runs_alike engine operations .filter .null).2 hquiet
  rw [hchain, htext] at hfilter hvalidate
  exact ⟨hquiet, hfilter, hvalidate, by rw [hfilter]; rfl⟩

end Engine

end ValueRules
