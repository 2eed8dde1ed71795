import ValueRules.Proofs.Chain.Piecewise

/-!
Which delimiters write plain chains unambiguously. Plain texts keep the tokens around them apart,
but empty ones let two tokens meet; `unambiguous_iff` lists the pairs that must not make a chain
token.
-/

namespace ValueRules

/-- The name and the arguments have no character of any token. -/
def Step.Plain (delimiters : Delimiters) (step : Step) : Prop :=
  delimiters.Plain step.name ∧ ∀ arg ∈ step.args, delimiters.Plain arg

/-- Every chain of plain steps is read back from what it renders to. -/
def Delimiters.Unambiguous (delimiters : Delimiters) : Prop :=
  ∀ chain : Chain, chain.steps ≠ [] → (∀ step ∈ chain.steps, step.Plain delimiters) →
    Chain.parse delimiters (chain.render delimiters) = chain

namespace Step

variable {delimiters : Delimiters}

theorem plain_of_empty {args : List String} (hargs : ∀ arg ∈ args, arg = "") :
    Plain delimiters { name := "", args } := by
  have hempty : delimiters.Plain "" := fun role c hc => absurd hc List.not_mem_nil
  refine ⟨hempty, fun arg harg => ?_⟩
  rw [hargs arg harg]
  exact hempty

theorem toList_render_of_args {name : String} {args : List String} (hargs : args ≠ []) :
    (render delimiters { name, args }).toList =
      name.toList ++ (delimiters.args.toList ++
        delimiters.glue.toList.intercalate (args.map String.toList)) := by
  rw [render_of_args hargs, String.toList_append, String.toList_append,
    String.toList_intercalate, List.append_assoc]

/-- Once it is cut off, a plain step is read back. -/
theorem Plain.parse_render {step : Step} (h : step.Plain delimiters) :
    parse delimiters (step.render delimiters) = step := by
  obtain ⟨name, args⟩ := step
  have hname := (h.1 .args).closes (delimiters.toList_get_ne_nil .args)
  by_cases hargs : args = []
  · subst hargs
    exact parse_of_not_occurs (hname.absent (delimiters.toList_get_ne_nil .args))
  · rw [render_of_args hargs]
    apply parse_call hname hargs
    intro arg harg
    exact (h.2 arg harg .glue).closes (delimiters.toList_get_ne_nil .glue)

theorem Plain.roundTrips_iff {step : Step} (h : step.Plain delimiters) :
    step.roundTrips delimiters = true ↔
      Text.Closes delimiters.chain.toList (step.render delimiters).toList := by
  rw [Step.roundTrips_iff, and_iff_left h.parse_render]

/-- In a plain step only two neighbouring tokens can make a chain token begin early. -/
theorem Plain.closes_render {step : Step} (h : step.Plain delimiters)
    (hargs : Text.Closes delimiters.chain.toList delimiters.args.toList)
    (hglue : Text.Closes delimiters.chain.toList delimiters.glue.toList)
    (hargsGlue : ¬ delimiters.chain.toList <:+: delimiters.args.toList ++ delimiters.glue.toList)
    (hglueGlue : ¬ delimiters.chain.toList <:+: delimiters.glue.toList ++ delimiters.glue.toList) :
    Text.Closes delimiters.chain.toList (step.render delimiters).toList := by
  obtain ⟨name, args⟩ := step
  have hchain := delimiters.toList_get_ne_nil .chain
  by_cases hnone : args = []
  · subst hnone
    exact (h.1 .chain).closes hchain
  · have hinside : ¬ delimiters.glue.toList <:+: delimiters.chain.toList :=
      delimiters.sound.not_occurs .glue .chain (by decide)
    have hparts : ∀ part ∈ args.map String.toList, Text.Foreign delimiters.chain.toList part := by
      intro part hpart
      obtain ⟨arg, harg, rfl⟩ := List.mem_map.mp hpart
      exact h.2 arg harg .chain
    rw [toList_render_of_args hnone]
    apply (h.1 .chain).closes_append hchain
    exact Text.closes_append_intercalate hchain hparts hinside hglue hglueGlue hargs hargsGlue

end Step

namespace Delimiters

variable {delimiters : Delimiters}

/-- A plain step comes back from every chain exactly if it can be followed by another one. -/
theorem unambiguous_iff_closes :
    delimiters.Unambiguous ↔ ∀ step : Step, step.Plain delimiters →
      Text.Closes delimiters.chain.toList (step.render delimiters).toList := by
  constructor
  · intro h step hstep
    apply hstep.roundTrips_iff.mp
    -- The step is put in front of a nameless one, so that a chain token comes behind it.
    have hplain : ∀ other ∈ [step, { name := "" }], other.Plain delimiters := by
      intro other hother
      rcases List.mem_pair.mp hother with rfl | rfl
      · exact hstep
      · exact Step.plain_of_empty nofun
    have hback := h ⟨[step, { name := "" }]⟩ (List.cons_ne_nil _ _) hplain
    have hdropped := ((Chain.parse_render_iff (List.cons_ne_nil _ _)).mp hback).1
    exact hdropped step List.mem_cons_self
  · intro h chain hsteps hplain
    apply Chain.parse_render_of_roundTrips hsteps
    intro step hstep
    exact (hplain step hstep).roundTrips_iff.mpr (h step (hplain step hstep))

/-- Delimiters are unambiguous exactly if no two tokens that empty arguments bring together make a
chain token: neither the args token or the glue before the glue, nor one of them before the chain
token, where it would begin early. -/
theorem unambiguous_iff (delimiters : Delimiters) :
    delimiters.Unambiguous ↔
      ¬ Text.Occurs delimiters.chain (delimiters.args ++ delimiters.glue) ∧
        ¬ Text.Occurs delimiters.chain (delimiters.glue ++ delimiters.glue) ∧
        Text.position? delimiters.chain (delimiters.args ++ delimiters.chain) =
          some delimiters.args.length ∧
        Text.position? delimiters.chain (delimiters.glue ++ delimiters.chain) =
          some delimiters.glue.length := by
  have hchain := delimiters.toList_get_ne_nil .chain
  simp only [Text.position?_append_self_iff, Text.Occurs, String.toList_append]
  rw [unambiguous_iff_closes]
  constructor
  · intro h
    -- Steps without a character of their own put the tokens side by side.
    have hbare (args : List String) (hargs : args ≠ []) (hempty : ∀ arg ∈ args, arg = "") :
        Text.Closes delimiters.chain.toList (delimiters.args.toList ++
          delimiters.glue.toList.intercalate (args.map String.toList)) := by
      have hclose := h _ (Step.plain_of_empty hempty)
      rwa [Step.toList_render_of_args hargs] at hclose
    have hone := hbare [""] (by simp) (by simp)
    have htwo := hbare ["", ""] (by simp) (by simp)
    have hthree := hbare ["", "", ""] (by simp) (by simp)
    simp only [List.map_cons, List.map_nil, String.toList_empty, List.intercalate_cons_cons,
      List.intercalate_singleton, List.nil_append, List.append_nil] at hone htwo hthree
    refine ⟨htwo.absent hchain, fun hpair => ?_, hone, (Text.closes_append.mp htwo).2⟩
    exact hthree.absent hchain (hpair.trans (List.suffix_append _ _).isInfix)
  · rintro ⟨hargsGlue, hglueGlue, hargs, hglue⟩ step hstep
    exact hstep.closes_render hargs hglue hargsGlue hglueGlue

/-- Sound tokens may still be ambiguous: here the args token and the glue make a chain token. -/
example :
    let delimiters : Delimiters := ⟨{ chain := ">,", args := "=>", glue := ",;" },
      Tokens.flaw?_eq_none_iff.mp (by decide +kernel)⟩
    Step.render delimiters { name := "f", args := ["", ""] } = "f=>,;" ∧
    Chain.parse delimiters "f=>,;" = ⟨[{ name := "f=" }, { name := ";" }]⟩ := by
  decide +kernel

end Delimiters

end ValueRules
