import ValueRules.Chain
import ValueRules.Proofs.Text.Occurrences

/-!
What the reader of rule texts makes of an arbitrary text. Since rendering undoes reading, a chain is
read from some text exactly if it is read from its own rendering, and then its names and arguments
are free of the tokens that would have cut them.
-/

namespace ValueRules

namespace Delimiters

/-- Tokens without a flaw are the delimiters made of them, and there are no other delimiters. -/
theorem ofTokens_eq_ok_iff {tokens : Tokens} {delimiters : Delimiters} :
    ofTokens tokens = .ok delimiters ↔ delimiters.toTokens = tokens := by
  rw [ofTokens]
  split
  · rename_i flaw hflaw
    refine ⟨nofun, fun h => ?_⟩
    rw [← h, Tokens.flaw?_eq_none_iff.mpr delimiters.sound] at hflaw
    exact absurd hflaw nofun
  · constructor
    · intro h
      rw [← Except.ok.inj h]
    · rintro rfl
      rfl

theorem toList_get_ne_nil (delimiters : Delimiters) (role : TokenRole) :
    (delimiters.get role).toList ≠ [] := by
  simpa using delimiters.sound.get_ne_empty role

theorem chain_ne_empty (delimiters : Delimiters) : delimiters.chain ≠ "" :=
  delimiters.sound.get_ne_empty .chain

theorem args_ne_empty (delimiters : Delimiters) : delimiters.args ≠ "" :=
  delimiters.sound.get_ne_empty .args

theorem glue_ne_empty (delimiters : Delimiters) : delimiters.glue ≠ "" :=
  delimiters.sound.get_ne_empty .glue

end Delimiters

namespace Step

theorem parse_of_not_occurs {delimiters : Delimiters} {text : String}
    (h : ¬ Text.Occurs delimiters.args text) : parse delimiters text = { name := text } := by
  rw [parse, Text.splitOnce?_eq_none_iff.mpr h]

/-- The name of a step that was read ends where the args token begins. -/
theorem name_not_occurs (delimiters : Delimiters) (text : String) :
    ¬ Text.Occurs delimiters.args (parse delimiters text).name := by
  unfold parse
  split
  · rename_i name rest h
    obtain ⟨-, hclose⟩ := Text.splitOnce?_eq_some_iff.mp h
    exact hclose.absent (delimiters.toList_get_ne_nil .args)
  · rename_i h
    exact Text.splitOnce?_eq_none_iff.mp h

theorem args_not_occurs (delimiters : Delimiters) (text : String) :
    ∀ arg ∈ (parse delimiters text).args, ¬ Text.Occurs delimiters.glue arg := by
  intro arg harg
  unfold parse at harg
  split at harg
  · exact Text.not_occurs_of_mem_split delimiters.glue_ne_empty harg
  · exact absurd harg List.not_mem_nil

/-- Reading a step makes up no character. -/
theorem name_occurs (delimiters : Delimiters) (text : String) :
    Text.Occurs (parse delimiters text).name text := by
  unfold parse
  split
  · rename_i name rest h
    rw [Text.eq_append_of_splitOnce? h]
    exact ⟨[], delimiters.args.toList ++ rest.toList, by simp⟩
  · exact List.infix_refl _

theorem args_occurs (delimiters : Delimiters) (text : String) :
    ∀ arg ∈ (parse delimiters text).args, Text.Occurs arg text := by
  intro arg harg
  unfold parse at harg
  split at harg
  · rename_i name rest h
    have hrest : Text.Occurs rest text := by
      rw [Text.eq_append_of_splitOnce? h]
      exact ⟨name.toList ++ delimiters.args.toList, [], by simp⟩
    exact (Text.occurs_of_mem_split harg).trans hrest
  · exact absurd harg List.not_mem_nil

end Step

namespace Chain

theorem length_parse (delimiters : Delimiters) (text : String) :
    (parse delimiters text).length = (Text.split delimiters.chain text).length := by
  rw [length, parse, List.length_map]

/-- What stands before the first chain token is one step, and the rest is read on its own. -/
theorem parse_append {delimiters : Delimiters} {before : String} (after : String)
    (h : Text.Closes delimiters.chain.toList before.toList) :
    parse delimiters (before ++ delimiters.chain ++ after) =
      ⟨Step.parse delimiters before :: (parse delimiters after).steps⟩ := by
  rw [parse, Text.split_append after delimiters.chain_ne_empty h, List.map_cons, parse]

/-- A step that was read is read from a piece that the chain token does not cut any further. -/
theorem exists_piece {delimiters : Delimiters} {text : String} {step : Step}
    (h : step ∈ (parse delimiters text).steps) :
    ∃ piece, ¬ Text.Occurs delimiters.chain piece ∧ Step.parse delimiters piece = step := by
  obtain ⟨piece, hpiece, hstep⟩ := List.mem_map.mp h
  exact ⟨piece, Text.not_occurs_of_mem_split delimiters.chain_ne_empty hpiece, hstep⟩

theorem name_not_occurs {delimiters : Delimiters} {text : String} {step : Step}
    (h : step ∈ (parse delimiters text).steps) :
    ¬ Text.Occurs delimiters.chain step.name ∧ ¬ Text.Occurs delimiters.args step.name := by
  obtain ⟨piece, hpiece, rfl⟩ := exists_piece h
  exact ⟨fun hc => hpiece (hc.trans (Step.name_occurs delimiters piece)),
    Step.name_not_occurs delimiters piece⟩

theorem args_not_occurs {delimiters : Delimiters} {text : String} {step : Step}
    (h : step ∈ (parse delimiters text).steps) :
    ∀ arg ∈ step.args, ¬ Text.Occurs delimiters.chain arg ∧ ¬ Text.Occurs delimiters.glue arg := by
  obtain ⟨piece, hpiece, rfl⟩ := exists_piece h
  intro arg harg
  exact ⟨fun hc => hpiece (hc.trans (Step.args_occurs delimiters piece arg harg)),
    Step.args_not_occurs delimiters piece arg harg⟩

theorem parse_injective (delimiters : Delimiters) : Function.Injective (parse delimiters) := by
  intro text text' h
  calc
    text = (parse delimiters text).render delimiters := (render_parse delimiters text).symm
    _ = (parse delimiters text').render delimiters := by rw [h]
    _ = text' := render_parse delimiters text'

theorem exists_parse_eq_iff (delimiters : Delimiters) (chain : Chain) :
    (∃ text, parse delimiters text = chain) ↔
      parse delimiters (chain.render delimiters) = chain := by
  constructor
  · rintro ⟨text, rfl⟩
    rw [render_parse]
  · intro h
    exact ⟨_, h⟩

/-- One more step is read than there are occurrences of the chain token, taken from the left. -/
theorem length_parse_eq_card (delimiters : Delimiters) (text : String) :
    ∃ starts, (∀ others, Text.Leftmost delimiters.chain.toList text.toList others ↔
      others = starts) ∧ (parse delimiters text).length = starts.card + 1 := by
  have htoken : delimiters.chain.toList ≠ [] := delimiters.toList_get_ne_nil .chain
  obtain ⟨starts, hstarts, hcard⟩ := Text.exists_leftmost text.toList htoken
  refine ⟨starts, fun others => ⟨fun h => h.unique hstarts, fun h => h ▸ hstarts⟩, ?_⟩
  rw [length_parse, Text.split, List.length_map, hcard]

/-- Reading loses nothing: the text can be written again from the chain. -/
theorem parse_loses_nothing (delimiters : Delimiters) :
    (∀ text, (parse delimiters text).render delimiters = text) ∧
    Function.Injective (parse delimiters) ∧
    (∀ chain : Chain, (∃ text, parse delimiters text = chain) ↔
      parse delimiters (chain.render delimiters) = chain) ∧
    ∀ text,
      (∃ starts, (∀ others, Text.Leftmost delimiters.chain.toList text.toList others ↔
        others = starts) ∧ (parse delimiters text).length = starts.card + 1) ∧
      ∀ step ∈ (parse delimiters text).steps,
        ¬ Text.Occurs delimiters.chain step.name ∧ ¬ Text.Occurs delimiters.args step.name ∧
        ∀ arg ∈ step.args,
          ¬ Text.Occurs delimiters.chain arg ∧ ¬ Text.Occurs delimiters.glue arg := by
  refine ⟨render_parse delimiters, parse_injective delimiters, exists_parse_eq_iff delimiters,
    fun text => ⟨length_parse_eq_card delimiters text, fun step hstep => ?_⟩⟩
  obtain ⟨hchain, hargs⟩ := name_not_occurs hstep
  exact ⟨hchain, hargs, args_not_occurs hstep⟩

/-- No argument and one empty argument are written differently, so both come back. -/
example : (parse .standard "trim->trim::").steps =
    [{ name := "trim" }, { name := "trim", args := [""] }] := by decide +kernel

end Chain

end ValueRules
