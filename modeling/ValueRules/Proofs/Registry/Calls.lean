import ValueRules.Proofs.Chain.Piecewise
import ValueRules.Proofs.Registry.Contents

/-!
Calling a stored procedure with arguments. A name that a registry accepts ends where the args token
behind it begins. The two may still make a chain token between them, and `parse_call_iff` says that
nothing else can keep a call from being read.
-/

namespace ValueRules

namespace Delimiters

theorem splicedAfter?_eq_none_iff {delimiters : Delimiters} {text : String} :
    delimiters.splicedAfter? text = none ↔
      Text.Closes delimiters.chain.toList text.toList ∧
        Text.Closes delimiters.args.toList text.toList := by
  simp [splicedAfter?, Text.position?_append_self_iff]

/-- Neither the chain token nor the args token begins early behind an accepted name. -/
theorem Accepts.closes {delimiters : Delimiters} {name : String} (h : delimiters.Accepts name) :
    Text.Closes delimiters.chain.toList name.toList ∧
      Text.Closes delimiters.args.toList name.toList :=
  splicedAfter?_eq_none_iff.mp (accepts_iff.mp h).2.2

end Delimiters

namespace Chain

/-- Plain arguments add no chain token to what the name and the args token make. -/
theorem occurs_call_iff {delimiters : Delimiters} {name : String} {args : List String}
    (hplain : ∀ arg ∈ args, arg ≠ "" ∧ delimiters.Plain arg) :
    Text.Occurs delimiters.chain (name ++ delimiters.args ++ delimiters.glue.intercalate args) ↔
      Text.Occurs delimiters.chain (name ++ delimiters.args) := by
  have hglue : ¬ Text.Occurs delimiters.chain delimiters.glue :=
    delimiters.sound.not_occurs .chain .glue (by decide)
  rw [Text.Occurs, Text.Occurs, String.toList_append, String.toList_intercalate]
  refine Text.infix_append_intercalate_iff (delimiters.toList_get_ne_nil .chain) hglue
    fun part hpart => ?_
  obtain ⟨arg, harg, rfl⟩ := List.mem_map.mp hpart
  exact ⟨by simpa using (hplain arg harg).1, (hplain arg harg).2 .chain⟩

/-- A stored name is called with plain arguments, unless a chain token reaches from the name into
the args token. -/
theorem parse_call_iff (delimiters : Delimiters) (name : String) (args : List String)
    (hname : delimiters.Accepts name) (hargs : args ≠ [])
    (hplain : ∀ arg ∈ args, arg ≠ "" ∧ delimiters.Plain arg) :
    parse delimiters (name ++ delimiters.args ++ delimiters.glue.intercalate args) =
        ⟨[{ name, args }]⟩ ↔
      ¬ Text.Occurs delimiters.chain (name ++ delimiters.args) := by
  have hglue : ∀ arg ∈ args, Text.Closes delimiters.glue.toList arg.toList := fun arg harg =>
    ((hplain arg harg).2 .glue).closes (delimiters.toList_get_ne_nil .glue)
  have hstep := Step.parse_call hname.closes.2 hargs hglue
  have halone := @parse_eq_singleton_iff delimiters { name, args }
  rw [Step.render_of_args hargs] at halone
  rw [halone, occurs_call_iff hplain, and_iff_left hstep]

/-- A name that ends in half a chain token is called all the same, if the args token does not bring
the other half. -/
theorem parse_call_half_token :
    Delimiters.standard.Accepts "pad-" ∧ ["x", "y z"] ≠ [] ∧
    (∀ arg ∈ ["x", "y z"], arg ≠ "" ∧ Delimiters.standard.Plain arg) ∧
    ¬ Text.Occurs "->" "pad-::" ∧
    parse .standard "pad-::x,,y z" = ⟨[{ name := "pad-", args := ["x", "y z"] }]⟩ := by
  have hname : Delimiters.standard.Accepts "pad-" := by decide +kernel
  have hargs : ["x", "y z"] ≠ [] := List.cons_ne_nil _ _
  have hplain : ∀ arg ∈ ["x", "y z"], arg ≠ "" ∧ Delimiters.standard.Plain arg := by
    intro arg harg
    rcases List.mem_pair.mp harg with rfl | rfl <;>
      exact ⟨by decide, fun role => by cases role <;> decide⟩
  have hchain : ¬ Text.Occurs "->" "pad-::" := by decide +kernel
  exact ⟨hname, hargs, hplain, hchain,
    (parse_call_iff .standard "pad-" ["x", "y z"] hname hargs hplain).mpr hchain⟩

/-- The args token does bring the other half: the name is accepted, and yet no call of it with an
argument is read as one step. -/
theorem accepted_name_cut_in_call :
    let delimiters : Delimiters :=
      ⟨{ chain := "->", args := ">:" }, Tokens.flaw?_eq_none_iff.mp (by decide +kernel)⟩
    delimiters.Accepts "pad-" ∧ (∀ arg ∈ ["x"], arg ≠ "" ∧ delimiters.Plain arg) ∧
    parse delimiters ("pad-" ++ delimiters.args ++ delimiters.glue.intercalate ["x"]) =
      ⟨[{ name := "pad" }, { name := ":x" }]⟩ ∧
    parse delimiters ("pad-" ++ delimiters.args ++ delimiters.glue.intercalate ["x"]) ≠
      ⟨[{ name := "pad-", args := ["x"] }]⟩ := by
  refine ⟨by decide +kernel, fun arg harg => ?_, by decide +kernel, by decide +kernel⟩
  obtain rfl := List.mem_singleton.mp harg
  exact ⟨by decide, fun role => by cases role <;> decide⟩

end Chain

end ValueRules
