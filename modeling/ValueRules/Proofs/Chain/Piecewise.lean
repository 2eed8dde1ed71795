import ValueRules.Proofs.Chain.RoundTrip
import ValueRules.Proofs.Text.Foreign

/-!
A step is read back piece by piece: its name up to the first args token, each argument up to the
first glue token. `roundTrips_piecewise` turns the test that reads the written step again into
conditions on where the three tokens first stand.
-/

namespace ValueRules

/-- The text has no character of any token. -/
def Delimiters.Plain (delimiters : Delimiters) (arg : String) : Prop :=
  ∀ role, Text.Foreign (delimiters.get role).toList arg.toList

namespace Step

theorem render_of_args {delimiters : Delimiters} {name : String} {args : List String}
    (hargs : args ≠ []) :
    render delimiters { name, args } =
      name ++ delimiters.args ++ delimiters.glue.intercalate args :=
  if_neg hargs

theorem parse_eq_name_iff {delimiters : Delimiters} {name : String} :
    parse delimiters name = { name } ↔ ¬ Text.Occurs delimiters.args name := by
  constructor
  · intro h
    have hname := name_not_occurs delimiters name
    rwa [h] at hname
  · intro h
    exact parse_of_not_occurs h

/-- Behind the first args token nothing but the glue decides, and it decides about every argument
alone. -/
theorem parse_render_args_iff {delimiters : Delimiters} {name : String} {args : List String}
    (hargs : args ≠ []) :
    parse delimiters (render delimiters { name, args }) = { name, args } ↔
      Text.Closes delimiters.args.toList name.toList ∧
        (∀ arg ∈ args.dropLast, Text.Closes delimiters.glue.toList arg.toList) ∧
          ∀ arg ∈ args.getLast?, ¬ Text.Occurs delimiters.glue arg := by
  have hglue := Text.split_intercalate_iff args delimiters.glue_ne_empty hargs
  rw [← hglue, render_of_args hargs]
  constructor
  · intro h
    cases hcut : Text.splitOnce? delimiters.args
        (name ++ delimiters.args ++ delimiters.glue.intercalate args) with
    | none =>
      -- The args token stands in the text, and without it no argument would be read.
      rw [parse, hcut] at h
      exact absurd (mk.inj h).2.symm hargs
    | some halves =>
      obtain ⟨before, after⟩ := halves
      obtain ⟨htext, hclose⟩ := Text.splitOnce?_eq_some_iff.mp hcut
      rw [parse, hcut] at h
      obtain ⟨hbefore, hsplit⟩ := mk.inj h
      subst hbefore
      -- Both cuts are behind the same name, so the same text is left to the glue.
      have hafter : delimiters.glue.intercalate args = after := by
        have hlists := congrArg String.toList htext
        simp only [String.toList_append] at hlists
        exact String.toList_inj.mp (List.append_cancel_left hlists)
      rw [hafter]
      exact ⟨hclose, hsplit⟩
  · rintro ⟨hclose, hsplit⟩
    rw [parse, Text.splitOnce?_eq_some_iff.mpr ⟨rfl, hclose⟩]
    simp only [hsplit]

/-- The call is read back once its name ends at the args token and each argument at the glue. -/
theorem parse_call {delimiters : Delimiters} {name : String} {args : List String}
    (hname : Text.Closes delimiters.args.toList name.toList) (hargs : args ≠ [])
    (hglue : ∀ arg ∈ args, Text.Closes delimiters.glue.toList arg.toList) :
    parse delimiters (name ++ delimiters.args ++ delimiters.glue.intercalate args) =
      { name, args } := by
  rw [← render_of_args hargs]
  apply (parse_render_args_iff hargs).mpr
  refine ⟨hname, fun arg harg => hglue arg (List.mem_of_mem_dropLast harg), fun arg harg => ?_⟩
  have hclose := hglue arg (List.mem_of_mem_getLast? harg)
  exact hclose.absent (delimiters.toList_get_ne_nil .glue)

/-- A call with one plain argument can be followed by another step, if its name and the args token
can. -/
theorem roundTrips_of_plain {delimiters : Delimiters} {name arg : String}
    (hname : Text.Closes delimiters.args.toList name.toList)
    (hhead : Text.Closes delimiters.chain.toList (name ++ delimiters.args).toList)
    (harg : delimiters.Plain arg) :
    roundTrips delimiters { name, args := [arg] } = true := by
  have htoken := delimiters.toList_get_ne_nil .chain
  have hrender : render delimiters { name, args := [arg] } =
      name ++ delimiters.args ++ arg := by
    rw [render_of_args (List.cons_ne_nil _ _), String.intercalate_singleton]
  have hread := parse_call hname (List.cons_ne_nil arg []) fun other hother =>
    (List.mem_singleton.mp hother ▸ harg .glue).closes (delimiters.toList_get_ne_nil .glue)
  rw [String.intercalate_singleton] at hread
  rw [roundTrips_iff, hrender, String.toList_append, ← List.append_nil arg.toList]
  exact ⟨(harg .chain).closes_between htoken hhead (Text.closes_nil _) hhead, hread⟩

/-- A step can be followed by another one exactly if no token stands early in it. The chain token is
looked for in all of it, the args token in its name and the glue in every argument; a token that
would follow a piece may begin nowhere before the end of that piece. -/
theorem roundTrips_piecewise (delimiters : Delimiters) (step : Step) :
    step.roundTrips delimiters = true ↔
      Text.position? delimiters.chain (step.render delimiters ++ delimiters.chain) =
          some (step.render delimiters).length ∧
        (step.args = [] → ¬ Text.Occurs delimiters.args step.name) ∧
          (step.args ≠ [] →
            Text.position? delimiters.args (step.name ++ delimiters.args) =
                some step.name.length ∧
              (∀ arg ∈ step.args.dropLast,
                Text.position? delimiters.glue (arg ++ delimiters.glue) = some arg.length) ∧
                ∀ arg ∈ step.args.getLast?, ¬ Text.Occurs delimiters.glue arg) := by
  simp only [Text.position?_append_self_iff]
  rw [roundTrips_iff]
  apply and_congr_right
  intro _
  obtain ⟨name, args⟩ := step
  by_cases hargs : args = []
  · subst hargs
    simpa [render] using parse_eq_name_iff
  · rw [parse_render_args_iff hargs]
    simp [hargs]

/-- The last argument is not followed by the glue, so half a token at its end does no harm. -/
example : roundTrips .standard { name := "is", args := ["a", "b,"] } = true ∧
    roundTrips .standard { name := "is", args := ["a,", "b"] } = false := by decide +kernel

end Step

end ValueRules
