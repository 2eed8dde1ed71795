import Mathlib.Data.List.Infix
import ValueRules.Proofs.Chain.RoundTrip

/-!
Joining two rule texts by a chain token. Behind a text the token may begin early, with the end of
that text; this takes a token whose end is also its beginning. `parse_concat_iff` says that for
every other chain token, and for no such one, the joined text is read as the two chains one after
the other.
-/

namespace ValueRules

namespace Text

/-- A beginning of the token, neither empty nor all of it, is also its end. -/
def Bordered (token : List Char) : Prop :=
  ∃ border, border ≠ [] ∧ border ≠ token ∧ border <+: token ∧ border <:+ token

theorem bordered_iff_take {token : List Char} :
    Bordered token ↔ ∃ k < token.length, 0 < k ∧ token.take k <:+ token := by
  constructor
  · rintro ⟨border, hne, hproper, hbegins, hends⟩
    refine ⟨border.length, ?_, List.length_pos_iff.mpr hne, ?_⟩
    · have hle := hbegins.length_le
      have hlength : border.length ≠ token.length := fun h => hproper (hbegins.eq_of_length h)
      omega
    · rwa [← List.prefix_iff_eq_take.mp hbegins]
  · rintro ⟨k, hk, hpos, hends⟩
    refine ⟨token.take k, ?_, ?_, List.take_prefix k token, hends⟩
    · intro h
      have hlength := congrArg List.length h
      rw [List.length_take, List.length_nil] at hlength
      omega
    · intro h
      have hlength := congrArg List.length h
      rw [List.length_take] at hlength
      omega

instance (token : List Char) : Decidable (Bordered token) :=
  decidable_of_iff _ bordered_iff_take.symm

/-- A token that begins inside `before` and ends behind it overlaps with itself. -/
theorem closes_of_absent {token before : List Char} (hborder : ¬ Bordered token)
    (habsent : ¬ token <:+: before) : Closes token before := by
  rintro i hi ⟨after, hstands⟩
  have hpos : (before.drop i).length ≠ 0 := by
    rw [List.length_drop]
    omega
  rw [List.drop_append_of_le_length hi.le] at hstands
  rcases List.append_eq_append_iff.mp hstands with ⟨rest, hrest, -⟩ | ⟨border, hfront, hback⟩
  · exact habsent (List.IsInfix.trans ⟨[], rest, hrest.symm⟩ (List.drop_suffix i before).isInfix)
  · refine hborder ⟨border, ?_, ?_, ⟨after, hback.symm⟩, ⟨_, hfront.symm⟩⟩
    · rintro rfl
      rw [List.append_nil] at hfront
      exact habsent (hfront ▸ (List.drop_suffix i before).isInfix)
    · rintro rfl
      have hlength := congrArg List.length hfront
      rw [List.length_append] at hlength
      omega

/-- The front of a bordered token, up to its border, is a text that the token does not close. -/
theorem Bordered.exists_not_closes {token : List Char} (h : Bordered token) :
    ∃ before, ¬ token <:+: before ∧ ¬ Closes token before := by
  obtain ⟨border, hne, hproper, ⟨after, hfront⟩, before, hback⟩ := h
  have hpos := List.length_pos_iff.mpr hne
  have hlength := congrArg List.length hback
  rw [List.length_append] at hlength
  have hbefore : before ≠ [] := by
    rintro rfl
    exact hproper hback
  refine ⟨before, fun hinfix => ?_, fun hclose => ?_⟩
  · have hle := hinfix.length_le
    omega
  · refine hclose 0 (List.length_pos_iff.mpr hbefore) ⟨after, ?_⟩
    calc
      token ++ after = before ++ border ++ after := by rw [hback]
      _ = before ++ token := by rw [List.append_assoc, hfront]

theorem not_bordered_iff {token : List Char} :
    ¬ Bordered token ↔ ∀ before, ¬ token <:+: before → Closes token before := by
  constructor
  · intro h before habsent
    exact closes_of_absent h habsent
  · intro h hborder
    obtain ⟨before, habsent, hopen⟩ := hborder.exists_not_closes
    exact hopen (h before habsent)

/-- The pieces of the first text are cut off one by one; the token behind its last piece is then the
next one met. -/
theorem pieces_concat {token : List Char} (htoken : token ≠ []) (hborder : ¬ Bordered token)
    (first second : List Char) :
    pieces token (first ++ token ++ second) = pieces token first ++ pieces token second := by
  fun_induction pieces token first with
  | case1 => contradiction
  | case2 text _ hcut =>
    have hclose := closes_of_absent hborder (cut?_eq_none_iff.mp hcut)
    rw [pieces_append second htoken hclose, List.singleton_append]
  | case3 text _ before after hcut ih =>
    obtain ⟨rfl, hclose⟩ := cut?_eq_some_iff.mp hcut
    have hassoc : before ++ token ++ after ++ token ++ second =
        before ++ token ++ (after ++ token ++ second) := by simp only [List.append_assoc]
    rw [hassoc, pieces_append _ htoken hclose, ih, List.cons_append]

theorem split_concat {token : String} (htoken : token ≠ "") (hborder : ¬ Bordered token.toList)
    (first second : String) :
    split token (first ++ token ++ second) = split token first ++ split token second := by
  have hlists : token.toList ≠ [] := by simpa using htoken
  rw [split, String.toList_append, String.toList_append, pieces_concat hlists hborder,
    List.map_append, split, split]

end Text

namespace Chain

variable {delimiters : Delimiters}

theorem parse_of_not_occurs {text : String} (h : ¬ Text.Occurs delimiters.chain text) :
    parse delimiters text = ⟨[Step.parse delimiters text]⟩ := by
  have halone := @parse_eq_singleton_iff delimiters (Step.parse delimiters text)
  rw [Step.render_parse] at halone
  exact halone.mpr ⟨h, rfl⟩

/-- A text without the chain token comes back as the first of two steps only if the token behind it
does not begin in it. -/
theorem closes_of_parse_concat {text : String} (habsent : ¬ Text.Occurs delimiters.chain text)
    (h : parse delimiters (text ++ delimiters.chain ++ "") =
      ⟨(parse delimiters text).steps ++ (parse delimiters "").steps⟩) :
    Text.Closes delimiters.chain.toList text.toList := by
  have hempty : ¬ Text.Occurs delimiters.chain "" := Text.not_occurs_empty delimiters.chain_ne_empty
  rw [parse_of_not_occurs habsent, parse_of_not_occurs hempty] at h
  obtain ⟨hsplit, -⟩ := parse_eq_iff.mp h
  have hjoin : text ++ delimiters.chain ++ "" = delimiters.chain.intercalate [text, ""] := by
    rw [String.intercalate_cons_cons, String.intercalate_singleton]
  have hrender : ([Step.parse delimiters text] ++ [Step.parse delimiters ""]).map
      (·.render delimiters) = [text, ""] := by
    simp [Step.render_parse]
  rw [hjoin, hrender] at hsplit
  have hpieces := (Text.split_intercalate_iff [text, ""] delimiters.chain_ne_empty
    (List.cons_ne_nil _ _)).mp hsplit
  exact hpieces.1 text (by simp)

/-- Texts joined by the chain token are always read as their chains one after the other exactly if
no beginning of the token is also its end. The standard arrow is such a token. -/
theorem parse_concat_iff :
    (∀ delimiters : Delimiters,
      (∀ first second, parse delimiters (first ++ delimiters.chain ++ second) =
        ⟨(parse delimiters first).steps ++ (parse delimiters second).steps⟩) ↔
          ¬ Text.Bordered delimiters.chain.toList) ∧
      ¬ Text.Bordered Delimiters.standard.chain.toList := by
  refine ⟨fun delimiters => ⟨fun h => ?_, fun h first second => ?_⟩, by decide⟩
  · apply Text.not_bordered_iff.mpr
    intro before habsent
    have htext : ¬ Text.Occurs delimiters.chain (String.ofList before) := by
      simpa [Text.Occurs] using habsent
    simpa using closes_of_parse_concat htext (h _ "")
  · rw [parse, Text.split_concat delimiters.chain_ne_empty h, List.map_append, parse, parse]

/-- Behind half of itself a token of two equal halves begins early. -/
example :
    let delimiters : Delimiters :=
      ⟨{ chain := "--" }, Tokens.flaw?_eq_none_iff.mp (by decide +kernel)⟩
    Text.Bordered delimiters.chain.toList ∧
    parse delimiters "trim---required" = ⟨[{ name := "trim" }, { name := "-required" }]⟩ ∧
    (parse delimiters "trim-").steps ++ (parse delimiters "required").steps =
      [{ name := "trim-" }, { name := "required" }] := by
  decide +kernel

end Chain

end ValueRules
