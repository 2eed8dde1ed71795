import ValueRules.Proofs.Text.Occurrences

/-!
Texts without a character of a token. The token cannot reach into such a text, so it stands wholly
before it or wholly behind it; `infix_append_intercalate_iff` says this of a whole row of them.
-/

namespace ValueRules.Text

/-- No character of the text is one of the token. -/
def Foreign (token text : List Char) : Prop := ∀ c ∈ text, c ∉ token

instance (token text : List Char) : Decidable (Foreign token text) :=
  List.decidableBAll (· ∉ token) text

/-- A token begins with a character of its own. -/
theorem Foreign.not_prefix_append {token text : List Char} (h : Foreign token text)
    (after : List Char) (htext : text ≠ []) (htoken : token ≠ []) : ¬ token <+: text ++ after := by
  intro hprefix
  cases text with
  | nil => exact htext rfl
  | cons c text =>
    cases token with
    | nil => exact htoken rfl
    | cons d token =>
      obtain ⟨rfl, -⟩ := List.cons_prefix_cons.mp hprefix
      exact h d List.mem_cons_self List.mem_cons_self

theorem Foreign.not_standsAt {token text : List Char} (h : Foreign token text)
    (htoken : token ≠ []) (after : List Char) {i : Nat} (hi : i < text.length) :
    ¬ StandsAt token (text ++ after) i := by
  have hrest : Foreign token (text.drop i) := fun c hc => h c (List.mem_of_mem_drop hc)
  have hne : text.drop i ≠ [] := by
    intro hnone
    have hle := List.drop_eq_nil_iff.mp hnone
    omega
  rw [StandsAt, List.drop_append_of_le_length hi.le]
  exact hrest.not_prefix_append after hne htoken

theorem Foreign.closes_append {token text before : List Char} (h : Foreign token text)
    (htoken : token ≠ []) (hbefore : Closes token before) : Closes token (text ++ before) := by
  apply Text.closes_append.mpr
  exact ⟨fun i hi => h.not_standsAt htoken (before ++ token) hi, hbefore⟩

/-- Right after a foreign text the token begins no earlier. -/
theorem Foreign.closes {token text : List Char} (h : Foreign token text) (htoken : token ≠ []) :
    Closes token text := by
  intro i hi
  exact h.not_standsAt htoken token hi

theorem Foreign.not_infix {token text : List Char} (h : Foreign token text) (htext : text ≠ []) :
    ¬ text <:+: token := by
  intro hinfix
  obtain ⟨c, hc⟩ := List.exists_mem_of_ne_nil text htext
  exact h c hc (List.IsInfix.subset hinfix hc)

/-- A token stands on one side of a foreign text. -/
theorem Foreign.infix_append {token middle : List Char} (h : Foreign token middle)
    (hmiddle : middle ≠ []) (htoken : token ≠ []) {before after : List Char}
    (hstands : token <:+: before ++ (middle ++ after)) : token <:+: before ∨ token <:+: after := by
  obtain ⟨left, right, htext⟩ := hstands
  rw [List.append_assoc] at htext
  rcases List.append_eq_append_iff.mp htext with ⟨rest, rfl, hrest⟩ | ⟨rest, rfl, hrest⟩
  · -- A token that begins in `before` ends there, or its end would begin `middle`.
    rcases List.append_eq_append_iff.mp hrest with ⟨tail, rfl, -⟩ | ⟨tail, rfl, htail⟩
    · exact Or.inl ⟨left, tail, List.append_assoc _ _ _⟩
    · have hend : Foreign tail middle := fun c hc hmem =>
        h c hc (List.mem_append_right rest hmem)
      by_cases hempty : tail = []
      · subst hempty
        exact Or.inl ⟨left, [], by simp⟩
      · exact absurd ⟨right, htail.symm⟩ (hend.not_prefix_append after hmiddle hempty)
  · -- One that begins later begins behind `middle`, or it would begin with one of its characters.
    rcases List.append_eq_append_iff.mp hrest with ⟨skipped, rfl, hafter⟩ | ⟨tail, rfl, htail⟩
    · exact Or.inr ⟨skipped, right, by rw [hafter, List.append_assoc]⟩
    · have hend : Foreign token tail := fun c hc => h c (List.mem_append_right rest hc)
      by_cases hempty : tail = []
      · subst hempty
        exact Or.inr ⟨[], right, htail⟩
      · exact absurd ⟨right, htail⟩ (hend.not_prefix_append after hempty htoken)

/-- Behind `before`, a row of foreign texts and of separators without the token adds no occurrence
of it. -/
theorem infix_append_intercalate_iff {token separator : List Char} {parts : List (List Char)}
    (htoken : token ≠ []) (hseparator : ¬ token <:+: separator)
    (hparts : ∀ part ∈ parts, part ≠ [] ∧ Foreign token part) {before : List Char} :
    token <:+: before ++ separator.intercalate parts ↔ token <:+: before := by
  refine ⟨fun h => ?_, fun h => h.trans (List.prefix_append _ _).isInfix⟩
  induction parts generalizing before with
  | nil => simpa using h
  | cons first others ih =>
    obtain ⟨hfirst, hothers⟩ := List.forall_mem_cons.mp hparts
    cases others with
    | nil =>
      rw [List.intercalate_singleton, ← List.append_nil first] at h
      rcases hfirst.2.infix_append hfirst.1 htoken h with h | h
      · exact h
      · exact absurd (List.infix_nil.mp h) htoken
    | cons second others =>
      rw [List.intercalate_cons_cons, List.append_assoc] at h
      rcases hfirst.2.infix_append hfirst.1 htoken h with h | h
      · exact h
      · exact absurd (ih hothers h) hseparator

/-- A foreign text between two others keeps the token from reaching across; if it is empty, they
meet. -/
theorem Foreign.closes_between {token before middle after : List Char} (h : Foreign token middle)
    (htoken : token ≠ []) (hbefore : Closes token before) (hafter : Closes token after)
    (hmeet : ∀ i < before.length, ¬ StandsAt token (before ++ (after ++ token)) i) :
    Closes token (before ++ (middle ++ after)) := by
  apply Text.closes_append.mpr
  refine ⟨?_, h.closes_append htoken hafter⟩
  intro i hi hstands
  by_cases hempty : middle = []
  · subst hempty
    exact hmeet i hi hstands
  · rw [List.append_assoc] at hstands
    have hnear : token <:+: before ++ (middle ++ []) := by
      rw [List.append_nil]
      exact hstands.infix_append hi.le (h.not_infix hempty)
    rcases h.infix_append hempty htoken hnear with hfront | hnone
    · exact hbefore.absent htoken hfront
    · exact htoken (List.infix_nil.mp hnone)

/-- Behind `before`, a row of foreign texts makes no token begin early if no two neighbours do. The
separator is not inside the token, so no more than two of them can make one. -/
theorem closes_append_intercalate {token before separator : List Char} {parts : List (List Char)}
    (htoken : token ≠ []) (hparts : ∀ part ∈ parts, Foreign token part)
    (hinside : ¬ separator <:+: token) (hseparator : Closes token separator)
    (hpair : ¬ token <:+: separator ++ separator) (hbefore : Closes token before)
    (hseam : ¬ token <:+: before ++ separator) :
    Closes token (before ++ separator.intercalate parts) := by
  -- Behind the first part the row goes on with the separator in the place of `before`.
  induction parts generalizing before with
  | nil => simpa using hbefore
  | cons first others ih =>
    obtain ⟨hfirst, hothers⟩ := List.forall_mem_cons.mp hparts
    cases others with
    | nil =>
      rw [List.intercalate_singleton, ← List.append_nil first]
      exact hfirst.closes_between htoken hbefore (closes_nil token) hbefore
    | cons second others =>
      have hrest := ih hothers hseparator hpair
      rw [List.intercalate_cons_cons, List.append_assoc]
      apply hfirst.closes_between htoken hbefore hrest
      intro i hi hstands
      rw [List.append_assoc] at hstands
      exact hseam (hstands.infix_append hi.le hinside)

end ValueRules.Text
