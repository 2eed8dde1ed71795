import ValueRules.Proofs.Pattern.Meaning

/-!
The search for an expression is right: it finds one in a text exactly if the text has a piece that
the expression stands for where the piece stands (`isFoundIn_iff`).
-/

namespace ValueRules.Pattern.Expr

variable {expr : Expr} {pre text : List Char} {c : Char}

theorem eq_of_same {a b : Expr} (h : same a b = true) : a = b := by
  have hdecide : decide (a = b) = true := h
  exact of_decide_eq_true hdecide

theorem mem_squeeze_iff {d : Expr} {exprs : List Expr} : d ∈ squeeze exprs ↔ d ∈ exprs := by
  fun_induction squeeze exprs with
  | case1 a b rest hsame ih =>
    obtain rfl : a = b := eq_of_same (Bool.and_eq_true_iff.mp hsame).2
    rw [ih]
    simp
  | case2 a b rest hdiffer ih =>
    rw [List.mem_cons, ih]
    exact List.mem_cons.symm
  | case3 short => rfl

theorem mem_tidy_iff {d : Expr} {exprs : List Expr} : d ∈ tidy exprs ↔ d ∈ exprs := by
  rw [tidy, mem_squeeze_iff, List.mem_mergeSort]

/-- The expression stands for a piece of the text from this place on. -/
def Begins (expr : Expr) (pre text : List Char) : Prop :=
  ∃ mid post, text = mid ++ post ∧ expr.Matches pre mid post

theorem begins_nil_iff : expr.Begins pre [] ↔ expr.Matches pre [] [] := by
  constructor
  · rintro ⟨mid, post, htext, hmatches⟩
    obtain ⟨rfl, rfl⟩ := List.append_eq_nil_iff.mp htext.symm
    exact hmatches
  · intro hmatches
    exact ⟨[], [], rfl, hmatches⟩

theorem begins_cons_iff (he : expr.Ordered) :
    expr.Begins pre (c :: text) ↔
      nullable ⟨pre.getLast?, some c⟩ expr = true ∨
        ∃ d ∈ expr.derivatives ⟨pre.getLast?, some c⟩ c, d.Begins (pre ++ [c]) text := by
  have hnullable : nullable ⟨pre.getLast?, some c⟩ expr = true ↔
      expr.Matches pre [] (c :: text) := nullable_iff he pre (c :: text)
  rw [hnullable]
  constructor
  · rintro ⟨mid, post, htext, hmatches⟩
    cases mid with
    | nil =>
      obtain rfl : c :: text = post := htext
      exact Or.inl hmatches
    | cons d mid =>
      obtain ⟨rfl, rfl⟩ := List.cons_eq_cons.mp htext
      obtain ⟨d, hd, hleft⟩ := (derivatives_iff he).mpr hmatches
      exact Or.inr ⟨d, hd, mid, post, rfl, hleft⟩
  · rintro (hempty | ⟨d, hd, mid, post, rfl, hleft⟩)
    · exact ⟨[], c :: text, rfl, hempty⟩
    · exact ⟨c :: mid, post, rfl, (derivatives_iff he).mp ⟨d, hd, hleft⟩⟩

/-- The expression stands for a piece that begins at this place or later. -/
def Occurs (expr : Expr) (pre text : List Char) : Prop :=
  ∃ skipped later, text = skipped ++ later ∧ expr.Begins (pre ++ skipped) later

theorem occurs_nil_iff : expr.Occurs pre [] ↔ expr.Begins pre [] := by
  constructor
  · rintro ⟨skipped, later, htext, hbegins⟩
    obtain ⟨rfl, rfl⟩ := List.append_eq_nil_iff.mp htext.symm
    rwa [List.append_nil] at hbegins
  · intro hbegins
    refine ⟨[], [], rfl, ?_⟩
    rwa [List.append_nil]

theorem occurs_cons_iff :
    expr.Occurs pre (c :: text) ↔
      expr.Begins pre (c :: text) ∨ expr.Occurs (pre ++ [c]) text := by
  constructor
  · rintro ⟨skipped, later, htext, hbegins⟩
    cases skipped with
    | nil =>
      obtain rfl : c :: text = later := htext
      rw [List.append_nil] at hbegins
      exact Or.inl hbegins
    | cons d skipped =>
      obtain ⟨rfl, rfl⟩ := List.cons_eq_cons.mp htext
      rw [List.append_cons] at hbegins
      exact Or.inr ⟨skipped, later, rfl, hbegins⟩
  · rintro (hbegins | ⟨skipped, later, rfl, hbegins⟩)
    · refine ⟨[], c :: text, rfl, ?_⟩
      rwa [List.append_nil]
    · rw [← List.append_cons] at hbegins
      exact ⟨c :: skipped, later, rfl, hbegins⟩

/-- What is left of the expressions after one character, repetitions dropped. -/
theorem exists_tidy_iff {states : List Expr} {place : Place} :
    (∃ d ∈ tidy (states.flatMap (derivatives place c)), d.Begins pre text) ↔
      ∃ s ∈ states, ∃ d ∈ s.derivatives place c, d.Begins pre text := by
  constructor
  · rintro ⟨d, hd, hbegins⟩
    obtain ⟨s, hs, hd⟩ := List.mem_flatMap.mp (mem_tidy_iff.mp hd)
    exact ⟨s, hs, d, hd, hbegins⟩
  · rintro ⟨s, hs, d, hd, hbegins⟩
    exact ⟨d, mem_tidy_iff.mpr (List.mem_flatMap.mpr ⟨s, hs, hd⟩), hbegins⟩

/-- The states are what is left of the expression from all places where it may have begun. -/
theorem search_iff (he : expr.Ordered) {states : List Expr} (hstates : ∀ s ∈ states, s.Ordered)
    (pre text : List Char) :
    expr.search pre.getLast? states text = true ↔
      (∃ s ∈ states, s.Begins pre text) ∨ expr.Occurs pre text := by
  induction text generalizing pre states with
  | nil =>
    -- Only the empty piece is left, so what begins here can end here.
    have hends (s : Expr) (hs : s.Ordered) :
        nullable ⟨pre.getLast?, none⟩ s = true ↔ s.Begins pre [] := by
      rw [begins_nil_iff]
      exact nullable_iff hs pre []
    rw [search, List.any_cons, Bool.or_eq_true, List.any_eq_true, hends expr he, occurs_nil_iff,
      or_comm]
    apply or_congr_left
    exact exists_congr fun s => and_congr_right fun hs => hends s (hstates s hs)
  | cons c text ih =>
    have hall : ∀ s ∈ expr :: states, s.Ordered := List.forall_mem_cons.mpr ⟨he, hstates⟩
    have hnext : ∀ d ∈ tidy ((expr :: states).flatMap (derivatives ⟨pre.getLast?, some c⟩ c)),
        d.Ordered := by
      intro d hd
      obtain ⟨s, hs, hd⟩ := List.mem_flatMap.mp (mem_tidy_iff.mp hd)
      exact (hall s hs).derivatives d hd
    have hlater := ih hnext (pre ++ [c])
    rw [List.getLast?_concat, exists_tidy_iff] at hlater
    -- What begins here ends at once, or what is left of it after `c` begins behind `c`.
    have hnow : (∃ s ∈ expr :: states, s.Begins pre (c :: text)) ↔
        (∃ s ∈ expr :: states, nullable ⟨pre.getLast?, some c⟩ s = true) ∨
          ∃ s ∈ expr :: states, ∃ d ∈ s.derivatives ⟨pre.getLast?, some c⟩ c,
            d.Begins (pre ++ [c]) text := by
      rw [← exists_or]
      refine exists_congr fun s => ?_
      rw [← and_or_left]
      exact and_congr_right fun hs => begins_cons_iff (hall s hs)
    calc
      expr.search pre.getLast? states (c :: text) = true
          ↔ (∃ s ∈ expr :: states, nullable ⟨pre.getLast?, some c⟩ s = true) ∨
              (∃ s ∈ expr :: states, ∃ d ∈ s.derivatives ⟨pre.getLast?, some c⟩ c,
                d.Begins (pre ++ [c]) text) ∨ expr.Occurs (pre ++ [c]) text := by
        rw [search, Bool.or_eq_true, List.any_eq_true, hlater]
      _ ↔ (∃ s ∈ expr :: states, s.Begins pre (c :: text)) ∨ expr.Occurs (pre ++ [c]) text := by
        rw [hnow, or_assoc]
      _ ↔ (∃ s ∈ states, s.Begins pre (c :: text)) ∨ expr.Occurs pre (c :: text) := by
        rw [occurs_cons_iff, List.exists_mem_cons_iff, or_comm (a := expr.Begins _ _), or_assoc]

theorem isFoundIn_iff (he : expr.Ordered) (text : String) :
    expr.isFoundIn text = true ↔
      ∃ pre mid post, text.toList = pre ++ mid ++ post ∧ expr.Matches pre mid post := by
  have hsearch := search_iff he (List.forall_mem_nil Ordered) [] text.toList
  rw [List.getLast?_nil] at hsearch
  rw [isFoundIn, hsearch]
  constructor
  · rintro (⟨s, hs, -⟩ | ⟨pre, later, htext, mid, post, rfl, hmatches⟩)
    · cases hs
    · rw [← List.append_assoc] at htext
      exact ⟨pre, mid, post, htext, hmatches⟩
  · rintro ⟨pre, mid, post, htext, hmatches⟩
    rw [List.append_assoc] at htext
    exact Or.inr ⟨pre, mid ++ post, htext, mid, post, rfl, hmatches⟩

end ValueRules.Pattern.Expr
