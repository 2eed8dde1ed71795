import Mathlib.Data.List.Basic
import ValueRules.Pattern

/-!
What pattern expressions mean, without a search. `Expr.Matches` says which texts an expression
stands for between two others, since assertions look at the characters on both sides. The two
functions that a search is made of agree with it: `nullable_iff` for the empty text and
`derivatives_iff` for a text with a first character.
-/

namespace ValueRules.Pattern

/-- The place between what was read and what is left. -/
def Place.between (pre post : List Char) : Place :=
  ⟨pre.getLast?, post.head?⟩

/-- A relation between what stands before a piece of a text, the piece, and what stands after it. -/
abbrev Reading := List Char → List Char → List Char → Prop

namespace Reading

variable {first second round : Reading} {pre mid post : List Char} {c : Char}

/-- A piece that is read in two parts. -/
def Joined (first second : Reading) : Reading := fun pre mid post =>
  ∃ u v, mid = u ++ v ∧ first pre u (v ++ post) ∧ second (pre ++ u) v post

/-- A piece that is read in this many rounds. -/
def Rounds (round : Reading) : ℕ → Reading
  | 0 => fun _ mid _ => mid = []
  | k + 1 => Joined round (Rounds round k)

theorem joined_nil_iff :
    Joined first second pre [] post ↔ first pre [] post ∧ second pre [] post := by
  constructor
  · rintro ⟨u, v, hmid, hfirst, hsecond⟩
    obtain ⟨rfl, rfl⟩ := List.append_eq_nil_iff.mp hmid.symm
    rw [List.append_nil] at hsecond
    exact ⟨hfirst, hsecond⟩
  · rintro ⟨hfirst, hsecond⟩
    refine ⟨[], [], rfl, hfirst, ?_⟩
    rwa [List.append_nil]

/-- The first character is read by the first part, or else that part is empty. -/
theorem joined_cons_iff :
    Joined first second pre (c :: mid) post ↔
      (∃ u v, mid = u ++ v ∧ first pre (c :: u) (v ++ post) ∧ second (pre ++ c :: u) v post) ∨
        first pre [] (c :: mid ++ post) ∧ second pre (c :: mid) post := by
  constructor
  · rintro ⟨u, v, hmid, hfirst, hsecond⟩
    cases u with
    | nil =>
      obtain rfl : c :: mid = v := hmid
      rw [List.append_nil] at hsecond
      exact Or.inr ⟨hfirst, hsecond⟩
    | cons d u =>
      obtain ⟨rfl, rfl⟩ := List.cons_eq_cons.mp hmid
      exact Or.inl ⟨u, v, rfl, hfirst, hsecond⟩
  · rintro (⟨u, v, rfl, hfirst, hsecond⟩ | ⟨hfirst, hsecond⟩)
    · exact ⟨c :: u, v, rfl, hfirst, hsecond⟩
    · refine ⟨[], c :: mid, rfl, hfirst, ?_⟩
      rwa [List.append_nil]

theorem rounds_nil_iff {k : ℕ} : Rounds round k pre [] post ↔ k = 0 ∨ round pre [] post := by
  induction k with
  | zero => simp [Rounds]
  | succ k ih =>
    rw [Rounds, joined_nil_iff, ih]
    constructor
    · intro h
      exact Or.inr h.1
    · intro h
      have hround := h.resolve_left (Nat.succ_ne_zero k)
      exact ⟨hround, Or.inr hround⟩

/-- The first character is read by one of the rounds, and those before it are empty. -/
theorem rounds_cons_iff {k : ℕ} :
    Rounds round k pre (c :: mid) post ↔
      ∃ j, j < k ∧ (j + 1 < k → round pre [] (c :: mid ++ post)) ∧
        ∃ u v, mid = u ++ v ∧ round pre (c :: u) (v ++ post) ∧
          Rounds round j (pre ++ c :: u) v post := by
  induction k with
  | zero => simp [Rounds]
  | succ k ih =>
    -- The first round reads `c`, or it is empty and one after it reads `c`.
    rw [Rounds, joined_cons_iff, ih]
    constructor
    · rintro (hread | ⟨hempty, j, hj, -, hread⟩)
      · exact ⟨k, Nat.lt_succ_self k, fun h => absurd h (Nat.lt_irrefl _), hread⟩
      · exact ⟨j, Nat.lt_succ_of_lt hj, fun _ => hempty, hread⟩
    · rintro ⟨j, hj, hempty, hread⟩
      rcases Nat.eq_or_lt_of_le (Nat.lt_succ_iff.mp hj) with rfl | hlt
      · exact Or.inl hread
      · have hnow := hempty (Nat.succ_lt_succ hlt)
        exact Or.inr ⟨hnow, j, hlt, fun _ => hnow, hread⟩

end Reading

namespace Expr

open Reading

/-- The expression stands for `mid` between `pre` and `post`. -/
def Matches : Expr → Reading
  | empty => fun _ mid _ => mid = []
  | chars set => fun _ mid _ => ∃ c, set.contains c = true ∧ mid = [c]
  | look l => fun pre mid post => mid = [] ∧ l.holds (.between pre post) = true
  | seq a b => Joined a.Matches b.Matches
  | alt a b => fun pre mid post => a.Matches pre mid post ∨ b.Matches pre mid post
  | rep least most body => fun pre mid post =>
    ∃ k, least ≤ k ∧ (∀ greatest ∈ most, k ≤ greatest) ∧ Rounds body.Matches k pre mid post

/-- No repetition asks for more rounds than it allows. -/
def Ordered : Expr → Prop
  | empty | chars _ | look _ => True
  | seq a b | alt a b => a.Ordered ∧ b.Ordered
  | rep least most body => (∀ greatest ∈ most, least ≤ greatest) ∧ body.Ordered

variable {pre mid post : List Char} {c : Char} {e : Expr}

theorem matches_cat_iff (a b : Expr) :
    (cat a b).Matches pre mid post ↔ (seq a b).Matches pre mid post := by
  cases a with
  | empty =>
    constructor
    · intro h
      refine ⟨[], mid, rfl, rfl, ?_⟩
      rwa [List.append_nil]
    · rintro ⟨u, v, rfl, rfl, h⟩
      rwa [List.append_nil] at h
  | _ => rfl

theorem Ordered.cat {a b : Expr} (ha : a.Ordered) (hb : b.Ordered) : (Expr.cat a b).Ordered := by
  cases a with
  | empty => exact hb
  | _ => exact ⟨ha, hb⟩

theorem Ordered.derivatives {place : Place} (he : e.Ordered) :
    ∀ d ∈ e.derivatives place c, d.Ordered := by
  induction e with
  | empty => simp [Expr.derivatives]
  | look l => simp [Expr.derivatives]
  | chars set =>
    rw [Expr.derivatives]
    split <;> simp [Ordered]
  | seq a b iha ihb =>
    intro d hd
    rw [Expr.derivatives, List.mem_append, List.mem_map] at hd
    rcases hd with ⟨d', hd', rfl⟩ | hd
    · exact (iha he.1 d' hd').cat he.2
    · split at hd
      · exact ihb he.2 d hd
      · cases hd
  | alt a b iha ihb =>
    intro d hd
    rw [Expr.derivatives, List.mem_append] at hd
    exact hd.elim (iha he.1 d) (ihb he.2 d)
  | rep least most body ih =>
    intro d hd
    rw [Expr.derivatives] at hd
    split at hd
    · cases hd
    · obtain ⟨d', hd', rfl⟩ := List.mem_map.mp hd
      refine (ih he.2 d' hd').cat ⟨?_, he.2⟩
      intro greatest hgreatest
      obtain ⟨most', hmost, rfl⟩ := Option.map_eq_some_iff.mp hgreatest
      have hle := he.1 most' hmost
      split <;> omega

theorem nullable_iff (he : e.Ordered) (pre post : List Char) :
    nullable (.between pre post) e = true ↔ e.Matches pre [] post := by
  induction e with
  | empty => simp [nullable, Matches]
  | chars set => simp [nullable, Matches]
  | look l => simp [nullable, Matches]
  | seq a b iha ihb =>
    rw [nullable, Bool.and_eq_true, iha he.1, ihb he.2, Matches, joined_nil_iff]
  | alt a b iha ihb => rw [nullable, Bool.or_eq_true, iha he.1, ihb he.2, Matches]
  | rep least most body ih =>
    rw [nullable, Bool.or_eq_true, beq_iff_eq, ih he.2, Matches]
    constructor
    · rintro (rfl | hbody)
      · exact ⟨0, Nat.le_refl _, fun _ _ => Nat.zero_le _, rfl⟩
      · exact ⟨least, Nat.le_refl _, he.1, rounds_nil_iff.mpr (Or.inr hbody)⟩
    · rintro ⟨k, hleast, -, hrounds⟩
      rcases rounds_nil_iff.mp hrounds with rfl | hbody
      · exact Or.inl (Nat.le_zero.mp hleast)
      · exact Or.inr hbody

/-- What is left of the first of two expressions stands before the second. -/
theorem exists_mem_map_cat_iff {lefts : List Expr} {first : Reading}
    (h : ∀ mid post, (∃ d ∈ lefts, d.Matches (pre ++ [c]) mid post) ↔ first pre (c :: mid) post)
    (b : Expr) :
    (∃ d ∈ lefts.map (cat · b), d.Matches (pre ++ [c]) mid post) ↔
      ∃ u v, mid = u ++ v ∧ first pre (c :: u) (v ++ post) ∧
        b.Matches (pre ++ c :: u) v post := by
  have happend (u : List Char) : pre ++ [c] ++ u = pre ++ c :: u :=
    (List.append_cons pre c u).symm
  constructor
  · rintro ⟨d, hd, hmatches⟩
    obtain ⟨left, hleft, rfl⟩ := List.mem_map.mp hd
    obtain ⟨u, v, rfl, hu, hv⟩ := (matches_cat_iff left b).mp hmatches
    rw [happend] at hv
    exact ⟨u, v, rfl, (h u (v ++ post)).mp ⟨left, hleft, hu⟩, hv⟩
  · rintro ⟨u, v, rfl, hu, hv⟩
    obtain ⟨left, hleft, hu⟩ := (h u (v ++ post)).mpr hu
    rw [← happend] at hv
    exact ⟨cat left b, List.mem_map_of_mem hleft, (matches_cat_iff left b).mpr ⟨u, v, rfl, hu, hv⟩⟩

/-- Of the rounds that a repetition asks for, one reads the first character; the empty ones before
it can be as many as are needed, if there can be any. -/
theorem exists_rounds_iff {least j : ℕ} {most : Option ℕ} {idle : Prop} [Decidable idle]
    (hordered : ∀ greatest ∈ most, least ≤ greatest) (hmost : most ≠ some 0) :
    (∃ k, least ≤ k ∧ (∀ greatest ∈ most, k ≤ greatest) ∧ j < k ∧ (j + 1 < k → idle)) ↔
      (if idle then 0 else least - 1) ≤ j ∧ ∀ greatest ∈ most.map (· - 1), j ≤ greatest := by
  have hpos : ∀ greatest ∈ most, 0 < greatest := fun greatest hgreatest =>
    Nat.pos_of_ne_zero fun hzero => hmost (hzero ▸ hgreatest)
  simp only [Option.mem_def, Option.map_eq_some_iff, forall_exists_index, and_imp,
    forall_apply_eq_imp_iff₂] at hordered hpos ⊢
  constructor
  · rintro ⟨k, hleast, hgreatest, hj, hidle⟩
    constructor
    · split
      · exact Nat.zero_le j
      · rename_i hbusy
        have hlast : ¬ j + 1 < k := fun hlt => hbusy (hidle hlt)
        omega
    · intro greatest hmem
      have hle := hgreatest greatest hmem
      omega
  · rintro ⟨hleast, hgreatest⟩
    by_cases hidle : idle
    · -- Empty rounds before the one that reads make up for what is missing.
      refine ⟨max least (j + 1), by omega, fun greatest hmem => ?_, by omega, fun _ => hidle⟩
      have hle := hordered greatest hmem
      have hlt := hgreatest greatest hmem
      have hone := hpos greatest hmem
      omega
    · -- The round that reads is the first one.
      rw [if_neg hidle] at hleast
      refine ⟨j + 1, by omega, fun greatest hmem => ?_, by omega, fun hlt => by omega⟩
      have hlt := hgreatest greatest hmem
      have hone := hpos greatest hmem
      omega

theorem derivatives_iff (he : e.Ordered) :
    (∃ d ∈ e.derivatives ⟨pre.getLast?, some c⟩ c, d.Matches (pre ++ [c]) mid post) ↔
      e.Matches pre (c :: mid) post := by
  induction e generalizing mid post with
  | empty => simp [derivatives, Matches]
  | look l => simp [derivatives, Matches]
  | chars set =>
    rw [derivatives]
    split
    · rename_i hset
      simp [Matches, hset]
    · rename_i hset
      simp only [List.not_mem_nil, false_and, exists_false, Matches, false_iff]
      rintro ⟨d, hd, hmid⟩
      obtain ⟨rfl, -⟩ := List.cons_eq_cons.mp hmid
      exact hset hd
  | alt a b iha ihb =>
    simp only [derivatives, List.mem_append, or_and_right, exists_or, Matches]
    rw [iha he.1, ihb he.2]
  | seq a b iha ihb =>
    have hnullable : nullable ⟨pre.getLast?, some c⟩ a = true ↔
        a.Matches pre [] (c :: mid ++ post) :=
      nullable_iff he.1 pre (c :: mid ++ post)
    simp only [derivatives, List.mem_append, or_and_right, exists_or]
    rw [Matches, joined_cons_iff, exists_mem_map_cat_iff (fun _ _ => iha he.1), ← hnullable,
      ← ihb he.2]
    -- What is left of the second part counts only where the first one can be empty.
    apply or_congr_right
    split
    · rename_i hempty
      simp only [hempty, true_and]
    · rename_i hempty
      simp [hempty]
  | rep least most body ih =>
    have hnullable : nullable ⟨pre.getLast?, some c⟩ body = true ↔
        body.Matches pre [] (c :: mid ++ post) :=
      nullable_iff he.2 pre (c :: mid ++ post)
    rw [derivatives]
    split
    · rename_i hnone
      simp only [List.not_mem_nil, false_and, exists_false, Matches, false_iff]
      rintro ⟨k, -, hgreatest, hrounds⟩
      have hzero := Nat.le_zero.mp (hgreatest 0 hnone)
      rw [hzero] at hrounds
      cases hrounds
    · rename_i hmost
      dsimp only
      rw [exists_mem_map_cat_iff (fun _ _ => ih he.2)]
      -- Both sides name a round that reads the first character; they count the others differently.
      simp only [Matches, rounds_cons_iff, ← hnullable]
      constructor
      · rintro ⟨u, v, hmid, hbody, j, hleast, hgreatest, hrounds⟩
        obtain ⟨k, hk, hmax, hj, hidle⟩ :=
          (exists_rounds_iff he.1 hmost).mpr ⟨hleast, hgreatest⟩
        exact ⟨k, hk, hmax, j, hj, hidle, u, v, hmid, hbody, hrounds⟩
      · rintro ⟨k, hk, hmax, j, hj, hidle, u, v, hmid, hbody, hrounds⟩
        obtain ⟨hleast, hgreatest⟩ :=
          (exists_rounds_iff he.1 hmost).mp ⟨k, hk, hmax, hj, hidle⟩
        exact ⟨u, v, hmid, hbody, j, hleast, hgreatest, hrounds⟩

end Expr

end ValueRules.Pattern
