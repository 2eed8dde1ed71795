import ValueRules.Proofs.Pattern.Alike

/-!
What the common forms of expressions mean: an optional part, repetitions that do not look around,
and a single sign or an assertion before the rest of a pattern.
-/

namespace ValueRules

namespace CharSet

theorem holds_cons_iff {n lo hi : ℕ} {rest : List (ℕ × ℕ)} :
    holds n ((lo, hi) :: rest) = true ↔ lo ≤ n ∧ (n ≤ hi ∨ holds n rest = true) := by
  simp [holds]

@[simp] theorem holds_nil (n : ℕ) : holds n [] = false := rfl

theorem contains_singleton_iff {c d : Char} : (singleton c).contains d = true ↔ d = c := by
  have hranges : singleton c = ⟨[(c.toNat, c.toNat)]⟩ := by
    simp [singleton, ofRange, ofRanges, merge]
  rw [hranges, contains, containsCode, holds_cons_iff, holds_nil, ← Char.toNat_inj]
  simp only [Bool.false_eq_true, or_false]
  omega

end CharSet

namespace Pattern.Expr

open Reading

variable {a e : Expr} {pre mid post : List Char}

theorem matches_optional_iff :
    (optional a).Matches pre mid post ↔ mid = [] ∨ a.Matches pre mid post := by
  have hone : Rounds a.Matches 1 pre mid post ↔ a.Matches pre mid post :=
    alike_seq_empty a pre mid post
  constructor
  · rintro ⟨k, -, hmost, hrounds⟩
    have hk : k ≤ 1 := hmost 1 rfl
    rcases Nat.le_one_iff_eq_zero_or_eq_one.mp hk with rfl | rfl
    · exact Or.inl hrounds
    · exact Or.inr (hone.mp hrounds)
  · rintro (rfl | hmatches)
    · exact ⟨0, Nat.le_refl 0, fun _ _ => Nat.zero_le _, rfl⟩
    · refine ⟨1, Nat.zero_le 1, fun greatest hgreatest => ?_, hone.mpr hmatches⟩
      obtain rfl : 1 = greatest := Option.some_inj.mp hgreatest
      exact Nat.le_refl 1

/-- Rounds that do not look around read one piece after another. -/
theorem rounds_iff_flatMap {α : Type} {round : Reading} {p : α → Prop} {write : α → List Char}
    (h : ∀ pre mid post, round pre mid post ↔ ∃ a, p a ∧ mid = write a) (k : ℕ) :
    Rounds round k pre mid post ↔
      ∃ items : List α, items.length = k ∧ (∀ a ∈ items, p a) ∧ mid = items.flatMap write := by
  induction k generalizing pre mid with
  | zero =>
    constructor
    · rintro rfl
      exact ⟨[], rfl, List.forall_mem_nil p, rfl⟩
    · rintro ⟨items, hlength, -, rfl⟩
      rw [List.length_eq_zero_iff.mp hlength]
      rfl
  | succ k ih =>
    constructor
    · rintro ⟨u, v, rfl, hround, hrounds⟩
      obtain ⟨a, ha, rfl⟩ := (h pre u _).mp hround
      obtain ⟨items, hlength, hitems, rfl⟩ := ih.mp hrounds
      exact ⟨a :: items, congrArg (· + 1) hlength, List.forall_mem_cons.mpr ⟨ha, hitems⟩, rfl⟩
    · rintro ⟨items, hlength, hitems, rfl⟩
      cases items with
      | nil => cases hlength
      | cons a items =>
        obtain ⟨ha, hitems⟩ := List.forall_mem_cons.mp hitems
        have hround := (h pre (write a) (items.flatMap write ++ post)).mpr ⟨a, ha, rfl⟩
        have hrounds : Rounds round k (pre ++ write a) (items.flatMap write) post :=
          ih.mpr ⟨items, Nat.succ.inj hlength, hitems, rfl⟩
        exact ⟨write a, items.flatMap write, rfl, hround, hrounds⟩

theorem rounds_chars_iff (set : CharSet) (k : ℕ) :
    Rounds (chars set).Matches k pre mid post ↔
      mid.length = k ∧ ∀ c ∈ mid, set.contains c = true := by
  have hone : ∀ pre mid post, (chars set).Matches pre mid post ↔
      ∃ c, set.contains c = true ∧ mid = [c] := fun _ _ _ => Iff.rfl
  rw [rounds_iff_flatMap hone]
  simp only [List.flatMap_singleton']
  constructor
  · rintro ⟨cs, hlength, hall, rfl⟩
    exact ⟨hlength, hall⟩
  · rintro ⟨hlength, hall⟩
    exact ⟨mid, hlength, hall, rfl⟩

/-- A repetition of single characters asks for the length of the piece. -/
theorem matches_rep_chars_iff {least : ℕ} {most : Option ℕ} {set : CharSet} :
    (rep least most (chars set)).Matches pre mid post ↔
      least ≤ mid.length ∧ (∀ greatest ∈ most, mid.length ≤ greatest) ∧
        ∀ c ∈ mid, set.contains c = true := by
  constructor
  · rintro ⟨k, hleast, hmost, hrounds⟩
    obtain ⟨rfl, hall⟩ := (rounds_chars_iff set k).mp hrounds
    exact ⟨hleast, hmost, hall⟩
  · rintro ⟨hleast, hmost, hall⟩
    exact ⟨mid.length, hleast, hmost, (rounds_chars_iff set _).mpr ⟨rfl, hall⟩⟩

theorem matches_sign_seq_iff {sign : Char} :
    (seq (chars (.singleton sign)) e).Matches pre mid post ↔
      ∃ rest, mid = sign :: rest ∧ e.Matches (pre ++ [sign]) rest post := by
  constructor
  · rintro ⟨u, rest, rfl, ⟨c, hc, rfl⟩, hrest⟩
    obtain rfl := CharSet.contains_singleton_iff.mp hc
    exact ⟨rest, rfl, hrest⟩
  · rintro ⟨rest, rfl, hrest⟩
    have hsign : (CharSet.singleton sign).contains sign = true :=
      CharSet.contains_singleton_iff.mpr rfl
    exact ⟨[sign], rest, rfl, ⟨sign, hsign, rfl⟩, hrest⟩

theorem matches_look_seq_iff {l : Look} :
    (seq (look l) e).Matches pre mid post ↔
      l.holds (.between pre (mid ++ post)) = true ∧ e.Matches pre mid post := by
  constructor
  · rintro ⟨u, v, rfl, ⟨rfl, hlook⟩, he⟩
    rw [List.append_nil] at he
    exact ⟨hlook, he⟩
  · rintro ⟨hlook, he⟩
    refine ⟨[], mid, rfl, ⟨rfl, hlook⟩, ?_⟩
    rwa [List.append_nil]

theorem textStart_holds_iff : Look.textStart.holds (.between pre post) = true ↔ pre = [] := by
  simp [Look.holds, Place.between]

theorem textEnd_holds_iff : Look.textEnd.holds (.between pre post) = true ↔ post = [] := by
  simp [Look.holds, Place.between]

end Pattern.Expr

end ValueRules
