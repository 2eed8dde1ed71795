import ValueRules.Proofs.Pattern.Search

/-!
Expressions with the same meaning. Sequences can be grouped in any way, so that a pattern may be put
together otherwise than its text is.
-/

namespace ValueRules.Pattern

namespace Reading

variable {first first' second second' : Reading} {pre mid post : List Char}

theorem joined_congr (hfirst : ∀ pre mid post, first pre mid post ↔ first' pre mid post)
    (hsecond : ∀ pre mid post, second pre mid post ↔ second' pre mid post) :
    Joined first second pre mid post ↔ Joined first' second' pre mid post := by
  simp only [Joined, hfirst, hsecond]

theorem rounds_congr (h : ∀ pre mid post, first pre mid post ↔ second pre mid post) (k : ℕ) :
    Rounds first k pre mid post ↔ Rounds second k pre mid post := by
  induction k generalizing pre mid post with
  | zero => exact Iff.rfl
  | succ k ih => exact joined_congr h fun _ _ _ => ih

theorem joined_assoc {third : Reading} :
    Joined (Joined first second) third pre mid post ↔
      Joined first (Joined second third) pre mid post := by
  constructor
  · rintro ⟨uv, w, rfl, ⟨u, v, rfl, hfirst, hsecond⟩, hthird⟩
    rw [← List.append_assoc] at hfirst hthird
    exact ⟨u, v ++ w, List.append_assoc _ _ _, hfirst, v, w, rfl, hsecond, hthird⟩
  · rintro ⟨u, vw, rfl, hfirst, v, w, rfl, hsecond, hthird⟩
    rw [List.append_assoc] at hfirst hthird
    exact ⟨u ++ v, w, (List.append_assoc _ _ _).symm, ⟨u, v, rfl, hfirst, hsecond⟩, hthird⟩

end Reading

namespace Expr

open Reading

variable {a b d : Expr} {pre mid post : List Char}

/-- Both expressions stand for the same pieces of every text. -/
def Alike (a b : Expr) : Prop :=
  ∀ pre mid post, a.Matches pre mid post ↔ b.Matches pre mid post

theorem alike_refl (a : Expr) : Alike a a := fun _ _ _ => Iff.rfl

theorem Alike.symm (h : Alike a b) : Alike b a := fun pre mid post => (h pre mid post).symm

theorem Alike.trans (hab : Alike a b) (hbd : Alike b d) : Alike a d :=
  fun pre mid post => (hab pre mid post).trans (hbd pre mid post)

theorem Alike.seq {a' b' : Expr} (ha : Alike a a') (hb : Alike b b') :
    Alike (.seq a b) (.seq a' b') :=
  fun _ _ _ => joined_congr ha hb

theorem Alike.rep (h : Alike a b) (least : ℕ) (most : Option ℕ) :
    Alike (.rep least most a) (.rep least most b) := by
  intro pre mid post
  simp only [Matches, rounds_congr h]

theorem alike_assoc (a b d : Expr) : Alike (.seq (.seq a b) d) (.seq a (.seq b d)) :=
  fun _ _ _ => joined_assoc

theorem alike_seq_empty (a : Expr) : Alike (.seq a .empty) a := by
  intro pre mid post
  constructor
  · rintro ⟨u, v, rfl, hmatches, rfl⟩
    rwa [List.append_nil]
  · intro hmatches
    exact ⟨mid, [], (List.append_nil mid).symm, hmatches, rfl⟩

theorem Alike.isFoundIn_eq (h : Alike a b) (ha : a.Ordered) (hb : b.Ordered) (text : String) :
    a.isFoundIn text = b.isFoundIn text := by
  rw [Bool.eq_iff_iff, isFoundIn_iff ha, isFoundIn_iff hb]
  simp only [h _ _ _]

end Expr

end ValueRules.Pattern
