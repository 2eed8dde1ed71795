import ValueRules.Builtins.Cached
import ValueRules.Proofs.Pattern.Cache

/-!
Checks over a shared cache of patterns. A check with the cache gives the verdict that it gives
without one, so no order of the checks and no choice of the entries that give way can be told from
the verdicts (`cache_transparent`).
-/

namespace ValueRules.Builtins

open Pattern Cache

variable {ε α : Type} {matcher : Matcher ε α} {cache : Cache α}

theorem Sound.matchesCached (h : Sound matcher.read cache) (pick : ℕ) (value : Value)
    (args : List String) :
    (matchesCached matcher cache pick value args).1 = matchesPattern matcher value args ∧
      Sound matcher.read (matchesCached matcher cache pick value args).2 := by
  constructor
  · have hfetch : (fun pattern => (cache.fetch matcher.read pick pattern).1) =
        limited matcher.read :=
      funext fun pattern => h.fetch_eq_limited pick pattern
    unfold Builtins.matchesCached
    dsimp only
    rw [hfetch, matchesPattern]
  · unfold Builtins.matchesCached
    dsimp only
    split
    · exact h.fetch pick _
    · exact h

theorem Sound.matchesCachedAll (h : Sound matcher.read cache)
    (checks : List (ℕ × Value × List String)) :
    (matchesCachedAll matcher cache checks).1 =
      checks.map fun check => matchesPattern matcher check.2.1 check.2.2 := by
  induction checks generalizing cache with
  | nil => rfl
  | cons check rest ih =>
    obtain ⟨pick, value, args⟩ := check
    obtain ⟨hverdict, hsound⟩ := Sound.matchesCached h pick value args
    rw [List.map_cons, ← ih hsound, ← hverdict]
    rfl

/-- Nobody can tell that there is a cache. After any calls with any picks it is sound, each call has
given what compiling its text gives, and one more call does so too and changes no more than it must
(`Serves`); every entry of a full cache may be the one that gives way. So a row of checks gives the
verdicts of `matchesPattern`. -/
theorem cache_transparent {ε α : Type} (matcher : Matcher ε α) :
    (∀ calls : List (ℕ × String),
      (fetchAll matcher.read {} calls).1 = calls.map (fun call => limited matcher.read call.2) ∧
      Sound matcher.read (fetchAll matcher.read {} calls).2 ∧
      (∀ pick text, Serves matcher.read (fetchAll matcher.read {} calls).2 pick text) ∧
      ∀ text key, (∃ compiled, limited matcher.read text = .ok compiled) →
        (fetchAll matcher.read {} calls).2.find? text = none →
        (fetchAll matcher.read {} calls).2.entries.length = capacity →
        key ∈ (fetchAll matcher.read {} calls).2.keys →
          ∃ pick,
            ((fetchAll matcher.read {} calls).2.fetch matcher.read pick text).2.find? key = none) ∧
    ∀ checks : List (ℕ × Value × List String),
      (matchesCachedAll matcher {} checks).1 =
        checks.map fun check => matchesPattern matcher check.2.1 check.2.2 := by
  constructor
  · intro calls
    obtain ⟨hresults, hsound⟩ := (sound_empty matcher.read).fetchAll calls
    refine ⟨hresults, hsound, fun pick text => hsound.serves pick text, ?_⟩
    rintro text key ⟨compiled, hok⟩ hnew hfull hkey
    exact hsound.exists_fetch_dropping hfull hnew hok hkey
  · exact Sound.matchesCachedAll (sound_empty matcher.read)

end ValueRules.Builtins
