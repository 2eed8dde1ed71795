import ValueRules.Builtins.Validators
import ValueRules.Pattern.Cache

/-!
Matching over a cache of compiled patterns, which long runs of checks can share.
-/

namespace ValueRules.Builtins

open Pattern (Cache Matcher)

variable {ε α : Type}

/-- The verdict of `matchesBy` with patterns from the cache, and the cache after it. Only a text
brings its pattern into the cache. -/
def matchesCached (matcher : Matcher ε α) (cache : Cache α) (pick : Nat) (value : Value)
    (args : List String) : Except ProcedureError Verdict × Cache α :=
  let fetch := cache.fetch matcher.read pick
  let after := match value, args with
    | .str _, pattern :: _ => (fetch pattern).2
    | _, _ => cache
  (matchesBy matcher (fun pattern => (fetch pattern).1) value args, after)

/-- One check after another, each with its own pick, value and arguments. -/
def matchesCachedAll (matcher : Matcher ε α) (cache : Cache α) :
    List (Nat × Value × List String) → List (Except ProcedureError Verdict) × Cache α
  | [] => ([], cache)
  | (pick, value, args) :: checks =>
    let (verdict, cache) := matchesCached matcher cache pick value args
    let (verdicts, cache) := matchesCachedAll matcher cache checks
    (verdict :: verdicts, cache)

end ValueRules.Builtins
