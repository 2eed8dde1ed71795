import ValueRules.Pattern.Matcher

/-!
A bounded cache of compiled patterns. Which entry makes room for a new one is left open: every call
brings a number that picks one.
-/

namespace ValueRules.Pattern

variable {ε α : Type}

/-- Compiled patterns by their texts. -/
structure Cache (α : Type) where
  entries : List (String × α) := []
deriving Repr, Inhabited

namespace Cache

/-- The most entries that are kept. -/
def capacity : Nat := 100

def find? (cache : Cache α) (text : String) : Option α :=
  cache.entries.lookup text

/-- Drops one entry if the cache is full. Every number picks one, since entries are counted
round. -/
def makeRoom (cache : Cache α) (pick : Nat) : Cache α :=
  if cache.entries.length < capacity then cache
  else ⟨cache.entries.eraseIdx (pick % cache.entries.length)⟩

def insert (cache : Cache α) (text : String) (compiled : α) : Cache α :=
  ⟨(text, compiled) :: cache.entries⟩

/-- The compiled pattern of a text: the one in the cache, or else a new one, which is kept. Texts
that are too long or do not compile leave no trace. -/
def fetch (compile : String → Except ε α) (cache : Cache α) (pick : Nat) (text : String) :
    Except (Refusal ε) α × Cache α :=
  if greatestLength < text.utf8ByteSize then (.error .tooLong, cache)
  else match cache.find? text with
    | some compiled => (.ok compiled, cache)
    | none =>
      match compile text with
      | .ok compiled => (.ok compiled, (cache.makeRoom pick).insert text compiled)
      | .error error => (.error (.malformed error), cache)

/-- One call after another, each with its own pick. -/
def fetchAll (compile : String → Except ε α) (cache : Cache α) :
    List (Nat × String) → List (Except (Refusal ε) α) × Cache α
  | [] => ([], cache)
  | (pick, text) :: calls =>
    let (result, cache) := cache.fetch compile pick text
    let (results, cache) := cache.fetchAll compile calls
    (result :: results, cache)

end Cache

end ValueRules.Pattern
