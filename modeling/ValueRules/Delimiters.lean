import ValueRules.Text.Cut
import ValueRules.Text.Quoted

/-!
The three tokens of a rule text: one between steps, one between a step's name and its arguments, one
between two arguments. `Delimiters` are tokens none of which is empty or stands inside another;
`Tokens.flaw?` names the first thing wrong with the rest.
-/

namespace ValueRules

/-- The three roles a token can have. -/
inductive TokenRole where
  | chain
  | args
  | glue
deriving DecidableEq, Repr

namespace TokenRole

def name : TokenRole → String
  | chain => "chain"
  | args => "args"
  | glue => "glue"

/-- All roles, in the order in which they are looked at. -/
def all : List TokenRole := [chain, args, glue]

theorem mem_all (role : TokenRole) : role ∈ all := by
  cases role <;> simp [all]

end TokenRole

/-- Three tokens, which need not be usable together. -/
structure Tokens where
  chain : String := "->"
  args : String := "::"
  glue : String := ",,"
deriving DecidableEq, Repr

/-- Why three tokens cannot delimit rule texts. -/
inductive DelimitersError where
  | emptyToken (role : TokenRole)
  | overlappingTokens (inner outer : String)
deriving DecidableEq, Repr

namespace DelimitersError

def message : DelimitersError → String
  | emptyToken role => s!"the {role.name} token must not be empty"
  | overlappingTokens inner outer => s!"token '{inner}' occurs inside token '{outer}'"

end DelimitersError

namespace Tokens

def get (tokens : Tokens) : TokenRole → String
  | .chain => tokens.chain
  | .args => tokens.args
  | .glue => tokens.glue

def toList (tokens : Tokens) : List String :=
  [tokens.chain, tokens.args, tokens.glue]

/-- No token is empty and none stands inside another. -/
structure Sound (tokens : Tokens) : Prop where
  get_ne_empty : ∀ role, tokens.get role ≠ ""
  not_occurs : ∀ inner outer, inner ≠ outer → ¬ Text.Occurs (tokens.get inner) (tokens.get outer)

/-- Every ordered pair of roles, the inner one varying slowest. -/
def rolePairs : List (TokenRole × TokenRole) :=
  TokenRole.all.flatMap fun inner => TokenRole.all.map fun outer => (inner, outer)

/-- The first flaw: empty tokens come before overlapping ones. -/
def flaw? (tokens : Tokens) : Option DelimitersError :=
  match TokenRole.all.find? fun role => tokens.get role = "" with
  | some role => some (.emptyToken role)
  | none =>
    let overlap? := rolePairs.find? fun (inner, outer) =>
      inner ≠ outer ∧ Text.Occurs (tokens.get inner) (tokens.get outer)
    overlap?.map fun (inner, outer) =>
      .overlappingTokens (tokens.get inner) (tokens.get outer)

theorem mem_rolePairs (inner outer : TokenRole) : (inner, outer) ∈ rolePairs := by
  simp [rolePairs, TokenRole.mem_all]

theorem flaw?_eq_none_iff {tokens : Tokens} : tokens.flaw? = none ↔ tokens.Sound := by
  constructor
  · intro h
    rw [flaw?] at h
    split at h
    · simp at h
    · rename_i hempty
      refine ⟨fun role hrole => ?_, fun inner outer hne hoccurs => ?_⟩
      · simpa [hrole] using List.find?_eq_none.1 hempty role role.mem_all
      · simpa [hne, hoccurs] using
          List.find?_eq_none.1 (Option.map_eq_none_iff.1 h) _ (mem_rolePairs inner outer)
  · intro h
    have hempty : (TokenRole.all.find? fun role => tokens.get role = "") = none :=
      List.find?_eq_none.2 fun role _ => by simp [h.get_ne_empty role]
    simp only [flaw?, hempty]
    exact Option.map_eq_none_iff.2 <| List.find?_eq_none.2 fun (inner, outer) _ => by
      simpa using h.not_occurs inner outer

end Tokens

/-- Tokens that can delimit rule texts. -/
structure Delimiters extends Tokens where
  sound : toTokens.Sound
deriving DecidableEq

namespace Delimiters

/-- The tokens, if nothing is wrong with them. -/
def ofTokens (tokens : Tokens) : Except DelimitersError Delimiters :=
  match h : tokens.flaw? with
  | some flaw => .error flaw
  | none => .ok ⟨tokens, Tokens.flaw?_eq_none_iff.1 h⟩

/-- An arrow between steps, two colons before the arguments, two commas between them. -/
def standard : Delimiters :=
  ⟨{}, Tokens.flaw?_eq_none_iff.1 (by decide +kernel)⟩

instance : Inhabited Delimiters := ⟨standard⟩

/-- The first token that stands in `text`. -/
def reservedIn? (delimiters : Delimiters) (text : String) : Option String :=
  delimiters.toList.find? fun token => Text.Occurs token text

/-- The first token that can follow a name and, written right after `text`, begins too early. -/
def splicedAfter? (delimiters : Delimiters) (text : String) : Option String :=
  [delimiters.chain, delimiters.args].find? fun token =>
    Text.position? token (text ++ token) ≠ some text.length

/-- The tokens as a JSON object. -/
def json (delimiters : Delimiters) : String :=
  Text.braced [("chain", Text.quote delimiters.chain), ("args", Text.quote delimiters.args),
    ("glue", Text.quote delimiters.glue)]

end Delimiters

end ValueRules
