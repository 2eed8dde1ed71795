import ValueRules.Delimiters

/-!
Chains of named steps and the rule texts that write them. Reading a rule text always succeeds;
`Chain.render_parse` says that rendering what was read gives the text back.
-/

namespace ValueRules

/-- One call of a procedure: its name and the texts passed to it. -/
structure Step where
  name : String
  args : List String := []
deriving DecidableEq, Repr, Inhabited

namespace Step

/-- The args token is written only before arguments, so that no argument and one empty argument
differ. -/
def render (delimiters : Delimiters) (step : Step) : String :=
  if step.args = [] then step.name
  else step.name ++ delimiters.args ++ delimiters.glue.intercalate step.args

/-- The leftmost args token ends the name; what follows it is split at every glue token. -/
def parse (delimiters : Delimiters) (text : String) : Step :=
  match Text.splitOnce? delimiters.args text with
  | some (name, rest) => { name, args := Text.split delimiters.glue rest }
  | none => { name := text }

theorem render_parse (delimiters : Delimiters) (text : String) :
    (parse delimiters text).render delimiters = text := by
  unfold parse
  split
  · rename_i name rest h
    rw [render, if_neg (Text.split_ne_nil _ _), Text.intercalate_split]
    exact (Text.eq_append_of_splitOnce? h).symm
  · rfl

/-- The step as a JSON object; arguments are left out when there are none. -/
def json (step : Step) : String :=
  let args :=
    if step.args = [] then [] else [("args", Text.bracketed (step.args.map Text.quote))]
  Text.braced (("name", Text.quote step.name) :: args)

end Step

/-- Steps in the order in which they run. -/
structure Chain where
  steps : List Step
deriving DecidableEq, Repr, Inhabited

namespace Chain

def length (chain : Chain) : Nat :=
  chain.steps.length

/-- The pieces between the chain tokens, each read as one step. The empty text is one step with an
empty name. -/
def parse (delimiters : Delimiters) (text : String) : Chain :=
  ⟨(Text.split delimiters.chain text).map (Step.parse delimiters)⟩

def render (delimiters : Delimiters) (chain : Chain) : String :=
  delimiters.chain.intercalate (chain.steps.map (·.render delimiters))

theorem render_parse (delimiters : Delimiters) (text : String) :
    (parse delimiters text).render delimiters = text := by
  simp [parse, render, Function.comp_def, Step.render_parse, Text.intercalate_split]

/-- Nothing to run: no step, or the one nameless step that the empty text is read as. -/
def isBlank (chain : Chain) : Bool :=
  chain.steps = [] ∨ chain.steps = [{ name := "" }]

/-- The steps as a JSON list. -/
def json (chain : Chain) : String :=
  Text.bracketed (chain.steps.map Step.json)

end Chain

end ValueRules
