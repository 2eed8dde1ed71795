import ValueRules.Chain
import ValueRules.Event

/-!
Builders collect steps for two chains, one of filters and one of validators, and hand each over as a
rule text or as a chain. A step that its rule text does not give back is kept, and reported.
-/

namespace ValueRules

namespace Step

/-- The step, followed by another one, is read back as itself. -/
def roundTrips (delimiters : Delimiters) (step : Step) : Bool :=
  (Chain.parse delimiters (step.render delimiters ++ delimiters.chain)).steps =
    [step, { name := "" }]

end Step

/-- The chain for which a step is collected. -/
inductive Buffer where
  | filter
  | rule
deriving DecidableEq, Repr, Inhabited

structure Builder where
  delimiters : Delimiters := .standard
  filters : List Step := []
  rules : List Step := []
deriving Inhabited

namespace Builder

/-- The steps collected for a chain since it was last handed over. -/
def steps (builder : Builder) : Buffer → List Step
  | .filter => builder.filters
  | .rule => builder.rules

def withSteps (builder : Builder) (buffer : Buffer) (steps : List Step) : Builder :=
  match buffer with
  | .filter => { builder with filters := steps }
  | .rule => { builder with rules := steps }

def pending (builder : Builder) (buffer : Buffer) : Nat :=
  (builder.steps buffer).length

/-- Appends a step as it is. The event warns of a step that is not read back as itself. -/
def add (builder : Builder) (buffer : Buffer) (step : Step) : Builder × Option Event :=
  let warning :=
    if step.roundTrips builder.delimiters then none
    else some (.unfaithfulStep step.name (step.render builder.delimiters))
  (builder.withSteps buffer (builder.steps buffer ++ [step]), warning)

/-- The collected steps as a chain, and the builder without them. -/
def drainChain (builder : Builder) (buffer : Buffer) : Chain × Builder :=
  (⟨builder.steps buffer⟩, builder.withSteps buffer [])

/-- The collected steps as a rule text, and the builder without them. -/
def drain (builder : Builder) (buffer : Buffer) : String × Builder :=
  let (chain, builder) := builder.drainChain buffer
  (chain.render builder.delimiters, builder)

@[simp] theorem steps_withSteps (builder : Builder) (buffer other : Buffer) (steps : List Step) :
    (builder.withSteps buffer steps).steps other =
      if buffer = other then steps else builder.steps other := by
  cases buffer <;> cases other <;> rfl

@[simp] theorem delimiters_withSteps (builder : Builder) (buffer : Buffer) (steps : List Step) :
    (builder.withSteps buffer steps).delimiters = builder.delimiters := by
  cases buffer <;> rfl

end Builder

end ValueRules
