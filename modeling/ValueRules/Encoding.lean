import ValueRules.Chain
import ValueRules.Value

/-!
Chains and delimiters as JSON values. `Decoding` reads the same values, and others, back.
-/

namespace ValueRules

namespace Step

/-- Arguments are left out when there are none. -/
def encode (step : Step) : Value :=
  let args := if step.args = [] then [] else [("args", .arr (step.args.map .str))]
  .obj (args ++ [("name", .str step.name)])

end Step

namespace Chain

def encode (chain : Chain) : Value :=
  .arr (chain.steps.map Step.encode)

end Chain

namespace Delimiters

def encode (delimiters : Delimiters) : Value :=
  .obj [("args", .str delimiters.args), ("chain", .str delimiters.chain),
    ("glue", .str delimiters.glue)]

end Delimiters

end ValueRules
