import ValueRules.Builtins.Filters
import ValueRules.Builtins.Validators
import ValueRules.Engine

/-!
The stock procedures as entries for a registry.
-/

namespace ValueRules

namespace Builtins

def filterEntries : List (String × Procedure) :=
  filters.map fun (name, filter) => (name, .filter filter)

def validatorEntries : List (String × Procedure) :=
  validators.map fun (name, validator) => (name, .validator validator)

end Builtins

namespace Registry

/-- A registry of the stock procedures; those whose name holds a token are left out. -/
def withBuiltins (delimiters : Delimiters) : Registry :=
  let empty : Registry := { delimiters }
  (empty.registerAll (Builtins.filterEntries ++ Builtins.validatorEntries)).2.1

end Registry

end ValueRules
