import ValueRules.Event
import ValueRules.Text.Escaped
import Std.Data.TreeMap

/-!
The registry of named procedures. Filters and validators are looked up apart; of two procedures
stored under one name the later one counts.
-/

namespace ValueRules

structure Registry where
  delimiters : Delimiters := .standard
  filters : Std.TreeMap String Filter := ∅
  validators : Std.TreeMap String Validator := ∅

/-- The outcome of storing a procedure: the registry afterwards, and the one event logged. -/
structure Registration where
  result : Except RegistrationError Unit
  registry : Registry
  event : Event

namespace Registry

instance : Inhabited Registry := ⟨{}⟩

def filter? (registry : Registry) (name : String) : Option Filter :=
  registry.filters[name]?

def validator? (registry : Registry) (name : String) : Option Validator :=
  registry.validators[name]?

def resolve? (registry : Registry) (side : Namespace) (name : String) : Option Procedure :=
  match side with
  | .filter => (registry.filter? name).map .filter
  | .validator => (registry.validator? name).map .validator

def has (registry : Registry) (side : Namespace) (name : String) : Bool :=
  match side with
  | .filter => registry.filters.contains name
  | .validator => registry.validators.contains name

/-- The procedure is stored whatever its name is. -/
def insert (registry : Registry) (name : String) (procedure : Procedure) : Registry :=
  match procedure with
  | .filter f => { registry with filters := registry.filters.insert name f }
  | .validator v => { registry with validators := registry.validators.insert name v }

/-- Stores a procedure under a name that rule texts can reach; any other name changes nothing. -/
def register (registry : Registry) (name : String) (procedure : Procedure) : Registration :=
  let side := procedure.side
  match registry.delimiters.checkName name with
  | .error error => ⟨.error error, registry, .registrationSkipped side name error⟩
  | .ok () =>
    let event := if registry.has side name then .replaced side name else .registered side name
    ⟨.ok (), registry.insert name procedure, event⟩

def addFilter (registry : Registry) (name : String) (filter : Filter) : Registration :=
  registry.register name (.filter filter)

def addValidator (registry : Registry) (name : String) (validator : Validator) : Registration :=
  registry.register name (.validator validator)

/-- Stores procedures one after another, and counts those whose name was accepted. -/
def registerAll (registry : Registry) : List (String × Procedure) → Nat × Registry × List Event
  | [] => (0, registry, [])
  | (name, procedure) :: entries =>
    let first := registry.register name procedure
    let (stored, registry, events) := first.registry.registerAll entries
    ((if first.result.toBool then 1 else 0) + stored, registry, first.event :: events)

/-- Drops a name, and tells whether it was there. -/
def remove (registry : Registry) (side : Namespace) (name : String) : Bool × Registry :=
  (registry.has side name,
    match side with
    | .filter => { registry with filters := registry.filters.erase name }
    | .validator => { registry with validators := registry.validators.erase name })

/-- The stored names in ascending order. -/
def names (registry : Registry) : Namespace → List String
  | .filter => registry.filters.keys
  | .validator => registry.validators.keys

def size (registry : Registry) : Nat :=
  registry.filters.size + registry.validators.size

def isEmpty (registry : Registry) : Bool :=
  registry.size = 0

/-- The names that are stored, for display. -/
def shown (registry : Registry) : String :=
  let list (names : List String) := "[" ++ ", ".intercalate (names.map Text.escaped) ++ "]"
  "ProcedureRegistry \x7b filters: " ++ list (registry.names .filter) ++ ", validators: " ++
    list (registry.names .validator) ++ " \x7d"

end Registry

end ValueRules
