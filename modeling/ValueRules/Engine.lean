import ValueRules.Builder
import ValueRules.Registry
import ValueRules.Report

/-!
Running chains against a registry. Filters hand the value on from step to step; validators all see
the same value, and their failures are collected. A run keeps its calls and events beside its
result.
-/

namespace ValueRules

/-- Why a run stopped without a result. Positions count steps from zero. -/
inductive ChainError where
  | unknown (side : Namespace) (name : String) (position : Nat)
  | procedure (name : String) (position : Nat) (source : ProcedureError)
deriving DecidableEq, Repr, Inhabited

namespace ChainError

def message : ChainError → String
  | unknown side name position =>
    s!"unknown {side.name} procedure '{name}' at step {position}"
  | procedure name position source =>
    s!"procedure '{name}' failed at step {position}: {source.message}"

def isUnknown : ChainError → Bool
  | unknown .. => true
  | procedure .. => false

def procedureName : ChainError → String
  | unknown _ name _ | procedure name _ _ => name

def position : ChainError → Nat
  | unknown _ _ position | procedure _ position _ => position

def source? : ChainError → Option ProcedureError
  | unknown .. => none
  | procedure _ _ source => some source

end ChainError

/-- One call of a procedure in a run. -/
structure Invocation where
  position : Nat
  procedure : Procedure
  input : Value
  args : List String

/-- The result of a run, the calls it made and the events it logged, in order. -/
structure Run (α : Type) where
  result : Except ChainError α
  invocations : List Invocation := []
  events : List Event := []

namespace Run

/-- The same run, with one more call before it. -/
def after {α : Type} (run : Run α) (invocation : Invocation) (events : List Event) : Run α :=
  { run with
    invocations := invocation :: run.invocations
    events := events ++ run.events }

end Run

namespace Registry

/-- Runs steps as filters, the first of them at `position`. -/
def filterSteps (registry : Registry) (position : Nat) (value : Value) : List Step → Run Value
  | [] => { result := .ok value }
  | step :: steps =>
    match registry.filter? step.name with
    | none => { result := .error (.unknown .filter step.name position) }
    | some filter =>
      let rest : Run Value :=
        match filter.apply value step.args with
        | .error source => { result := .error (.procedure step.name position source) }
        | .ok output => registry.filterSteps (position + 1) output steps
      rest.after ⟨position, .filter filter, value, step.args⟩ [.applying position step.name]

/-- Runs steps as validators, the first of them at `position`, and adds to the report. -/
def validateSteps (registry : Registry) (value : Value) (position : Nat) (report : Report) :
    List Step → Run Report
  | [] => { result := .ok report }
  | step :: steps =>
    match registry.validator? step.name with
    | none => { result := .error (.unknown .validator step.name position) }
    | some validator =>
      let invocation : Invocation := ⟨position, .validator validator, value, step.args⟩
      let running := Event.running position step.name
      match validator.check value step.args with
      | .error source =>
        let stopped : Run Report := { result := .error (.procedure step.name position source) }
        stopped.after invocation [running]
      | .ok .skip =>
        let stopped : Run Report := { result := .ok { report with outcome := .skipped position } }
        stopped.after invocation [running, .skipped position step.name]
      | .ok .pass =>
        (registry.validateSteps value (position + 1) report steps).after invocation [running]
      | .ok (.fail messages) =>
        (registry.validateSteps value (position + 1) (report.recordFailure step.name messages)
          steps).after invocation [running, .failed position step.name]

end Registry

/-- Runs rule texts and chains with the procedures and the delimiters of a registry. -/
structure Engine where
  registry : Registry
deriving Inhabited

namespace Engine

def delimiters (engine : Engine) : Delimiters :=
  engine.registry.delimiters

/-- A builder whose rule texts this engine reads. -/
def builder (engine : Engine) : Builder :=
  { delimiters := engine.delimiters }

def parse (engine : Engine) (text : String) : Chain :=
  .parse engine.delimiters text

/-- Hands the value through every filter of the chain; a blank chain gives it back. -/
def applyFilters (engine : Engine) (value : Value) (chain : Chain) : Run Value :=
  if chain.isBlank then { result := .ok value, events := [.blankFilters] }
  else engine.registry.filterSteps 0 value chain.steps

/-- Shows the value to every validator of the chain; a blank chain accepts it. -/
def validate (engine : Engine) (value : Value) (chain : Chain) : Run Report :=
  if chain.isBlank then { result := .ok {}, events := [.blankValidators] }
  else engine.registry.validateSteps value 0 {} chain.steps

def filterInput (engine : Engine) (value : Value) (text : String) : Run Value :=
  engine.applyFilters value (engine.parse text)

def validateInput (engine : Engine) (value : Value) (text : String) : Run Report :=
  engine.validate value (engine.parse text)

/-- The first step whose name is not stored, with its position. -/
def firstUnknown? (engine : Engine) (side : Namespace) (chain : Chain) : Option (Step × Nat) :=
  chain.steps.zipIdx.find? fun (step, _) => !engine.registry.has side step.name

/-- The chain of a rule text, if every name in it is stored. No procedure is called. -/
def checkRule (engine : Engine) (side : Namespace) (text : String) : Except ChainError Chain :=
  let chain := engine.parse text
  if chain.isBlank then .ok chain
  else match engine.firstUnknown? side chain with
    | some (step, position) => .error (.unknown side step.name position)
    | none => .ok chain

/-- The registry's names and the tokens, for display. -/
def shown (engine : Engine) : String :=
  let delimiters := engine.delimiters
  "RuleEngine \x7b registry: " ++ engine.registry.shown ++ ", syntax: Syntax \x7b chain: " ++
    Text.escaped delimiters.chain ++ ", args: " ++ Text.escaped delimiters.args ++ ", glue: " ++
    Text.escaped delimiters.glue ++ " \x7d \x7d"

end Engine

end ValueRules
