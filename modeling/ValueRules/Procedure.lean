import ValueRules.Value

/-!
Procedures: filters turn one value into another, validators give a verdict on a value. Both receive
the texts of their step and may refuse them.
-/

namespace ValueRules

/-- The two sides on which a procedure's name is looked up. -/
inductive Namespace where
  | filter
  | validator
deriving DecidableEq, Repr, Inhabited

namespace Namespace

def name : Namespace → String
  | filter => "filter"
  | validator => "validator"

def title : Namespace → String
  | filter => "Filter"
  | validator => "Validator"

end Namespace

/-- What a validator found. A failure may carry no message. -/
inductive Verdict where
  | pass
  | fail (messages : List String)
  | skip
deriving DecidableEq, Repr, Inhabited

namespace Verdict

/-- Passes if `ok` and fails with the one message otherwise. -/
def check (ok : Bool) (message : String) : Verdict :=
  if ok then pass else fail [message]

theorem check_eq_pass_iff {ok : Bool} {message : String} :
    check ok message = pass ↔ ok = true := by
  cases ok <;> simp [check]

theorem check_ne_skip {ok : Bool} {message : String} : check ok message ≠ skip := by
  cases ok <;> exact Verdict.noConfusion

theorem check_of_ne_pass {ok : Bool} {message : String} (h : check ok message ≠ pass) :
    check ok message = fail [message] := by
  cases ok with
  | true => exact absurd rfl h
  | false => rfl

/-- A verdict without a message of its own. -/
def ofBool (ok : Bool) : Verdict :=
  check ok "is invalid"

def isPass : Verdict → Bool
  | pass => true
  | _ => false

end Verdict

/-- Why a procedure cannot work on its arguments or its value. -/
inductive ProcedureError where
  | missingArgument (index : Nat) (name : String)
  | invalidArgument (name reason : String)
  | unsupportedValue (operation actual : String)
  | custom (text : String)
deriving DecidableEq, Repr, Inhabited

namespace ProcedureError

def message : ProcedureError → String
  | missingArgument index name => s!"missing argument '{name}' at position {index}"
  | invalidArgument name reason => s!"argument '{name}' is invalid: {reason}"
  | unsupportedValue operation actual => s!"cannot {operation} a value of type {actual}"
  | custom text => text

end ProcedureError

/-- A procedure that gives a value for a value. -/
structure Filter where
  apply : Value → List String → Except ProcedureError Value

namespace Filter

/-- How any filter is shown, since what it does cannot be. -/
def shown : String := "FilterFn"

end Filter

/-- A procedure that gives a verdict on a value. -/
structure Validator where
  check : Value → List String → Except ProcedureError Verdict

namespace Validator

def shown : String := "ValidatorFn"

end Validator

/-- A procedure of either side. -/
inductive Procedure where
  | filter (filter : Filter)
  | validator (validator : Validator)

namespace Procedure

def side : Procedure → Namespace
  | filter _ => .filter
  | validator _ => .validator

def shown (procedure : Procedure) : String :=
  s!"Procedure({procedure.side.title})"

end Procedure

end ValueRules
