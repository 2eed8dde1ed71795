import ValueRules.Procedure
import ValueRules.Text.Blank

/-!
How the stock procedures read their arguments, and numbers out of values.
-/

namespace ValueRules.Builtins

/-- The argument at a position. -/
def argument (args : List String) (index : Nat) (name : String) : Except ProcedureError String :=
  match args[index]? with
  | some arg => .ok arg
  | none => .error (.missingArgument index name)

/-- The argument at a position, as a natural number below `2 ^ 64`. -/
def naturalArgument (args : List String) (index : Nat) (name : String) :
    Except ProcedureError Nat := do
  let raw ← argument args index name
  match Number.uint64? (Text.trim raw) with
  | some n => return n
  | none => .error (.invalidArgument name s!"expected a non-negative integer, got '{raw}'")

/-- The argument at a position, as a double, an infinity or what is not a number. -/
def numberArgument (args : List String) (index : Nat) (name : String) :
    Except ProcedureError Extended := do
  let raw ← argument args index name
  match Number.extended? (Text.trim raw) with
  | some x => return x
  | none => .error (.invalidArgument name s!"expected a number, got '{raw}'")

/-- The finite double that a number is nearest to or that a text stands for. -/
def finite? : Value → Option Binary64
  | .num n => n.toBinary64?
  | .str text => (Number.extended? (Text.trim text)).bind Extended.finite?
  | _ => none

end ValueRules.Builtins
