import ValueRules.Delimiters

/-!
Names under which a procedure can be stored: those that a rule text can reach.
-/

namespace ValueRules

/-- Why no rule text reaches a procedure of this name. -/
inductive RegistrationError where
  | emptyName
  | reservedToken (name token : String)
  | splicedToken (name token : String)
deriving DecidableEq, Repr, Inhabited

namespace RegistrationError

def message : RegistrationError → String
  | emptyName => "procedure name must not be empty"
  | reservedToken name token => s!"procedure name '{name}' contains the reserved token '{token}'"
  | splicedToken name token => s!"procedure name '{name}' runs into the following '{token}' token"

end RegistrationError

namespace Delimiters

/-- A name is refused if it is empty, holds a token, or makes a token that follows it begin
early. -/
def checkName (delimiters : Delimiters) (name : String) : Except RegistrationError Unit :=
  if name = "" then .error .emptyName
  else match delimiters.reservedIn? name, delimiters.splicedAfter? name with
    | some token, _ => .error (.reservedToken name token)
    | none, some token => .error (.splicedToken name token)
    | none, none => .ok ()

end Delimiters

end ValueRules
