import ValueRules.Builtins.Arguments
import ValueRules.Text.Case
import ValueRules.Text.Cut

/-!
The stock filters. Those of texts leave every other value as it is.
-/

namespace ValueRules.Builtins

/-- Changes a text and nothing else. -/
def mapText (f : String → String) : Value → Value
  | .str text => .str (f text)
  | other => other

def trim (value : Value) (_ : List String) : Except ProcedureError Value :=
  .ok (mapText Text.trim value)

def lowercase (value : Value) (_ : List String) : Except ProcedureError Value :=
  .ok (mapText Text.lowercase value)

def uppercase (value : Value) (_ : List String) : Except ProcedureError Value :=
  .ok (mapText Text.uppercase value)

theorem isInteger_of_isInt64 {n : Int} (h : Number.IsInt64 n) : Number.IsInteger n := by
  obtain ⟨hlo, hhi⟩ := h
  exact ⟨hlo, by omega⟩

/-- The signed 64-bit integer that a text stands for, as a value. -/
def integerOfText? (text : String) : Option Value :=
  match Number.int64? (Text.trim text) with
  | some ⟨n, h⟩ => some (.int n (isInteger_of_isInt64 h))
  | none => none

/-- The whole part of a double from the one nearest to the least signed 64-bit integer up to the one
nearest to the greatest; what is beyond an end gives that end. -/
def integerOfDouble? (x : Binary64) : Option Value :=
  let least := Extended.ofInt (-0x8000000000000000)
  let greatest := Extended.ofInt 0x7fffffffffffffff
  if least.le (.finite x) ∧ (Extended.finite x).le greatest then
    let n := Number.saturate x.trunc
    some (.int n (isInteger_of_isInt64 n.property))
  else none

/-- An integer stays; a text of one gives it; any other number loses its fraction. -/
def toInt (value : Value) (_ : List String) : Except ProcedureError Value :=
  let ofText? := match value with
    | .num (.int _ _) => some value
    | .str text => integerOfText? text
    | _ => none
  match ofText?.or ((finite? value).bind integerOfDouble?) with
  | some n => .ok n
  | none => .error (.unsupportedValue "convert to integer" value.kindName)

def toFloat (value : Value) (_ : List String) : Except ProcedureError Value :=
  match finite? value with
  | some x => .ok (.float x)
  | none => .error (.unsupportedValue "convert to float" value.kindName)

/-- A blank value gives way to the first argument. -/
def default (value : Value) (args : List String) : Except ProcedureError Value := do
  let fallback ← argument args 0 "fallback"
  return if value.isBlank then .str fallback else value

/-- Every occurrence of the first argument in a text gives way to the second, or goes. -/
def replace (value : Value) (args : List String) : Except ProcedureError Value := do
  let old ← argument args 0 "from"
  if old = "" then throw (.invalidArgument "from" "must not be empty")
  return mapText (Text.replace old (args[1]?.getD "")) value

/-- The stock filters by name. -/
def filters : List (String × Filter) :=
  [("trim", { apply := trim }), ("lowercase", { apply := lowercase }),
    ("uppercase", { apply := uppercase }), ("to_int", { apply := toInt }),
    ("to_float", { apply := toFloat }), ("default", { apply := default }),
    ("replace", { apply := replace })]

end ValueRules.Builtins
