import ValueRules.Builtins.Arguments
import ValueRules.Number.Shortest
import ValueRules.Pattern

/-!
The stock validators. Arguments are looked at before the value, except by `matchesPattern`, which
has no use for its pattern if the value is not a text.
-/

namespace ValueRules.Builtins

open Pattern (Matcher Refusal limited)

variable {ε α : Type}

def required (value : Value) (_ : List String) : Except ProcedureError Verdict :=
  .ok (.check (!value.isBlank) "is required")

/-- A value that was not supplied needs no further check. -/
def optional (value : Value) (_ : List String) : Except ProcedureError Verdict :=
  .ok (if value.isBlank then .skip else .pass)

def isInt (value : Value) (_ : List String) : Except ProcedureError Verdict :=
  let ok := match value with
    | .num (.int _ _) => true
    | .str text => (Number.int64? (Text.trim text)).isSome
    | _ => false
  .ok (.check ok "must be an integer")

def isNumeric (value : Value) (_ : List String) : Except ProcedureError Verdict :=
  .ok (.check (finite? value).isSome "must be numeric")

/-- How long a text or a list is, and in what it is counted. -/
def measure? : Value → Option (Nat × String)
  | .str text => some (text.length, "characters")
  | .arr items => some (items.length, "items")
  | _ => none

def unmeasurable (value : Value) : Verdict :=
  .fail [s!"cannot measure the length of a {value.kindName}"]

def minLength (value : Value) (args : List String) : Except ProcedureError Verdict := do
  let least ← naturalArgument args 0 "min"
  return match measure? value with
    | some (length, unit) =>
      .check (least ≤ length) s!"must be at least {least} {unit} long"
    | none => unmeasurable value

def maxLength (value : Value) (args : List String) : Except ProcedureError Verdict := do
  let greatest ← naturalArgument args 0 "max"
  return match measure? value with
    | some (length, unit) =>
      .check (length ≤ greatest) s!"must be at most {greatest} {unit} long"
    | none => unmeasurable value

/-- A number from the first bound to the second, both included. -/
def between (value : Value) (args : List String) : Except ProcedureError Verdict := do
  let lo ← numberArgument args 0 "lo"
  let hi ← numberArgument args 1 "hi"
  if lo.gt hi then
    throw (.invalidArgument "lo" s!"lower bound {lo.text} exceeds upper bound {hi.text}")
  let ok := match finite? value with
    | some x => lo.le (.finite x) && (Extended.finite x).le hi
    | none => false
  return .check ok s!"must be between {lo.text} and {hi.text}"

/-- A text in which the pattern is found, wherever compiled patterns come from. -/
def matchesBy (matcher : Matcher ε α) (fetch : String → Except (Refusal ε) α) (value : Value)
    (args : List String) : Except ProcedureError Verdict := do
  let pattern ← argument args 0 "pattern"
  match value with
  | .str text =>
    match fetch pattern with
    | .ok compiled => return .check (matcher.isFoundIn compiled text) "has an invalid format"
    | .error refusal => throw (.invalidArgument "pattern" (refusal.message matcher.tell))
  | _ => return .fail ["has an invalid format"]

/-- A text in which the pattern is found, with every pattern compiled anew. -/
def matchesPattern (matcher : Matcher ε α) (value : Value) (args : List String) :
    Except ProcedureError Verdict :=
  matchesBy matcher (limited matcher.read) value args

/-- A text that is one of the arguments. -/
def oneOf (value : Value) (args : List String) : Except ProcedureError Verdict := do
  let _ ← argument args 0 "choices"
  let ok := match value with
    | .str text => args.contains text
    | _ => false
  return .check ok ("must be one of: " ++ ", ".intercalate args)

def email (value : Value) (_ : List String) : Except ProcedureError Verdict :=
  let ok := match value with
    | .str text => Pattern.email.isFoundIn text
    | _ => false
  .ok (.check ok "must be a valid email address")

/-- The stock validators by name, for patterns of any language. -/
def validatorsWith (matcher : Matcher ε α) : List (String × Validator) :=
  [("required", { check := required }), ("optional", { check := optional }),
    ("is_int", { check := isInt }), ("is_numeric", { check := isNumeric }),
    ("min_len", { check := minLength }), ("max_len", { check := maxLength }),
    ("between", { check := between }), ("matches", { check := matchesPattern matcher }),
    ("one_of", { check := oneOf }), ("email", { check := email })]

/-- The stock validators by name. -/
def validators : List (String × Validator) :=
  validatorsWith Pattern.matcher

end ValueRules.Builtins
