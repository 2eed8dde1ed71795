import ValueRules.Chain
import ValueRules.Procedure
import ValueRules.Number.Shortest
import ValueRules.Text.Escaped

/-!
Chains, delimiters and namespaces read from JSON values. A record is an object, whose unknown
members are passed over, or the list of its fields in order.
-/

namespace ValueRules

/-- Why a JSON value does not stand for what was asked for. -/
inductive DecodeError where
  | missingField (name : String)
  | invalidType (found : Value) (expected : String)
  | missingElement (index : Nat) (expected : String)
  | surplusElements (length : Nat)
  | unknownVariant (name : String)
  | notSingleKey
  | delimiters (error : DelimitersError)

namespace DecodeError

/-- How a message names what it found. -/
def describe : Value → String
  | .null => "null"
  | .bool b => if b then "boolean `true`" else "boolean `false`"
  | .num (.int n _) => s!"integer `{n}`"
  | .num (.float x) =>
    let text := if x.text.contains '.' then x.text else x.text ++ ".0"
    s!"floating point `{text}`"
  | .str text => "string " ++ Text.escaped text
  | .arr _ => "sequence"
  | .obj _ => "map"

def message : DecodeError → String
  | missingField name => s!"missing field `{name}`"
  | invalidType found expected => s!"invalid type: {describe found}, expected {expected}"
  | missingElement index expected => s!"invalid length {index}, expected {expected}"
  | surplusElements length => s!"invalid length {length}, expected fewer elements in array"
  | unknownVariant name =>
    s!"unknown variant `{name}`, expected `{Namespace.filter.name}` or `{Namespace.validator.name}`"
  | notSingleKey => "invalid value: map, expected map with a single key"
  | delimiters error => error.message

end DecodeError

namespace Value

def asText : Value → Except DecodeError String
  | .str text => .ok text
  | other => .error (.invalidType other "a string")

def asList : Value → Except DecodeError (List Value)
  | .arr items => .ok items
  | other => .error (.invalidType other "a sequence")

def asTexts (value : Value) : Except DecodeError (List String) := do
  (← value.asList).mapM asText

/-- The text, or what stands for it where there is none. -/
def asTextOr (absent : String) : Option Value → Except DecodeError String
  | some value => value.asText
  | none => .ok absent

end Value

namespace Step

/-- A step is an object with a name and perhaps arguments, or the list of both. -/
def decode : Value → Except DecodeError Step
  | .obj members => do
    let args ← match Value.lookup? "args" members with
      | some value => value.asTexts
      | none => .ok []
    match Value.lookup? "name" members with
    | some value => return { name := ← value.asText, args }
    | none => .error (.missingField "name")
  | .arr [] => .error (.missingElement 0 "struct RuleStep with 2 elements")
  | .arr [name] => return { name := ← name.asText }
  | .arr (name :: args :: rest) => do
    let step : Step := { name := ← name.asText, args := ← args.asTexts }
    if rest.isEmpty then return step else .error (.surplusElements (rest.length + 2))
  | other => .error (.invalidType other "struct RuleStep")

end Step

namespace Chain

def decode (value : Value) : Except DecodeError Chain :=
  return ⟨← (← value.asList).mapM Step.decode⟩

end Chain

namespace Tokens

/-- Tokens that are not given are the usual ones. -/
def decode : Value → Except DecodeError Tokens
  | .obj members => do
    let args ← Value.asTextOr ({} : Tokens).args (Value.lookup? "args" members)
    let chain ← Value.asTextOr ({} : Tokens).chain (Value.lookup? "chain" members)
    let glue ← Value.asTextOr ({} : Tokens).glue (Value.lookup? "glue" members)
    return { chain, args, glue }
  | .arr items => do
    let chain ← Value.asTextOr ({} : Tokens).chain items[0]?
    let args ← Value.asTextOr ({} : Tokens).args items[1]?
    let glue ← Value.asTextOr ({} : Tokens).glue items[2]?
    if items.length ≤ 3 then return { chain, args, glue }
    else .error (.surplusElements items.length)
  | other => .error (.invalidType other "struct SyntaxConfig")

end Tokens

namespace Delimiters

def decode (value : Value) : Except DecodeError Delimiters := do
  (ofTokens (← Tokens.decode value)).mapError .delimiters

end Delimiters

namespace Namespace

def ofName (name : String) : Except DecodeError Namespace :=
  if name = filter.name then .ok filter
  else if name = validator.name then .ok validator
  else .error (.unknownVariant name)

/-- A namespace is its name, or an object with its name as the only key and null under it. -/
def decode : Value → Except DecodeError Namespace
  | .str name => ofName name
  | .obj [(name, value)] => do
    let side ← ofName name
    match value with
    | .null => return side
    | other => .error (.invalidType other "unit")
  | .obj _ => .error .notSingleKey
  | other => .error (.invalidType other "string or map")

end Namespace

end ValueRules
