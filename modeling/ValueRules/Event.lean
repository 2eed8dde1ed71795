import ValueRules.Procedure
import ValueRules.Registry.Name

/-!
The log events of the library, as what happened; their level, wording and fields follow from that.
-/

namespace ValueRules

inductive Level where
  | warn
  | debug
  | trace
deriving DecidableEq, Repr

namespace Level

def name : Level → String
  | warn => "warn"
  | debug => "debug"
  | trace => "trace"

end Level

/-- What a field of an event holds. -/
inductive FieldValue where
  | text (text : String)
  | number (n : Nat)
deriving DecidableEq, Repr

inductive Event where
  | registrationSkipped (side : Namespace) (name : String) (error : RegistrationError)
  | replaced (side : Namespace) (name : String)
  | registered (side : Namespace) (name : String)
  | blankFilters
  | blankValidators
  | applying (position : Nat) (name : String)
  | running (position : Nat) (name : String)
  | failed (position : Nat) (name : String)
  | skipped (position : Nat) (name : String)
  | unfaithfulStep (name rendered : String)
deriving DecidableEq, Repr

namespace Event

def level : Event → Level
  | registrationSkipped .. | unfaithfulStep .. => .warn
  | replaced .. | failed .. | skipped .. => .debug
  | registered .. | blankFilters | blankValidators | applying .. | running .. => .trace

def message : Event → String
  | registrationSkipped .. => "procedure registration skipped"
  | replaced .. => "procedure replaced"
  | registered .. => "procedure registered"
  | blankFilters => "blank filter chain, value passed through"
  | blankValidators => "blank validator chain, value accepted"
  | applying .. => "applying filter"
  | running .. => "running validator"
  | failed .. => "validator failed"
  | skipped .. => "validator skipped remaining steps"
  | unfaithfulStep .. => "rule step contains a delimiter token and will not round-trip"

def fields : Event → List (String × FieldValue)
  | registrationSkipped side name error =>
    [("namespace", .text side.name), ("name", .text name), ("error", .text error.message)]
  | replaced side name | registered side name =>
    [("namespace", .text side.name), ("name", .text name)]
  | blankFilters | blankValidators => []
  | applying position name | running position name | failed position name
  | skipped position name => [("step", .number position), ("name", .text name)]
  | unfaithfulStep name rendered => [("step", .text name), ("rendered", .text rendered)]

end Event

end ValueRules
