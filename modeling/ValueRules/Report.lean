import ValueRules.Text.Quoted

/-!
The report of a run of validators: the messages of those that failed, by name, and how the run
ended.
-/

namespace ValueRules

/-- Every step ran, or the one at a position skipped the rest. -/
inductive Outcome where
  | exhausted
  | skipped (position : Nat)
deriving DecidableEq, Repr, Inhabited

namespace Outcome

def json : Outcome → String
  | exhausted => Text.braced [("state", Text.quote "exhausted")]
  | skipped position =>
    Text.braced [("state", Text.quote "skipped"), ("step", toString position)]

end Outcome

/-- Messages by name, in the order in which the names first failed. -/
abbrev Messages := List (String × List String)

namespace Messages

/-- A name that is there keeps its place and gets the new messages. -/
def insert (name : String) (found : List String) : Messages → Messages
  | [] => [(name, found)]
  | (other, earlier) :: rest =>
    if other = name then (name, found) :: rest else (other, earlier) :: insert name found rest

def get? (messages : Messages) (name : String) : Option (List String) :=
  messages.lookup name

end Messages

structure Report where
  valid : Bool := true
  messages : Messages := []
  outcome : Outcome := .exhausted
deriving DecidableEq, Repr, Inhabited

namespace Report

def recordFailure (report : Report) (name : String) (found : List String) : Report :=
  { report with valid := false, messages := Messages.insert name found report.messages }

def wasSkipped (report : Report) : Bool :=
  report.outcome ≠ .exhausted

/-- The report as a JSON object. -/
def json (report : Report) : String :=
  let messages := report.messages.map fun (name, found) =>
    (name, Text.bracketed (found.map Text.quote))
  Text.braced [("valid", if report.valid then "true" else "false"),
    ("messages", Text.braced messages), ("outcome", report.outcome.json)]

end Report

end ValueRules
