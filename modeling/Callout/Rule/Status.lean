import Callout.Lifecycle
import Callout.Rule.Condition

/-!
The status of a rule: the ledger of its executions, the last error, and its conditions. The ledger only
grows, and it holds one entry for an object and a kind of event.
-/
namespace Callout

/-- An execution of a rule's actions, as the ledger keeps it. -/
structure Execution where
  /-- The identity of the object. -/
  object : String
  event : EventKind
  /-- When the actions ran. -/
  at_ : Timestamp
deriving DecidableEq, Repr, Inhabited

namespace Execution

/-- Reads an execution. -/
def ofJson (j : Json) : Option Execution := do
  let p ← j.parts? ["resourceUID", "event", "executedAt"]
  return ⟨← p.required "resourceUID" Json.text?, ← p.required "event" EventKind.ofJson,
    ← p.required "executedAt" Timestamp.ofJson⟩

/-- Writes an execution. -/
def toJson (e : Execution) : Json :=
  .object [("event", e.event.toJson), ("executedAt", e.at_.toJson), ("resourceUID", .text e.object)]

end Execution

/-- The status of a rule. -/
structure RuleStatus where
  /-- The ledger of executions, oldest first. -/
  executions : List Execution := []
  lastError? : Option String := none
  conditions : List Condition := []
deriving DecidableEq, Repr, Inhabited

namespace RuleStatus

/-- Reads a status. -/
def ofJson (j : Json) : Option RuleStatus := do
  let p ← j.parts? ["executions", "lastError", "conditions"]
  return ⟨← p.defaulted "executions" (Json.listOf? Execution.ofJson) [],
    ← p.optional "lastError" Json.text?, ← p.defaulted "conditions" (Json.listOf? Condition.ofJson) []⟩

/-- Writes a status. -/
def toJson (s : RuleStatus) : Json :=
  .object
    (Json.field "conditions" (.list (s.conditions.map Condition.toJson)) ++
      Json.field "executions" (.list (s.executions.map Execution.toJson)) ++
      Json.fieldIfSome "lastError" .text s.lastError?)

/-- Whether the ledger has an entry for an object and a kind of event. -/
def hasExecuted (s : RuleStatus) (object : String) (event : EventKind) : Bool :=
  s.executions.any fun e => e.object = object ∧ e.event = event

/-- How a dispatch ended: well, or with a fault. -/
abbrev Outcome := Except Fault Unit

/-- The condition that says how a dispatch ended. -/
def readyFor (outcome : Outcome) (generation? : Option Int64) (now : Timestamp) : Condition :=
  match outcome with
  | .ok () => .ready true "ActionSucceeded" "All actions executed successfully" generation? now
  | .error fault => .ready false fault.reason fault.message generation? now

/-- The status after a dispatch: the execution joins the ledger unless it is there, and the last error and
the ready condition say how the dispatch ended. -/
def record (s : RuleStatus) (execution : Execution) (outcome : Outcome) (generation? : Option Int64)
    (now : Timestamp) : RuleStatus :=
  { executions :=
      if s.hasExecuted execution.object execution.event then s.executions else s.executions ++ [execution],
    lastError? := match outcome with
      | .ok () => none
      | .error fault => some fault.message,
    conditions := Condition.upsert s.conditions (readyFor outcome generation? now) now }

end RuleStatus
end Callout
