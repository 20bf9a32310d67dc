import Callout.Fault
import Callout.Json.Record
import Callout.Timestamp

/-!
Conditions of a rule: a status for each of several aspects, with the time when it last changed. A new
condition takes the place of the one of its type; the time moves only when the status differs.
-/
namespace Callout

/-- The status of a condition. -/
inductive ConditionStatus where
  | holds
  | fails
  | unknown
deriving DecidableEq, Repr, Inhabited

namespace ConditionStatus

/-- The text of a status. -/
def toText : ConditionStatus → String
  | .holds => "True"
  | .fails => "False"
  | .unknown => "Unknown"

/-- The words for each status. -/
def words : List (String × ConditionStatus) := [("True", .holds), ("False", .fails), ("Unknown", .unknown)]

end ConditionStatus

/-- A condition of a rule. -/
structure Condition where
  /-- The aspect that the condition is about. -/
  type : String
  status : ConditionStatus
  reason : String
  message : String
  /-- The generation of the rule that the condition was observed for. -/
  generation? : Option Int64
  /-- When the status last changed. -/
  since : Timestamp
deriving DecidableEq, Repr, Inhabited

/-- Reads a point in time. -/
def Timestamp.ofJson (j : Json) : Option Timestamp := j.text?.bind Timestamp.parse

/-- Writes a point in time. -/
def Timestamp.toJson (t : Timestamp) : Json := .text t.toText

namespace Condition

/-- Reads a condition. -/
def ofJson (j : Json) : Option Condition := do
  let p ← j.parts? ["type", "status", "reason", "message", "observedGeneration", "lastTransitionTime"]
  return { type := ← p.required "type" Json.text?,
           status := ← p.required "status" (Json.choice? ConditionStatus.words),
           reason := ← p.defaulted "reason" Json.text? "",
           message := ← p.defaulted "message" Json.text? "",
           generation? := ← p.optional "observedGeneration" Json.int64?,
           since := ← p.required "lastTransitionTime" Timestamp.ofJson }

/-- Writes a condition. -/
def toJson (c : Condition) : Json :=
  .object
    (Json.field "lastTransitionTime" c.since.toJson ++ Json.field "message" (.text c.message) ++
      Json.fieldIfSome "observedGeneration" (fun n => .int n.toInt) c.generation? ++
      Json.field "reason" (.text c.reason) ++ Json.field "status" (.text c.status.toText) ++
      Json.field "type" (.text c.type))

/-- The condition that says how the last dispatch ended. -/
def ready (ok : Bool) (reason message : String) (generation? : Option Int64) (now : Timestamp) : Condition :=
  { type := "Ready", status := if ok then .holds else .fails, reason, message, generation?, since := now }

/-- The conditions with a new one in the place of the one of its type, or at the end. -/
def upsert (conditions : List Condition) (new : Condition) (now : Timestamp) : List Condition :=
  match conditions with
  | [] => [{ new with since := now }]
  | c :: rest =>
    if c.type = new.type then
      { new with since := if c.status = new.status then c.since else now } :: rest
    else c :: upsert rest new now

end Condition
end Callout
