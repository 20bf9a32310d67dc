import Callout.Engine.Recording

/-!
Rules without the times in their status. A status that is extended by the record of a dispatch is the same at any
time but for the times in it, and whether an event is recorded does not depend on them.
-/
namespace Callout

/-- An execution without its time. -/
def Execution.timeless (e : Execution) : Execution := { e with at_ := default }

/-- A condition without the time of its last change. -/
def Condition.timeless (c : Condition) : Condition := { c with since := default }

/-- A status without the times of its executions and conditions. -/
def RuleStatus.timeless (s : RuleStatus) : RuleStatus :=
  { s with executions := s.executions.map Execution.timeless, conditions := s.conditions.map Condition.timeless }

/-- A rule without the times in its status. -/
def Rule.timeless (r : Rule) : Rule := { r with status? := r.status?.map RuleStatus.timeless }

theorem Condition.upsert_timeless (conditions : List Condition) (new : Condition) (now : Timestamp) :
    (upsert conditions new now).map timeless = upsert (conditions.map timeless) new.timeless default := by
  induction conditions with
  | nil => rfl
  | cons c rest ih =>
    by_cases same : c.type = new.type
    · simp [upsert,timeless,same]
    · simpa [upsert,timeless,same] using ih

namespace RuleStatus

theorem hasExecuted_timeless (s : RuleStatus) (object : String) (event : EventKind) :
    s.timeless.hasExecuted object event = s.hasExecuted object event := by
  simp only [hasExecuted,timeless,List.any_map]
  rfl

theorem readyFor_timeless (outcome : Outcome) (generation? : Option Int64) (now : Timestamp) :
    (readyFor outcome generation? now).timeless = readyFor outcome generation? default := by
  cases outcome <;> rfl

theorem record_timeless (s : RuleStatus) (execution : Execution) (outcome : Outcome) (generation? : Option Int64)
    (now : Timestamp) :
    (s.record execution outcome generation? now).timeless =
      s.timeless.record execution.timeless outcome generation? default := by
  have known := s.hasExecuted_timeless execution.object execution.event
  cases held : s.hasExecuted execution.object execution.event with
  | true =>
    rw [held] at known
    simp only [record,held,Execution.timeless,known,if_true]
    simp only [timeless,Condition.upsert_timeless,readyFor_timeless]
  | false =>
    rw [held] at known
    simp only [record,held,Execution.timeless,known,Bool.false_eq_true,if_false]
    simp [timeless,Condition.upsert_timeless,readyFor_timeless,Execution.timeless]

end RuleStatus

namespace Rule

theorem hasExecuted_timeless (r : Rule) (object : String) (event : EventKind) :
    r.timeless.hasExecuted object event = r.hasExecuted object event := by
  unfold hasExecuted timeless
  cases r.status? with
  | none => rfl
  | some status => exact status.hasExecuted_timeless object event

/-- What is recorded of a rule does not depend on the times in it. -/
theorem hasExecuted_of_timeless {r r' : Rule} (same : r.timeless = r'.timeless) (object : String)
    (event : EventKind) : r.hasExecuted object event = r'.hasExecuted object event := by
  rw [← r.hasExecuted_timeless,same,r'.hasExecuted_timeless]

end Rule

/-- A rule that is extended by a record is the same at any time, but for the times in it. -/
theorem Recording.extended_timeless {r r' : Recording} (execution : r.execution.timeless = r'.execution.timeless)
    (outcome : r.outcome = r'.outcome) {latest latest' : Rule} (same : latest.timeless = latest'.timeless)
    (now now' : Timestamp) : (r.extended latest now).timeless = (r'.extended latest' now').timeless := by
  have given (s? : Option RuleStatus) : (s?.getD {}).timeless = (s?.map RuleStatus.timeless).getD {} := by
    cases s? <;> rfl
  have metadata : latest.metadata = latest'.metadata := congrArg (·.metadata) same
  have spec : latest.spec = latest'.spec := congrArg (·.spec) same
  have status : latest.status?.map RuleStatus.timeless = latest'.status?.map RuleStatus.timeless :=
    congrArg (·.status?) same
  simp only [extended,Rule.timeless,Option.map_some,RuleStatus.record_timeless,given,status,execution,outcome,
    metadata,spec]

end Callout
