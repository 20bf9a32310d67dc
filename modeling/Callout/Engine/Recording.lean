import Callout.Engine.Demand
import Callout.Engine.Settings

/-!
Recording how a dispatch ended in the status of its rule. The rule is read, its status extended and stored;
the store takes it only if nobody else changed the rule in between. Then the rule is read again, so what others
wrote is kept. After a bounded number of attempts the recording gives up.
-/
namespace Callout

/-- Where a recording is. -/
inductive Recording.Stage where
  /-- The rule is being read. -/
  | reading
  /-- The rule with its new status is being stored. -/
  | writing (latest : Rule)
  | pausing (span : Span)

/-- A recording under way. -/
structure Recording where
  rule : RuleId
  execution : Execution
  outcome : RuleStatus.Outcome
  /-- The number of the attempt, from one on. -/
  attempt : Nat := 1
  stage : Recording.Stage := .reading

namespace Recording

/-- What a recording waits for. -/
def demand (r : Recording) : Demand :=
  match r.stage with
  | .reading => .rule r.rule
  | .writing latest => .update latest
  | .pausing span => .pause span

/-- The rule that is stored in an attempt, when this one was read. -/
def extended (r : Recording) (latest : Rule) (now : Timestamp) : Rule :=
  { latest with
    status? := some
      ((latest.status?.getD {}).record r.execution r.outcome latest.metadata.generation? now) }

/-- How often a status is written at most. -/
def budget (settings : EngineSettings) : Nat := max settings.statusAttempts 1

/-- The fault of a recording that gave up. -/
def conflicting (r : Recording) : Fault :=
  .conflict ("status of " ++ r.rule.toText ++ " still conflicting after " ++ toString r.attempt ++ " attempts")

/-- The next attempt. -/
def again (r : Recording) : Recording := { r with attempt := r.attempt + 1, stage := .reading }

/-- The recording when the rule was read. -/
def afterReading (r : Recording) (now : Moment) : Except Fault Rule → Progress Recording (Except Fault Unit)
  | .error fault => .finished (.error fault)
  | .ok latest => .waiting { r with stage := .writing (r.extended latest now.wall) }

/-- The recording when the status was stored, or was not. -/
def afterWriting (settings : EngineSettings) (r : Recording) :
    Except Fault Unit → Progress Recording (Except Fault Unit)
  | .ok () => .finished (.ok ())
  | .error fault =>
    if !fault.isConflict then .finished (.error fault)
    else if r.attempt ≥ budget settings then .finished (.error r.conflicting)
    else .waiting { r with stage := .pausing ⟨settings.statusRetryBase.nanos * r.attempt⟩ }

/-- The recording after an answer. -/
def resume (settings : EngineSettings) (now : Moment) :
    (r : Recording) → r.demand.Answer → Progress Recording (Except Fault Unit)
  | r@⟨_, _, _, _, .reading⟩, answer => r.afterReading now answer
  | r@⟨_, _, _, _, .writing _⟩, answer => r.afterWriting settings answer
  | r@⟨_, _, _, _, .pausing _⟩, _ => .waiting r.again

end Recording
end Callout
