import Callout.Engine.Arming
import Callout.Engine.Demand
import Callout.Engine.Ticker

/-!
The run of an interval task. At each tick the rule is looked up, unless the event was a deletion, and the action
is run with headers resolved anew. The run ends when its token is cancelled or its rule is gone; no other fault
ends it. At its end it removes its own key. A run for whose first tick the clock has no time is lost at its start: it
does nothing, and its key stays.
-/
namespace Callout

/-- Where the run of a task is. -/
inductive IntervalRun.Stage where
  /-- Between two ticks. -/
  | waiting
  /-- The rule is being looked up. -/
  | looking
  /-- A secret is being read, and the headers follow from it. -/
  | reading (space name : String)
      (next : Except Fault SecretData → Query (Except Misconfiguration (Dict String)))
  /-- The action is running. -/
  | running (call : Call)
  /-- The run broke off at its start. -/
  | lost

/-- The run of an interval task. -/
structure IntervalRun where
  task : IntervalTask
  ticker : Ticker
  stage : IntervalRun.Stage := .waiting

namespace IntervalRun

/-- What the run of a task waits for. -/
def demand (r : IntervalRun) : Demand :=
  match r.stage with
  | .waiting => .tick r.ticker.due r.task.token
  | .looking => .rule r.task.key.rule
  | .reading space name _ => .secret space name
  | .running call => .run call
  | .lost => .never

/-- A task that begins to run. -/
def start (task : IntervalTask) (now : Moment) : IntervalRun :=
  let ticker? := Ticker.start? now.nanos task.period
  { task
    ticker := ticker?.getD default
    stage := if ticker?.isSome then .waiting else .lost }

theorem start_stage (task : IntervalTask) (now : Moment) :
    (start task now).stage = .waiting ∨ (start task now).stage = .lost := by
  simp only [start]
  split
  · exact .inl rfl
  · exact .inr rfl

theorem start_of_lt {task : IntervalTask} {now : Moment} (inside : now.nanos + task.period.nanos < Ticker.horizon) :
    start task now = { task, ticker := ⟨now.nanos + task.period.nanos, task.period⟩ } := by
  simp [start,Ticker.start?,inside]

/-- Only the end of the clock keeps a task from its first tick. -/
theorem start_lost_iff {task : IntervalTask} {now : Moment} :
    (start task now).stage = .lost ↔ Ticker.horizon ≤ now.nanos + task.period.nanos := by
  simp only [start,Ticker.start?]
  by_cases inside : now.nanos + task.period.nanos < Ticker.horizon
  · simp [inside]
  · simp [inside,Nat.le_of_not_lt inside]

/-- The run of a task between two ticks. -/
def rest (r : IntervalRun) : IntervalRun := { r with stage := .waiting }

/-- The run of a task as far as the resolution of its headers has come. -/
def withHeaders (r : IntervalRun) : Query (Except Misconfiguration (Dict String)) → IntervalRun
  | .done (.error _) => r.rest
  | .done (.ok headers) =>
    { r with stage := .running ⟨r.task.action, r.task.event.object, r.task.space, headers⟩ }
  | .ask space name next => { r with stage := .reading space name next }

/-- The run of a task that begins to resolve its headers. -/
def perform (r : IntervalRun) : IntervalRun :=
  r.withHeaders (resolveHeaders r.task.space r.task.action.headers)

/-- The end of a run. -/
def finish (r : IntervalRun) (registry : Registry) : Registry × Progress IntervalRun Unit :=
  ((registry.removeTask r.task.key).1, .finished ())

/-- The run when a tick came, or was cancelled. -/
def afterTick (r : IntervalRun) (now : Moment) (registry : Registry) :
    Tick → Registry × Progress IntervalRun Unit
  | .cancelled => r.finish registry
  | .due =>
    let r := { r with ticker := r.ticker.take now.nanos }
    if r.task.event.kind = .delete then (registry, .waiting r.perform)
    else (registry, .waiting { r with stage := .looking })

/-- The run when its rule was looked up. -/
def afterLook (r : IntervalRun) (registry : Registry) :
    Except Fault Rule → Registry × Progress IntervalRun Unit
  | .ok _ => (registry, .waiting r.perform)
  | .error fault => if fault.isNotFound then r.finish registry else (registry, .waiting r.rest)

/-- The run after an answer. -/
def resume (now : Moment) (registry : Registry) :
    (r : IntervalRun) → r.demand.Answer → Registry × Progress IntervalRun Unit
  | r@⟨_, _, .waiting⟩, answer => r.afterTick now registry answer
  | r@⟨_, _, .looking⟩, answer => r.afterLook registry answer
  | r@⟨_, _, .reading _ _ next⟩, answer => (registry, .waiting (r.withHeaders (next answer)))
  | r@⟨_, _, .running _⟩, _ => (registry, .waiting r.rest)
  | ⟨_, _, .lost⟩, answer => answer.elim

end IntervalRun
end Callout
