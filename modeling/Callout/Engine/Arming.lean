import Callout.Engine.Registry
import Callout.Retry
import Callout.Rule.Matching

/-!
Arming interval tasks for an event. Each interval action with a schedule, of each rule that answers the event,
gets a task with a key of its own, unless a task with that key is there. A schedule that cannot be read arms
nothing; the first such is told at the end, and the others are armed all the same.
-/
namespace Callout

/-- What an interval task is made of. The action and the event stay as they were when the task was armed. -/
structure IntervalTask where
  key : TaskKey
  period : Span
  action : Action
  /-- The namespace of the rule. -/
  space : String
  event : Event
  token : Token
deriving Inhabited

/-- What arming has done so far. -/
structure Arming where
  registry : Registry
  /-- The tasks armed, in order. -/
  armed : List IntervalTask := []
  /-- The first schedule that could not be read. -/
  first? : Option Misconfiguration := none

namespace Arming

/-- The key of the task for one action of a rule. -/
def keyFor (rule : Rule) (event : Event) (index : Nat) : TaskKey :=
  ⟨rule.id, event.object.identity, index, event.kind⟩

/-- The schedule of an interval action, unless it is blank. -/
def schedule? (action : Action) : Option String :=
  if action.isInterval then action.schedule?.filter (!Text.isBlankText ·) else none

/-- A task for an action whose schedule was read. -/
def register (a : Arming) (rule : Rule) (event : Event) (key : TaskKey) (action : Action) (period : Span) :
    Arming :=
  match a.registry.registerTask key event.type with
  | (_, none) => a
  | (registry, some token) =>
    { a with registry, armed := a.armed ++ [⟨key, period, action, rule.id.space, event, token⟩] }

/-- The action at a place of a rule. -/
def action (rule : Rule) (event : Event) (a : Arming) (entry : Action × Nat) : Arming :=
  match schedule? entry.1 with
  | none => a
  | some schedule =>
    let key := keyFor rule event entry.2
    if a.registry.hasTask key then a
    else
      match readDuration "schedule" schedule with
      | .error cause => { a with first? := a.first?.or (some cause) }
      | .ok period => a.register rule event key entry.1 period

/-- The actions of a rule. -/
def rule (event : Event) (a : Arming) (rule : Rule) : Arming :=
  if rule.answers event then rule.spec.actions.zipIdx.foldl (action rule event) a else a

/-- The first schedule that could not be read, as a result. -/
def result (a : Arming) : Except Fault Unit :=
  match a.first? with
  | none => .ok ()
  | some cause => .error (.config cause)

end Arming

/-- The tasks that an event arms, given all rules. Nothing is armed before the first session. -/
def Registry.arm (r : Registry) (event : Event) (rules : List Rule) : Arming :=
  if r.started then rules.foldl (Arming.rule event) { registry := r } else { registry := r }

end Callout
