import Callout.Engine.Recording

/-!
Dispatching an event to one rule. The execution is claimed, and a fresh copy of the rule says whether it has
been recorded since the rules were listed. Then the actions that run once run in order, up to the first that
fails, and the outcome is recorded. The claim is given up when there is nothing to run or the record is stored;
when the record cannot be stored, the claim is all that is left to tell that the actions ran, and stays.
-/
namespace Callout

/-- Where a dispatch is. -/
inductive Dispatch.Stage where
  /-- A fresh copy of the rule is being read. -/
  | confirming
  /-- A secret is being read; the headers of an action follow from it. -/
  | reading (action : Action) (rest : List Action) (space name : String)
      (next : Except Fault SecretData → Query (Except Misconfiguration (Dict String)))
  /-- An action is running. -/
  | running (call : Call) (rest : List Action)
  /-- The outcome is being recorded. -/
  | recording (recording : Recording)

/-- A dispatch under way: it holds its claim. -/
structure Dispatch where
  /-- The rule as it was listed. -/
  rule : Rule
  event : Event
  stage : Dispatch.Stage := .confirming

namespace Dispatch

/-- What an execution is claimed by. -/
def claimFor (rule : Rule) (event : Event) : ClaimKey := ⟨rule.incarnation, event.object.identity, event.kind⟩

/-- The claim of a dispatch. -/
def claim (d : Dispatch) : ClaimKey := claimFor d.rule d.event

/-- What a dispatch waits for. -/
def demand (d : Dispatch) : Demand :=
  match d.stage with
  | .confirming => .rule d.rule.id
  | .reading _ _ space name _ => .secret space name
  | .running call _ => .run call
  | .recording recording => recording.demand

/-- The registry after a step, and where the dispatch is then. -/
abbrev Outcome := Registry × Progress Dispatch (Except Fault Unit)

/-- The dispatch that begins to record how it ended. -/
def record (d : Dispatch) (now : Moment) (outcome : RuleStatus.Outcome) : Dispatch :=
  { d with
    stage := .recording
      { rule := d.rule.id, execution := ⟨d.event.object.identity, d.event.kind, now.wall⟩, outcome } }

/-- The dispatch as far as the resolution of an action's headers has come. -/
def withHeaders (d : Dispatch) (now : Moment) (action : Action) (rest : List Action) :
    Query (Except Misconfiguration (Dict String)) → Dispatch
  | .done (.error cause) => d.record now (.error (.config cause))
  | .done (.ok headers) =>
    { d with stage := .running ⟨action, d.event.object, d.rule.space, headers⟩ rest }
  | .ask space name next => { d with stage := .reading action rest space name next }

/-- The dispatch with these actions left to run. -/
def perform (d : Dispatch) (now : Moment) : List Action → Dispatch
  | [] => d.record now (.ok ())
  | action :: rest => d.withHeaders now action rest (resolveHeaders d.rule.space action.headers)

/-- The actions of a rule that run once for each event. -/
def immediate (rule : Rule) : List Action := rule.spec.actions.filter (!·.isInterval)

/-- The dispatch of an event to a rule, unless the execution is recorded or claimed. -/
def start (registry : Registry) (rule : Rule) (event : Event) : Outcome :=
  if rule.hasExecuted event.object.identity event.kind then (registry, .finished (.ok ()))
  else
    match registry.claim (claimFor rule event) with
    | (_, false) => (registry, .finished (.ok ()))
    | (registry, true) => (registry, .waiting { rule, event })

/-- The end of a dispatch that gives up its claim. -/
def release (d : Dispatch) (registry : Registry) (outcome : Except Fault Unit) : Outcome :=
  ((registry.release d.claim).1, .finished outcome)

/-- The dispatch when a fresh copy of the rule was read. -/
def afterConfirming (d : Dispatch) (now : Moment) (registry : Registry) : Except Fault Rule → Outcome
  | .ok fresh =>
    if fresh.hasExecuted d.event.object.identity d.event.kind then d.release registry (.ok ())
    else (registry, .waiting (d.perform now (immediate d.rule)))
  | .error fault => d.release registry (if fault.isNotFound then .ok () else .error fault)

/-- The dispatch when an action ended. -/
def afterRunning (d : Dispatch) (now : Moment) (rest : List Action) : Except Fault Unit → Dispatch
  | .ok () => d.perform now rest
  | .error fault => d.record now (.error fault)

/-- The dispatch as far as its recording has come. -/
def withRecording (d : Dispatch) (registry : Registry) (outcome : RuleStatus.Outcome) :
    Progress Recording (Except Fault Unit) → Outcome
  | .waiting recording => (registry, .waiting { d with stage := .recording recording })
  | .finished (.ok ()) => d.release registry outcome
  | .finished (.error fault) => (registry, .finished (.error fault))

/-- The dispatch after an answer. -/
def resume (settings : EngineSettings) (now : Moment) (registry : Registry) :
    (d : Dispatch) → d.demand.Answer → Outcome
  | d@⟨_, _, .confirming⟩, answer => d.afterConfirming now registry answer
  | d@⟨_, _, .reading action rest _ _ next⟩, answer =>
    (registry, .waiting (d.withHeaders now action rest (next answer)))
  | d@⟨_, _, .running _ rest⟩, answer => (registry, .waiting (d.afterRunning now rest answer))
  | d@⟨_, _, .recording recording⟩, answer =>
    d.withRecording registry recording.outcome (recording.resume settings now answer)

end Dispatch
end Callout
