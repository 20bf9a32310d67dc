import Callout.Engine.IntervalRun
import Callout.Engine.Reconciler
import Callout.Engine.WatchRun

/-!
All kinds of activities that run beside each other, under one type.
-/
namespace Callout

/-- An activity of the engine. -/
inductive Activity where
  | task (run : IntervalRun)
  | watch (run : WatchRun)
  | delivery (delivery : Delivery)
  /-- The rules are being listed to arm tasks for an event. -/
  | arming (event : Event)
  /-- A type that is to be watched, before anything was asked. -/
  | unopened (type : ResourceType)
  | opening (opening : Opening)
  | reconciling (reconciling : Reconciling)
  | reconciler (reconciler : Reconciler)

/-- What an activity ends with. -/
inductive Activity.Result where
  | none
  | outcome (outcome : Except Fault Unit)
  | parked (parked : Parked)

/-- What a step of an activity does: the registry after it, the tasks and sessions that it began, and where it is
then. -/
structure Activity.Outcome where
  registry : Registry
  armed : List IntervalTask := []
  sessions : List Session := []
  progress : Progress Activity Activity.Result

namespace Activity

/-- What an activity waits for. -/
def demand : Activity → Demand
  | .task t => t.demand
  | .watch w => w.demand
  | .delivery d => d.demand
  | .arming _ => .rules
  | .unopened _ => .pause .zero
  | .opening o => o.demand
  | .reconciling r => r.demand
  | .reconciler r => r.demand

/-- An opening's step as one of an activity. -/
def ofOpening (o : Opening.Outcome) : Outcome :=
  { registry := o.registry, sessions := o.session?.toList, progress := o.progress.map .opening .outcome }

/-- What arming tasks for an event does, when the rules were listed. -/
def armed (registry : Registry) (event : Event) : Except Fault (List Rule) → Outcome
  | .error fault => { registry, progress := .finished (.outcome (.error fault)) }
  | .ok rules =>
    let arming := registry.arm event rules
    { registry := arming.registry, armed := arming.armed, progress := .finished (.outcome arming.result) }

/-- An activity after an answer. -/
def resume (settings : EngineSettings) (now : Moment) (registry : Registry) :
    (p : Activity) → p.demand.Answer → Outcome
  | .task t, answer =>
    let (registry, progress) := t.resume now registry answer
    { registry, progress := progress.map .task fun _ => .none }
  | .watch w, answer =>
    let o := w.resume settings now registry answer
    { registry := o.registry, armed := o.armed, progress := o.progress.map .watch fun _ => .none }
  | .delivery d, answer =>
    let o := d.resume settings now registry answer
    { registry := o.registry, armed := o.armed, progress := o.progress.map .delivery .outcome }
  | .arming event, answer => armed registry event answer
  | .unopened type, _ => ofOpening (Opening.start registry type)
  | .opening o, answer => ofOpening (Opening.resume registry o answer)
  | .reconciling r, answer =>
    let o := r.resume registry answer
    { registry := o.registry, sessions := o.sessions, progress := o.progress.map .reconciling .parked }
  | .reconciler r, answer =>
    let o := r.resume now registry answer
    { registry := o.registry, sessions := o.sessions, progress := o.progress.map .reconciler fun _ => .none }

end Activity
end Callout
