import Callout.Engine.Delivery

/-!
The run of a session. It takes one notification after the other, turns it into events and delivers them in
order, each when the one before has been delivered. It ends when its token is cancelled or when nothing will
follow; only then, and only itself, it takes out of the registry.
-/
namespace Callout

/-- Where the run of a session is. -/
inductive WatchRun.Stage where
  /-- Between two notifications. -/
  | idle
  /-- An event is being delivered, and others are left. -/
  | delivering (delivery : Delivery) (rest : List Event)

/-- The run of a session. -/
structure WatchRun where
  session : Session
  tracker : Tracker
  stage : WatchRun.Stage := .idle

namespace WatchRun

/-- A session that begins to run. -/
def start (session : Session) : WatchRun := { session, tracker := .new session.target.type }

/-- What the run of a session waits for. -/
def demand (w : WatchRun) : Demand :=
  match w.stage with
  | .idle => .notification w.session
  | .delivering delivery _ => delivery.demand

/-- What a step does: the registry after it, the tasks that it armed, and where the run is then. -/
structure Outcome where
  registry : Registry
  armed : List IntervalTask := []
  progress : Progress WatchRun Unit

/-- The run with these events left. -/
def deliver (w : WatchRun) (registry : Registry) : List Event → Outcome
  | [] => { registry, progress := .waiting { w with stage := .idle } }
  | event :: rest =>
    if registry.isCancelled w.session.token then { registry, progress := .finished () }
    else { registry, progress := .waiting { w with stage := .delivering (.listing event) rest } }

/-- The run when a notification came, or will not come. -/
def afterItem (w : WatchRun) (registry : Registry) : Item → Outcome
  | .cancelled => { registry, progress := .finished () }
  | .next (.error _) => { registry, progress := .waiting w }
  | .next (.ok notification) =>
    let (tracker, events) := w.tracker.push notification
    deliver { w with tracker } registry events
  | .ended =>
    { registry := (registry.releaseSession w.session.target.type w.session.id).1, progress := .finished () }

/-- The run as far as one delivery has come. A fault of a delivery changes nothing. -/
def withDelivery (w : WatchRun) (rest : List Event) (o : Delivery.Outcome) : Outcome :=
  match o.progress with
  | .waiting delivery =>
    { registry := o.registry, armed := o.armed,
      progress := .waiting { w with stage := .delivering delivery rest } }
  | .finished _ => { deliver w o.registry rest with armed := o.armed }

/-- The run after an answer. -/
def resume (settings : EngineSettings) (now : Moment) (registry : Registry) :
    (w : WatchRun) → w.demand.Answer → Outcome
  | w@⟨_, _, .idle⟩, answer => w.afterItem registry answer
  | w@⟨_, _, .delivering delivery rest⟩, answer =>
    w.withDelivery rest (delivery.resume settings now registry answer)

end WatchRun
end Callout
