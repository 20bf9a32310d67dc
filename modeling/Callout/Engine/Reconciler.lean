import Callout.Engine.Opening
import Callout.Engine.Ticker

/-!
Reconciling watches with rules. Each type that a rule selects is watched, or it is parked because its watch could
not be opened. Parked types are tried again at a fixed period.
-/
namespace Callout

/-- Types in order, without repeats. -/
abbrev Parked := List ResourceType

namespace Parked

/-- Types with one more. -/
def insert (type : ResourceType) : Parked → Parked
  | [] => [type]
  | first :: rest =>
    match type.compare first with
    | .lt => type :: first :: rest
    | .eq => first :: rest
    | .gt => first :: insert type rest

/-- Types after the opening of one of them ended. -/
def settle (parked : Parked) (type : ResourceType) : Except Fault Unit → Parked
  | .ok () => parked.filter (· ≠ type)
  | .error _ => parked.insert type

end Parked

/-- Types being opened one after the other. -/
structure Reconciling where
  parked : Parked
  opening : Opening
  rest : List ResourceType

namespace Reconciling

/-- What a reconciling waits for. -/
def demand (r : Reconciling) : Demand := r.opening.demand

/-- What a step does: the registry after it, the sessions that it began, and where it is then. -/
structure Outcome where
  registry : Registry
  sessions : List Session := []
  progress : Progress Reconciling Parked

/-- The opening of these types. -/
def start (registry : Registry) (parked : Parked) : List ResourceType → Outcome
  | [] => { registry, progress := .finished parked }
  | type :: rest =>
    match (Opening.start registry type).progress with
    | .waiting opening => { registry, progress := .waiting ⟨parked, opening, rest⟩ }
    | .finished result => start registry (parked.settle type result) rest

/-- The reconciling when a type was looked up. -/
def resume (registry : Registry) (r : Reconciling) (answer : Except Fault WatchTarget) : Outcome :=
  let o := Opening.resume registry r.opening answer
  match o.progress with
  | .waiting opening =>
    { registry := o.registry, sessions := o.session?.toList, progress := .waiting { r with opening } }
  | .finished result =>
    let next := start o.registry (r.parked.settle r.opening.type result) r.rest
    { next with sessions := o.session?.toList ++ next.sessions }

end Reconciling

/-- Where a reconciler is. -/
inductive Reconciler.Stage where
  /-- Waiting for news. -/
  | idle (parked : Parked)
  | busy (reconciling : Reconciling)

/-- A reconciler of watches with rules. -/
structure Reconciler where
  ticker : Ticker
  stage : Reconciler.Stage := .idle []

namespace Reconciler

/-- A reconciler that begins, if the clock has a time for the end of its first period. -/
def start? (requeue : Span) (now : Moment) : Option Reconciler :=
  (Ticker.start? now.nanos requeue).map fun ticker => { ticker }

/-- What a reconciler waits for. -/
def demand (r : Reconciler) : Demand :=
  match r.stage with
  | .idle _ => .news r.ticker.due
  | .busy reconciling => reconciling.demand

/-- What a step does: the registry after it, the sessions that it began, and where the reconciler is then. -/
structure Outcome where
  registry : Registry
  sessions : List Session := []
  progress : Progress Reconciler Unit

/-- The types that news asks to be watched. -/
def selected : RuleNews → List ResourceType
  | .applied rule => [rule.spec.selector]
  | .restarted rules => rules.map (·.spec.selector)
  | .deleted _ | .failed => []

/-- The reconciler as far as the opening of types has come. -/
def withReconciling (r : Reconciler) (o : Reconciling.Outcome) : Outcome :=
  { registry := o.registry, sessions := o.sessions,
    progress := .waiting
      { r with
        stage := match o.progress with
          | .waiting reconciling => .busy reconciling
          | .finished parked => .idle parked } }

/-- The reconciler when news came, or will not come. -/
def afterNews (r : Reconciler) (parked : Parked) (now : Moment) (registry : Registry) : News → Outcome
  | .cancelled | .ended => { registry, progress := .finished () }
  | .due =>
    withReconciling { r with ticker := r.ticker.take now.nanos } (Reconciling.start registry parked parked)
  | .next news => r.withReconciling (Reconciling.start registry parked (selected news))

/-- The reconciler after an answer. -/
def resume (now : Moment) (registry : Registry) : (r : Reconciler) → r.demand.Answer → Outcome
  | r@⟨_, .idle parked⟩, answer => r.afterNews parked now registry answer
  | r@⟨_, .busy reconciling⟩, answer => r.withReconciling (reconciling.resume registry answer)

end Reconciler
end Callout
