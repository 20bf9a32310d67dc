import Callout.Engine.Demand

/-!
Beginning and ending to watch a type of resources. A type that is not watched is looked up in the cluster; then
it gets a session, unless it got one in the meantime. A type that cannot be looked up changes nothing.
-/
namespace Callout

/-- A type whose watch is being opened: it is being looked up. -/
structure Opening where
  type : ResourceType
deriving DecidableEq, Repr, Inhabited

namespace Opening

/-- What an opening waits for. -/
def demand (o : Opening) : Demand := .resolve o.type

/-- What a step does: the registry after it, the session that it began, and where the opening is then. -/
structure Outcome where
  registry : Registry
  session? : Option Session := none
  progress : Progress Opening (Except Fault Unit)

/-- An opening that begins. A type that is watched already needs none. -/
def start (registry : Registry) (type : ResourceType) : Outcome :=
  { registry, progress := if registry.isWatching type then .finished (.ok ()) else .waiting ⟨type⟩ }

/-- The opening when its type was looked up. -/
def resume (registry : Registry) (o : Opening) : Except Fault WatchTarget → Outcome
  | .error fault => { registry, progress := .finished (.error fault) }
  | .ok target =>
    match registry.registerSession o.type target with
    | (_, none) => { registry, progress := .finished (.ok ()) }
    | (registry, some session) =>
      { registry := registry.markStarted.1, session? := some session, progress := .finished (.ok ()) }

end Opening

namespace Registry

/-- Ends to watch a type, and cancels every task that its session armed. Says whether the type was watched. -/
def stopWatching (r : Registry) (type : ResourceType) : Registry × Bool :=
  match r.removeSession type with
  | (r, some token) => (r.cancel token, true)
  | (r, none) => (r, false)

/-- Cancels every session and task. -/
def shutdown (r : Registry) : Registry := r.cancel root

end Registry
end Callout
