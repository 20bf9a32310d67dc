import Callout.Certificate
import Callout.Executors
import Callout.Http.Exchange
import Callout.Rehearsal.Run
import Callout.Rehearsal.Shelf

/-!
Stand-ins for all that is around the engine: the store of rules, secrets, executors that note what they are given,
names of types, streams of notifications, and news of rules.
-/
namespace Callout.Rehearsal

/-- What an executor does with an action. -/
inductive Performer where
  /-- It notes the action and answers as arranged. -/
  | recorder
  /-- It sends the request of the action, to nobody. -/
  | sender (network : Http.Network)

/-- An action that was noted, with the time. -/
structure Noted where
  time : Nat
  call : Call
deriving Inhabited

/-- A stream of notifications for a session. -/
structure Stream where
  session : Session
  items : List (Except Fault Notification) := []
  isOpen : Bool := true

/-- Stand-ins for all that is around the engine. -/
structure Surroundings where
  shelf : Shelf := {}
  secrets : Dict SecretData := .empty
  secretFaults : Dict Fault := .empty
  executors : Executors Performer := .empty
  /-- The fault of all actions. -/
  fault? : Option Fault := none
  /-- The faults of actions with an address. -/
  faultsByUrl : Dict Fault := .empty
  /-- How long actions take. -/
  delay : Nat := 0
  /-- The rule that is removed when the next action runs. -/
  removal? : Option RuleId := none
  noted : List Noted := []
  /-- What types are called, or why that cannot be told. -/
  types : List (ResourceType × Except Fault (String × Bool)) := []
  /-- How long it takes to look a type up. -/
  lookupDelay : Nat := 0
  lookups : Nat := 0
  streams : List Stream := []
  subscriptions : Nat := 0
  /-- News of rules that were not taken yet. -/
  news : List RuleNews := []
  newsEnded : Bool := false

namespace Surroundings

/-- A secret by namespace and name. -/
def secret (s : Surroundings) (space name : String) : Except Fault SecretData :=
  let place := space ++ "/" ++ name
  match s.secretFaults.get? place, s.secrets.get? place with
  | some fault, _ => .error fault
  | none, some data => .ok data
  | none, none => .error (.notFound ("secret " ++ place))

/-- How an action ends. -/
def outcome (s : Surroundings) (call : Call) : Except Fault Unit :=
  match s.faultsByUrl.get? call.action.url, s.fault? with
  | some fault, _ | none, some fault => .error fault
  | none, none => .ok ()

/-- An action noted. -/
def note (s : Surroundings) (now : Nat) (call : Call) : Surroundings :=
  { s with
    noted := s.noted ++ [⟨now, call⟩], removal? := none,
    shelf := s.removal?.elim s.shelf s.shelf.remove }

/-- An action performed. -/
def perform (s : Surroundings) (now : Nat) (call : Call) : Surroundings × Reply (.run call) :=
  match s.executors.pick call.action with
  | .error cause => (s, .now (.error (.config cause)))
  | .ok (.sender network) =>
    (s,
      match ((Http.exchange network call).run s.secret).result? with
      | some result => .now result
      | none => .never)
  | .ok .recorder =>
    (s.note now call,
      if s.delay = 0 then .now (s.outcome call) else .later (now + s.delay) (some (s.outcome call)))

/-- What a type is called. -/
def lookup (s : Surroundings) (type : ResourceType) : Except Fault WatchTarget :=
  match s.types.lookup type with
  | some (.ok (plural, namespaced)) => .ok ⟨type, plural, namespaced⟩
  | some (.error fault) => .error fault
  | none => .error (.unknownResourceType type.toText)

/-- A type looked up. -/
def resolve (s : Surroundings) (now : Nat) (again : Bool) (type : ResourceType) :
    Surroundings × Reply (.resolve type) :=
  if again then (s, .now (s.lookup type))
  else
    let s := { s with lookups := s.lookups + 1 }
    (s, if s.lookupDelay = 0 then .now (s.lookup type) else .later (now + s.lookupDelay) none)

/-- The next item of a list that may grow. -/
def take {α : Type} (items : List α) (isOpen : Bool) : Option (Option (α × List α)) :=
  match items with
  | item :: rest => some (some (item, rest))
  | [] => if isOpen then none else some none

/-- The next notification of a session. -/
def notification (s : Surroundings) (session : Session) : Surroundings × Reply (.notification session) :=
  match s.streams.find? (·.session.id = session.id) with
  | none => (s, .now .ended)
  | some stream =>
    match take stream.items stream.isOpen with
    | none => (s, .pending)
    | some none => (s, .now .ended)
    | some (some (item, rest)) =>
      let streams := s.streams.map fun c => if c.session.id = session.id then { c with items := rest } else c
      ({ s with streams }, .now (.next item))

/-- The next news of rules. -/
def nextNews (s : Surroundings) (due : Nat) : Surroundings × Reply (.news due) :=
  match take s.news !s.newsEnded with
  | none => (s, .pending)
  | some none => (s, .now .ended)
  | some (some (news, rest)) => ({ s with news := rest }, .now (.next news))

/-- What is said to a demand. -/
def reply (now : Nat) (again : Bool) (s : Surroundings) : (d : Demand) → Surroundings × Reply d
  | .rules => (s, .now s.shelf.list)
  | .rule id =>
    let (shelf, answer) := s.shelf.get id
    ({ s with shelf }, .now answer)
  | .update rule =>
    let (shelf, answer) := s.shelf.update rule
    ({ s with shelf }, .now answer)
  | .secret space name => (s, .now (s.secret space name))
  | .run call => s.perform now call
  | .resolve type => s.resolve now again type
  | .notification session => s.notification session
  | .news due => s.nextNews due
  | .pause _ => (s, .now ())
  | .tick _ _ => (s, .pending)
  | .never => (s, .never)

/-- The stream of a new session. An earlier stream of its type ends. -/
def opened (s : Surroundings) (session : Session) : Surroundings :=
  let streams := s.streams.map fun c =>
    if c.session.target.type = session.target.type then { c with isOpen := false } else c
  { s with streams := streams ++ [{ session }], subscriptions := s.subscriptions + 1 }

/-- The stand-ins. -/
def standIns : StandIns Surroundings := { reply, opened }

/-- A rehearsal that begins. -/
def start (state : Surroundings) (settings : EngineSettings := {}) : Run Surroundings :=
  { settings, standIns, state }

end Surroundings

/-- A rehearsal in which nothing comes from a cluster. -/
abbrev LocalRun := Run Surroundings

namespace Run

/-- Other surroundings. -/
def arrange (r : LocalRun) (change : Surroundings → Surroundings) : LocalRun :=
  { r with state := change r.state }

/-- Whether the session of a stream still runs. -/
def isHeard (r : LocalRun) (stream : Stream) : Bool :=
  stream.isOpen && r.activities.any fun p =>
    match p.activity with
    | .watch run => run.session.id = stream.session.id
    | _ => false

/-- An item for the stream of a type, and whether there is one to take it. -/
def notify (r : LocalRun) (type : ResourceType) (item : Except Fault Notification) : LocalRun × Bool :=
  match r.state.streams.find? fun c => c.session.target.type = type && r.isHeard c with
  | none => (r, false)
  | some stream =>
    (r.arrange fun s =>
      { s with
        streams := s.streams.map fun c =>
          if c.session.id = stream.session.id then { c with items := c.items ++ [item] } else c }, true)

/-- Ends the stream of a type, and says whether there was one. -/
def close (r : LocalRun) (type : ResourceType) : LocalRun × Bool :=
  let hit (c : Stream) : Bool := c.session.target.type = type && c.isOpen
  (r.arrange fun s =>
    { s with streams := s.streams.map fun c => if hit c then { c with isOpen := false } else c },
    r.state.streams.any hit)

/-- Sees to it that types are watched or parked. -/
def reconcile (r : LocalRun) (parked : Parked) (types : List ResourceType) : LocalRun × Parked :=
  match (Reconciling.start r.registry parked types).progress with
  | .finished parked => (r, parked)
  | .waiting reconciling =>
    match r.await [.reconciling reconciling] with
    | (r, [.parked parked]) => (r, parked)
    | (r, _) => (r, parked)

end Run
end Callout.Rehearsal
