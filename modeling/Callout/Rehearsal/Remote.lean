import Callout.Cluster.Feed
import Callout.Cluster.Secrets
import Callout.Rehearsal.Server
import Callout.Rehearsal.Surroundings

/-!
Rehearsing with a cluster: rules, secrets, names of types, notifications and news of rules all come from one server.
Actions are noted.
-/
namespace Callout.Rehearsal
open Cluster (Feed Inquiry)

/-- What is around the engine when all that it asks for comes from one server. -/
structure Remote where
  server : Server
  executors : Executors Unit := Executors.empty.register "http" ()
  /-- The fault of all actions. -/
  fault? : Option Fault := none
  /-- The actions that were noted. -/
  noted : List Call := []
  rules : Feed Rule := .ofSubject .rules
  /-- The feed of each session, by its number. -/
  sessions : List (Nat × Feed Cluster.Object) := []

namespace Remote

/-- A demand that is an inquiry. -/
def inquire {α : Type} (s : Remote) : Inquiry α → Remote × Option (Except Fault α)
  | .settled result => (s, some result)
  | .asking request read =>
    let (server, response?) := s.server.receive request
    ({ s with server }, response?.map read)

/-- What is said to a demand, if it is answered. -/
def said {d : Demand} (answered : Remote × Option d.Answer) : Remote × Reply d :=
  (answered.1, answered.2.elim .never .now)

/-- An action performed. -/
def perform (s : Remote) (call : Call) : Remote × Except Fault Unit :=
  match s.executors.pick call.action with
  | .error cause => (s, .error (.config cause))
  | .ok () => ({ s with noted := s.noted ++ [call] }, s.fault?.elim (.ok ()) .error)

/-- The next notification of a session. -/
def notification (s : Remote) (now : Nat) (session : Session) : Remote × Reply (.notification session) :=
  match s.sessions.lookup session.id with
  | none => (s, .now .ended)
  | some feed =>
    let (feed, server, item?) := feed.pull Server.receive now s.server
    let sessions := s.sessions.map fun c => if c.1 = session.id then (c.1, feed) else c
    ({ s with server, sessions },
      match item? with
      | none => .pending
      | some (.ok change) => .now (.next (.ok change.notification))
      | some (.error e) => .now (.next (.error (e.watchFault session.target.type))))

/-- The next news of rules. -/
def news (s : Remote) (now due : Nat) : Remote × Reply (.news due) :=
  let (rules, server, item?) := s.rules.pull Server.receive now s.server
  ({ s with server, rules },
    match item? with
    | none => .pending
    | some (.ok change) => .now (.next change.news)
    | some (.error _) => .now (.next .failed))

/-- What is said to a demand. -/
def reply (now : Nat) (s : Remote) : (d : Demand) → Remote × Reply d
  | .rules => said (s.inquire Cluster.Rules.list)
  | .rule id => said (s.inquire (Cluster.Rules.get id))
  | .update rule => said (s.inquire ((Cluster.Rules.update rule).map fun _ => ()))
  | .secret space name => said (s.inquire (Cluster.Secrets.get space name))
  | .resolve type => said (s.inquire (Cluster.Discovery.resolve type))
  | .run call =>
    let (s, answer) := s.perform call
    (s, .now answer)
  | .notification session => s.notification now session
  | .news due => s.news now due
  | .pause _ => (s, .now ())
  | .tick _ _ => (s, .pending)
  | .never => (s, .never)

/-- The feed of a new session. -/
def opened (s : Remote) (session : Session) : Remote :=
  { s with sessions := s.sessions ++ [(session.id, .ofSubject (.ofTarget session.target))] }

/-- The stand-ins. -/
def standIns : StandIns Remote :=
  { reply := fun now _ s d => reply now s d, opened,
    alarms := fun s => s.rules.ready :: s.sessions.map (·.2.ready) }

/-- A rehearsal with a cluster, in which a reconciler runs. -/
def start (state : Remote) (requeue : Span) : Run Remote :=
  let r : Run Remote := { standIns, state }
  ((Reconciler.start? requeue r.moment).elim r fun reconciler => r.begin (.reconciler reconciler)).settle

end Remote
end Callout.Rehearsal
