import Callout.Call
import Callout.Engine.Registry
import Callout.Secret
import Callout.Span.Basic
import Callout.Tracking

/-!
What the activities of the engine wait for. An activity is at a stage, and each stage waits for one thing; the
answer, with the moment at which it is taken, decides the next stage. Between two answers an activity changes
the registry at one stroke, so whatever else happens, happens while it waits.
-/
namespace Callout

/-- A moment: the time since the clock was started, and what a calendar shows. -/
structure Moment where
  /-- The time since the clock was started, in nanoseconds. -/
  nanos : Nat
  wall : Timestamp
deriving DecidableEq, Repr, Inhabited

/-- What becomes of a wait for a tick. -/
inductive Tick where
  | due
  | cancelled
deriving DecidableEq, Repr, Inhabited

/-- What becomes of a wait for a notification. -/
inductive Item where
  | cancelled
  /-- A notification, or a fault of the watch, after which it goes on. -/
  | next (item : Except Fault Notification)
  /-- Nothing will follow. -/
  | ended

/-- What happened to rules. -/
inductive RuleNews where
  | applied (rule : Rule)
  | deleted (rule : Rule)
  | restarted (rules : List Rule)
  /-- A fault of the watch, after which it goes on. -/
  | failed
deriving Inhabited

/-- What becomes of a wait for news of rules. -/
inductive News where
  | cancelled
  /-- It is time to try again what failed. -/
  | due
  | next (news : RuleNews)
  /-- Nothing will follow. -/
  | ended

/-- What an activity waits for. -/
inductive Demand where
  /-- The list of all rules. -/
  | rules
  /-- A rule as it is now. -/
  | rule (id : RuleId)
  /-- The status of a rule to be stored, if the rule is still the one that was read. -/
  | update (rule : Rule)
  | secret (space name : String)
  /-- The end of an action. -/
  | run (call : Call)
  /-- What a type of resources is called in the cluster. -/
  | resolve (type : ResourceType)
  | pause (span : Span)
  /-- A time to come, unless a token is cancelled before. -/
  | tick (due : Nat) (token : Token)
  /-- The next notification of a session, unless its token is cancelled before. -/
  | notification (session : Session)
  /-- News of rules, a time to come, or the end of the engine. -/
  | news (due : Nat)
  /-- Nothing that will ever come. -/
  | never

/-- What answers a demand. -/
def Demand.Answer : Demand → Type
  | .rules => Except Fault (List Rule)
  | .rule _ => Except Fault Rule
  | .update _ => Except Fault Unit
  | .secret _ _ => Except Fault SecretData
  | .run _ => Except Fault Unit
  | .resolve _ => Except Fault WatchTarget
  | .pause _ => Unit
  | .tick _ _ => Tick
  | .notification _ => Item
  | .news _ => News
  | .never => Empty

/-- An activity that waits at a stage, or its result. -/
inductive Progress (σ α : Type) where
  | waiting (stage : σ)
  | finished (result : α)

/-- Another stage that contains one, and another result. -/
def Progress.map {σ τ α β : Type} (stage : σ → τ) (result : α → β) : Progress σ α → Progress τ β
  | .waiting s => .waiting (stage s)
  | .finished a => .finished (result a)

end Callout
