import Callout.Engine.Token
import Callout.Lifecycle
import Callout.Rule

/-!
What the engine keeps track of: the sessions that watch a type of resources, the interval tasks that run, and
the executions that are claimed by a dispatch. Each session has a token below the root, and each task one below
the session of its type, or below the root when the type has no session at the time.
-/
namespace Callout

/-- A type of resources as it is found in the cluster. -/
structure WatchTarget where
  type : ResourceType
  plural : String
  namespaced : Bool
deriving DecidableEq, Repr, Inhabited

/-- What tells an interval task from others. -/
structure TaskKey where
  rule : RuleId
  /-- The identity of the object. -/
  object : String
  /-- The place of the action among the actions of the rule. -/
  action : Nat
  event : EventKind
deriving DecidableEq, Repr, Inhabited

/-- The text of a task's key. -/
def TaskKey.toText (k : TaskKey) : String :=
  k.rule.toText ++ "/" ++ k.object ++ "/" ++ toString k.action ++ "/" ++ k.event.toText

/-- What an execution is claimed by: the incarnation of a rule, an object and a kind of event. -/
structure ClaimKey where
  rule : String
  /-- The identity of the object. -/
  object : String
  event : EventKind
deriving DecidableEq, Repr, Inhabited

/-- The number of a session. No two sessions have the same. -/
abbrev SessionId := Nat

/-- A session that watches a type of resources. -/
structure Session where
  id : SessionId
  target : WatchTarget
  token : Token
deriving DecidableEq, Repr, Inhabited

/-- What the engine keeps track of. -/
structure Registry where
  /-- Whether a first session was registered. -/
  started : Bool := false
  lastSession : SessionId := 0
  /-- The sessions by the type that they watch. -/
  sessions : List (ResourceType × Session) := []
  tasks : List (TaskKey × Token) := []
  claims : List ClaimKey := []
  tokens : TokenTree := .new
deriving DecidableEq, Repr, Inhabited

namespace Registry

/-- The token that is cancelled when the engine shuts down. -/
def root : Token := TokenTree.root

/-- Whether a token is cancelled. -/
def isCancelled (r : Registry) (t : Token) : Bool := r.tokens.isCancelled t

/-- The registry after a token is cancelled. -/
def cancel (r : Registry) (t : Token) : Registry := { r with tokens := r.tokens.cancel t }

/-- Notes that a first session was registered, and whether that is news. -/
def markStarted (r : Registry) : Registry × Bool := ({ r with started := true }, !r.started)

/-! ## Sessions -/

/-- The session of a type. -/
def session? (r : Registry) (type : ResourceType) : Option Session := r.sessions.lookup type

/-- Whether a type has a session. -/
def isWatching (r : Registry) (type : ResourceType) : Bool := (r.session? type).isSome

/-- The registry without the session of a type. -/
def dropSession (r : Registry) (type : ResourceType) : Registry :=
  { r with sessions := r.sessions.filter (·.1 ≠ type) }

/-- A new session for a type that has none. -/
def registerSession (r : Registry) (type : ResourceType) (target : WatchTarget) :
    Registry × Option Session :=
  if r.isWatching type then (r, none)
  else
    let (tokens, token) := r.tokens.child root
    let session : Session := ⟨r.lastSession + 1, target, token⟩
    ({ r with tokens, lastSession := session.id, sessions := r.sessions ++ [(type, session)] }, some session)

/-- Removes the session of a type, and gives its token. -/
def removeSession (r : Registry) (type : ResourceType) : Registry × Option Token :=
  (r.dropSession type, (r.session? type).map (·.token))

/-- Removes the session of a type if it is the one with the number given. -/
def releaseSession (r : Registry) (type : ResourceType) (id : SessionId) : Registry × Bool :=
  if (r.session? type).map (·.id) = some id then (r.dropSession type, true) else (r, false)

/-- What the sessions watch, in the order of the types. -/
def watched (r : Registry) : List WatchTarget :=
  (r.sessions.map (·.2.target)).mergeSort fun a b => (a.type.compare b.type).isLE

/-! ## Tasks -/

/-- Whether there is a task with a key. -/
def hasTask (r : Registry) (key : TaskKey) : Bool := (r.tasks.lookup key).isSome

/-- A new task with a key that none has, for objects of a type. -/
def registerTask (r : Registry) (key : TaskKey) (type : ResourceType) : Registry × Option Token :=
  if r.hasTask key then (r, none)
  else
    let parent := ((r.session? type).map (·.token)).getD root
    let (tokens, token) := r.tokens.child parent
    ({ r with tokens, tasks := r.tasks ++ [(key, token)] }, some token)

/-- Removes the task with a key, and says whether there was one. -/
def removeTask (r : Registry) (key : TaskKey) : Registry × Bool :=
  ({ r with tasks := r.tasks.filter (·.1 ≠ key) }, r.hasTask key)

/-! ## Claims -/

/-- Claims an execution that is not claimed. -/
def claim (r : Registry) (key : ClaimKey) : Registry × Bool :=
  if r.claims.contains key then (r, false) else ({ r with claims := r.claims ++ [key] }, true)

/-- Gives a claim up, and says whether there was one. -/
def release (r : Registry) (key : ClaimKey) : Registry × Bool :=
  ({ r with claims := r.claims.filter (· ≠ key) }, r.claims.contains key)

end Registry
end Callout
