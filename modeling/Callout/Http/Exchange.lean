import Callout.Http.Preparation

/-!
Sending a request until its answer is accepted, no further attempt is worth while, or none is left. Main
rules: an answer with an expected status ends the exchange well, even one after which attempts are repeated;
what is told of a failed exchange is its last answer, where a body that cannot be read is empty; an exchange that
would pause for longer than a span can be breaks off, and nothing is told of it.
-/
namespace Callout.Http
variable [Patterns] [Credentials]

/-- The answer to one attempt. -/
inductive Answer where
  /-- A response, with its body if that can be read. -/
  | response (status : UInt16) (body? : Option String)
  /-- No response. Another attempt may get one if the failure is transient. -/
  | failure (transient : Bool) (message : String)
deriving DecidableEq, Repr, Inhabited

/-- When an exchange goes on. -/
structure Terms where
  policy : RetryPolicy
  expected : Expectation

/-- The terms of an action. -/
def Terms.ofAction (action : Action) : Except Misconfiguration Terms := do
  return ⟨← RetryPolicy.ofSettings action.retry?, ← Expectation.ofPattern action.expectedStatus?⟩

/-- What an answer is taken for. -/
inductive Verdict where
  /-- The exchange ends. -/
  | final (result : Except Fault Unit)
  /-- Another attempt is made. -/
  | again

/-- What the answer to an attempt is taken for. -/
def Terms.judge (t : Terms) (attempt : Nat) : Answer → Verdict
  | .failure transient message =>
    if t.policy.onNetworkError && transient && t.policy.hasAttemptsLeft attempt then .again
    else .final (.error (.network message))
  | .response status body? =>
    if t.expected.accepts status then .final (.ok ())
    else if t.policy.retriesStatus status && t.policy.hasAttemptsLeft attempt then .again
    else .final (.error (.status status (body?.getD "")))

/-- An exchange that is over: the requests sent, the pauses between them, and the result unless it broke off. -/
structure Exchange where
  requests : List Request := []
  pauses : List Span := []
  result? : Option (Except Fault Unit)

/-- The attempts from one on, when this many are left. Answers and random draws are told by the number of
the attempt. -/
def attemptsFrom (t : Terms) (request : Request) (answer : Nat → Answer) (draw : Nat → Nat) :
    Nat → Nat → Exchange
  | 0, _ => { result? := some (.error (.exhausted t.policy.maxAttempts)) }
  | left + 1, attempt =>
    match t.judge attempt (answer attempt) with
    | .final result => { requests := [request], result? := some result }
    | .again =>
      match t.policy.delay? attempt (draw attempt) with
      | none => { requests := [request], result? := none }
      | some pause =>
        let rest := attemptsFrom t request answer draw left (attempt + 1)
        { rest with requests := request :: rest.requests, pauses := pause :: rest.pauses }

/-- What an exchange depends on beside the call. -/
structure Network extends Outfit where
  /-- The answer to an attempt to send a request. -/
  answer : Request → Nat → Answer
  /-- The random draw after an attempt. -/
  draw : Nat → Nat

/-- An exchange that ended before a request was sent. -/
def Exchange.unsent (fault : Fault) : Exchange := { result? := some (.error fault) }

/-- Runs a call. -/
def exchange (network : Network) (c : Call) : Query Exchange :=
  match Terms.ofAction c.action with
  | .error cause => .done (.unsent (.config cause))
  | .ok terms => do
    match ← (prepare network.toOutfit c).run with
    | .error fault => return .unsent fault
    | .ok p =>
      return attemptsFrom terms p.request (network.answer p.request) network.draw terms.policy.maxAttempts 1

end Callout.Http
