import Callout.Fault
import Callout.Patterns
import Callout.Rule.Spec

/-!
How often and when a failed attempt is repeated, and which status counts as success. Pauses double from
the first one up to the longest one, and a random part of at most a quarter is added to each. A sum that cannot be
represented is no pause, and whoever wanted to pause is lost.
-/
namespace Callout

/-! ## Durations of a configuration -/

/-- A duration that has to be positive. -/
def readDuration (field raw : String) : Except Misconfiguration Span :=
  match Span.read (Text.trim raw) with
  | .error cause => .error (.duration field raw cause)
  | .ok span => if span = Span.zero then .error (.zeroDuration field raw) else .ok span

/-- A text without the blanks around it, unless nothing is left. -/
def unblank (raw? : Option String) : Option String := (raw?.map Text.trim).filter (· ≠ "")

/-- A duration that may be missing or blank; another one stands for it then. -/
def durationOr (field : String) (raw? : Option String) (otherwise : Span) : Except Misconfiguration Span :=
  match unblank raw? with
  | some raw => readDuration field raw
  | none => .ok otherwise

/-! ## Retries -/

/-- When a failed attempt is repeated. -/
structure RetryPolicy where
  /-- The number of attempts, the first included. -/
  maxAttempts : Nat := 1
  /-- The pause after the first attempt. -/
  backoff : Span := .ofMillis 500
  /-- The longest pause, before the random part. -/
  maxBackoff : Span := .ofSeconds 10
  /-- Whether attempts without an answer are repeated. -/
  onNetworkError : Bool := true
  /-- The statuses after which an attempt is repeated, in increasing order. -/
  onStatus : List UInt16 := [429, 500, 502, 503, 504]
deriving DecidableEq, Repr, Inhabited

namespace RetryPolicy

/-- The policy that settings describe. At least one attempt is made, and an empty list of statuses stands for
the usual ones. -/
def ofSettings (settings? : Option RetrySettings) : Except Misconfiguration RetryPolicy := do
  let usual : RetryPolicy := {}
  match settings? with
  | none => return usual
  | some s =>
    let backoff ← durationOr "retry.backoff" s.backoff? usual.backoff
    let maxBackoff ← durationOr "retry.maxBackoff" s.maxBackoff? usual.maxBackoff
    let onStatus := match s.onStatus? with
      | none | some [] => usual.onStatus
      | some codes => (codes.mergeSort (· ≤ ·)).eraseDups
    return { maxAttempts := max (s.maxAttempts?.elim usual.maxAttempts UInt32.toNat) 1,
             backoff, maxBackoff, onStatus,
             onNetworkError := s.onNetworkError?.getD usual.onNetworkError }

/-- The pause after an attempt, before the random part. The number of doublings is bounded. -/
def baseDelay (p : RetryPolicy) (attempt : Nat) : Span :=
  (((p.backoff.times? (2 ^ min (attempt - 1) 31)).getD p.maxBackoff)).min p.maxBackoff

/-- The random part of a pause is below this many nanoseconds. -/
def jitterBound (base : Span) : Nat := min (base.nanos / 4) (2 ^ 64 - 1)

/-- The random part of the pause after an attempt, given a random number. -/
def jitter (p : RetryPolicy) (attempt draw : Nat) : Nat := draw % max (jitterBound (p.baseDelay attempt)) 1

/-- The pause after an attempt, given a random number, if it can be represented. -/
def delay? (p : RetryPolicy) (attempt draw : Nat) : Option Span :=
  (p.baseDelay attempt).plus? (p.jitter attempt draw)

/-- Whether another attempt may follow. -/
def hasAttemptsLeft (p : RetryPolicy) (attempt : Nat) : Bool := attempt < p.maxAttempts

/-- Whether an attempt with this status is repeated. -/
def retriesStatus (p : RetryPolicy) (status : UInt16) : Bool := p.onStatus.contains status

end RetryPolicy

/-! ## Expected statuses -/

/-- A test for the statuses that count as success. -/
structure Expectation where
  test : String → Bool

namespace Expectation

/-- The pattern that stands for a missing or blank one. -/
def usual : String := "^2..$"

/-- The expectation that a pattern describes. -/
def ofPattern [Patterns] (pattern? : Option String) : Except Misconfiguration Expectation :=
  let pattern := (unblank pattern?).getD usual
  match Patterns.read pattern with
  | .ok test => .ok ⟨test⟩
  | .error cause => .error (.expectedStatus pattern cause)

/-- Whether a status counts as success. -/
def accepts (e : Expectation) (status : UInt16) : Bool := e.test (toString status.toNat)

end Expectation
end Callout
