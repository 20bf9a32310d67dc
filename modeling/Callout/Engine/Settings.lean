import Callout.Span.Basic

/-!
How the engine is set.
-/
namespace Callout

/-- How the engine is set. -/
structure EngineSettings where
  /-- How often a status is written at most, while others write it too. At least one attempt is made. -/
  statusAttempts : Nat := 5
  /-- The pause after the first attempt; the one after the next is longer by as much again. -/
  statusRetryBase : Span := .ofMillis 10
deriving DecidableEq, Repr, Inhabited

end Callout
