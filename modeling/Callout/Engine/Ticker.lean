import Callout.Span.Basic

/-!
Ticks at a fixed period. A tick that is taken late by more than a little moves those after it, so that ticks
never bunch up; one taken a little late leaves them where they were. There are no ticks at all if the clock does not
reach as far as the first of them.
-/
namespace Callout

/-- Ticks to come: when the next one is due, in nanoseconds, and how far it is to the one after. -/
structure Ticker where
  due : Nat
  period : Span
deriving DecidableEq, Repr, Inhabited

namespace Ticker

/-- How late a tick may be taken without moving those after it. -/
def grace : Nat := 5 * Span.perMilli

/-- Where the clock ends. A time on it has less than `2 ^ 63` whole seconds. -/
def horizon : Nat := 2 ^ 63 * Span.perSecond

/-- A ticker whose first tick is due a period from now on, if that is a time on the clock. -/
def start? (now : Nat) (period : Span) : Option Ticker :=
  let due := now + period.nanos
  if due < horizon then some ⟨due, period⟩ else none

/-- The ticks to come after one is taken. -/
def take (t : Ticker) (now : Nat) : Ticker :=
  { t with due := (if t.due + grace < now then now else t.due) + t.period.nanos }

end Ticker
end Callout
