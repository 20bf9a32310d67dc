import Callout.Power

/-!
Spans of time, counted in nanoseconds. A span has at most `2 ^ 64 - 1` whole seconds.
-/
namespace Callout

/-- A span of time. -/
structure Span where
  /-- Its length in nanoseconds. -/
  nanos : Nat
deriving DecidableEq, Repr, Inhabited, BEq

namespace Span

/-- The nanoseconds of a second. -/
def perSecond : Nat := 1000000000

/-- The nanoseconds of a millisecond. -/
def perMilli : Nat := 1000000

/-- The span without length. -/
def zero : Span := ⟨0⟩

/-- A number of whole seconds. -/
def ofSeconds (n : Nat) : Span := ⟨n * perSecond⟩

/-- A number of milliseconds. -/
def ofMillis (n : Nat) : Span := ⟨n * perMilli⟩

/-- The whole seconds of a span. -/
def seconds (s : Span) : Nat := s.nanos / perSecond

/-- What a span has beyond its whole seconds, in nanoseconds. -/
def rest (s : Span) : Nat := s.nanos % perSecond

/-- Whether a span has at most `2 ^ 64 - 1` whole seconds. -/
def Representable (s : Span) : Prop := s.nanos < 2 ^ 64 * perSecond

instance (s : Span) : Decidable s.Representable := inferInstanceAs (Decidable (_ < _))

instance : LE Span := ⟨fun a b => a.nanos ≤ b.nanos⟩
instance : LT Span := ⟨fun a b => a.nanos < b.nanos⟩
instance (a b : Span) : Decidable (a ≤ b) := inferInstanceAs (Decidable (a.nanos ≤ b.nanos))
instance (a b : Span) : Decidable (a < b) := inferInstanceAs (Decidable (a.nanos < b.nanos))

/-- The shorter of two spans. -/
def min (a b : Span) : Span := if a ≤ b then a else b

/-- A span several times over, if that can be represented. -/
def times? (s : Span) (n : Nat) : Option Span :=
  let product : Span := ⟨s.nanos * n⟩
  if product.Representable then some product else none

/-- A span with some nanoseconds more, if that can be represented. -/
def plus? (s : Span) (nanos : Nat) : Option Span :=
  let sum : Span := ⟨s.nanos + nanos⟩
  if sum.Representable then some sum else none

end Span
end Callout
