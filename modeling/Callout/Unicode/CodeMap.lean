import Callout.Unicode.CodeSet

/-!
Maps of code points, held as runs. A run maps consecutive code points, or every second one, to code
points at one distance. In a table `41-5a>61` maps the interval from `41` on to what starts at `61`,
and `100~12e>101` does the same for every second code point.
-/
namespace Callout.Unicode

/-- A run of a map of code points. -/
structure Run where
  /-- The first code point mapped. -/
  low : Nat
  /-- The last code point mapped. -/
  high : Nat
  /-- How far apart the mapped code points are. -/
  stride : Nat
  /-- What the first code point is mapped to. -/
  target : Nat

/-- What a run maps a code point to. -/
def Run.image? (r : Run) (c : Nat) : Option Nat :=
  if r.low ≤ c ∧ c ≤ r.high ∧ (c - r.low) % r.stride = 0 then some (r.target + (c - r.low)) else none

/-- What a run maps to a code point. -/
def Run.source? (r : Run) (t : Nat) : Option Nat :=
  if r.target ≤ t ∧ t - r.target ≤ r.high - r.low ∧ (t - r.target) % r.stride = 0 then
    some (r.low + (t - r.target))
  else none

/-- A map of code points; what no run covers is mapped to itself. -/
structure CodeMap where
  /-- The runs. -/
  runs : List Run

namespace CodeMap

/-- What has been read of a table: the run under way, the number under way, and the runs before. -/
private structure MapReading where
  run : Run
  pair : Bool
  /-- Whether the target is under way. -/
  aimed : Bool
  current : Nat
  runs : Array Run

private def MapReading.step (r : MapReading) (c : Char) : MapReading :=
  if c = ' ' ∨ c = '\n' then
    if r.aimed then ⟨⟨0, 0, 1, 0⟩, false, false, 0, r.runs.push { r.run with target := r.current }⟩ else r
  else if c = '-' then { r with run := { r.run with low := r.current }, pair := true, current := 0 }
  else if c = '~' then
    { r with run := { r.run with low := r.current, stride := 2 }, pair := true, current := 0 }
  else if c = '>' then
    let low := if r.pair then r.run.low else r.current
    { r with run := { r.run with low := low, high := r.current }, aimed := true, current := 0 }
  else { r with current := r.current * 16 + CodeSet.digitValue c }

/-- The map that a table describes. -/
def ofText (table : String) : CodeMap :=
  ⟨((table.foldl MapReading.step ⟨⟨0, 0, 1, 0⟩, false, false, 0, #[]⟩).step ' ').runs.toList⟩

/-- What a code point is mapped to. -/
def apply (m : CodeMap) (c : Nat) : Nat :=
  (m.runs.findSome? (·.image? c)).getD c

/-- The code points other than itself that are mapped to a code point. -/
def sources (m : CodeMap) (t : Nat) : List Nat :=
  m.runs.filterMap (·.source? t)

end CodeMap
end Callout.Unicode
