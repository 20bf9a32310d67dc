/-!
Sets of code points, held as increasing intervals. The tables of the character classes are written
in this form: hexadecimal code points, an interval as two of them with a hyphen between.
-/
namespace Callout.Unicode

/-- A set of code points: increasing intervals, each with both its ends. -/
structure CodeSet where
  /-- The intervals. -/
  spans : Array (Nat × Nat)

namespace CodeSet

/-- The value of a hexadecimal digit in lower case. -/
def digitValue (c : Char) : Nat :=
  if '0' ≤ c ∧ c ≤ '9' then c.toNat - '0'.toNat else c.toNat - 'a'.toNat + 10

/-- What has been read of a table: the number under way, the low end before a hyphen, the intervals. -/
private structure Reading where
  current : Option Nat
  low : Option Nat
  spans : Array (Nat × Nat)

private def Reading.flush (r : Reading) : Reading :=
  match r.current with
  | none => r
  | some n => ⟨none, none, r.spans.push (r.low.getD n, n)⟩

private def Reading.step (r : Reading) (c : Char) : Reading :=
  if c = ' ' ∨ c = '\n' then r.flush
  else if c = '-' then { r with low := r.current, current := none }
  else { r with current := some (r.current.getD 0 * 16 + digitValue c) }

/-- The set that a table describes. -/
def ofText (table : String) : CodeSet :=
  ⟨(table.foldl Reading.step ⟨none, none, #[]⟩).flush.spans⟩

/-- Whether the set holds a code point; the intervals are searched by halving. -/
def contains (s : CodeSet) (c : Nat) : Bool :=
  go 0 s.spans.size
where
  go (lo hi : Nat) : Bool :=
    if _h : lo < hi then
      let mid := (lo + hi) / 2
      match s.spans[mid]? with
      | none => false
      | some (a, b) =>
        if c < a then go lo mid
        else if b < c then go (mid + 1) hi
        else true
    else false
  termination_by hi - lo

/-- Whether the set holds a character. -/
def has (s : CodeSet) (c : Char) : Bool := s.contains c.toNat

end CodeSet
end Callout.Unicode
