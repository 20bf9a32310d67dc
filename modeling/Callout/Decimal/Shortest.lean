import Callout.Power

/-!
The shortest decimal that reads back as a given double. A finite double is `m * 2 ^ q`; the reals that
round to it form an interval whose ends count when `m` is even. For one digit, two digits and so on the
two neighbours of the value on that decimal grid are tried; the first grid with a hit wins, and of two
hits the nearer one.
-/
namespace Callout.Decimal

/-- A decimal: a natural number of units of a power of ten. -/
structure Scaled where
  /-- The number of units. -/
  digits : Nat
  /-- The unit is ten to this power. -/
  exponent : Int
deriving DecidableEq, Repr, Inhabited

/-- A positive double as a quotient, with the interval that rounds to it over the same denominator. -/
structure Rounding where
  /-- The numerator of the value. -/
  value : Nat
  /-- The numerator of the low end. -/
  low : Nat
  /-- The numerator of the high end. -/
  high : Nat
  /-- The common denominator. -/
  denominator : Nat
  /-- Whether the ends round to the value too. -/
  closed : Bool

/-- The rounding interval of the positive double with the given bits. -/
def Rounding.ofBits (bits : Nat) : Rounding :=
  let fraction := bits % 2 ^ 52
  let biased := (bits / 2 ^ 52) % 2 ^ 11
  let m := if biased = 0 then fraction else fraction + 2 ^ 52
  let e := if biased = 0 then 1 else biased
  -- the value is m * 2 ^ (e - 1075); numerators count quarters of the last place
  let up := 2 ^ (e - 1075)
  let down := 2 ^ (1075 - e)
  let below := if fraction = 0 ∧ 1 < biased then 1 else 2
  { value := 4 * m * up, low := (4 * m - below) * up, high := (4 * m + 2) * up,
    denominator := 4 * down, closed := m % 2 = 0 }

/-- Whether `n` units of `10 ^ k` lie in the interval. -/
def Rounding.holds (r : Rounding) (n : Nat) (k : Int) : Bool :=
  let x := n * 10 ^ k.toNat * r.denominator
  let unit := 10 ^ (-k).toNat
  if r.closed then r.low * unit ≤ x && x ≤ r.high * unit
  else r.low * unit < x && x < r.high * unit

/-- The number of decimal digits of a natural number. -/
def digitCount (n : Nat) : Nat := (Nat.toDigits 10 n).length

/-- The power of ten just above the value, or one more than that. -/
def Rounding.magnitude (r : Rounding) : Int :=
  if r.denominator ≤ r.value then digitCount (r.value / r.denominator)
  else 1 - (digitCount (r.denominator / r.value) : Int)

/-- The neighbour of the value on the grid of `10 ^ k` that lies in the interval and is nearest. -/
def Rounding.onGrid (r : Rounding) (k : Int) : Option Nat :=
  let numerator := r.value * 10 ^ (-k).toNat
  let denominator := r.denominator * 10 ^ k.toNat
  let n := numerator / denominator
  match r.holds n k, r.holds (n + 1) k with
  | true, true => if 2 * (numerator % denominator) ≤ denominator then some n else some (n + 1)
  | true, false => some n
  | false, true => some (n + 1)
  | false, false => none

/-- The first grid with a hit, from a magnitude on, for at most `fuel` more digits. -/
def Rounding.search (r : Rounding) : Nat → Int → Scaled
  | 0, k => ⟨r.value * 10 ^ (-k).toNat / (r.denominator * 10 ^ k.toNat), k⟩
  | fuel + 1, k =>
    match r.onGrid k with
    | some n => ⟨n, k⟩
    | none => r.search fuel (k - 1)

/-- A decimal without zeros at its end. -/
def Scaled.strip : Nat → Scaled → Scaled
  | 0, s => s
  | fuel + 1, s =>
    if s.digits ≠ 0 ∧ s.digits % 10 = 0 then Scaled.strip fuel ⟨s.digits / 10, s.exponent + 1⟩ else s

/-- The shortest decimal that reads back as the absolute value of a finite double. -/
def shortest (x : Float) : Scaled :=
  let bits := x.abs.toBits.toNat
  if bits = 0 then ⟨0, 0⟩
  else
    let r := Rounding.ofBits bits
    (r.search 18 r.magnitude).strip 20

/-- The decimal text of a number of units of a power of ten, without an exponent. -/
def Scaled.positional (s : Scaled) : String :=
  let ds := Nat.toDigits 10 s.digits
  if 0 ≤ s.exponent then String.ofList (ds ++ List.replicate s.exponent.toNat '0')
  else
    let places := (-s.exponent).toNat
    let padded := List.replicate (places + 1 - ds.length) '0' ++ ds
    String.ofList (padded.take (padded.length - places) ++ '.' :: padded.drop (padded.length - places))

/-- Whether the sign bit of a double is set. -/
def isNegative (x : Float) : Bool := 2 ^ 63 ≤ x.toBits.toNat

end Callout.Decimal
