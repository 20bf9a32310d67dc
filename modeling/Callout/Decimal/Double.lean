import Callout.Decimal.Shortest

/-!
Doubles as exact numbers: reading one from decimal text, its whole part, and the remainder of one by
another. A finite double is a whole number of units of a power of two, so all of it is done on integers.
-/
namespace Callout.Decimal

/-- The value of a natural number as a double, rounded to the nearest. -/
def ofNat (n : Nat) : Float := Float.ofScientific n false 0

/-- The value of an integer as a double, rounded to the nearest. -/
def ofInt (n : Int) : Float := if n < 0 then -ofNat n.natAbs else ofNat n.natAbs

/-- A finite double as `m * 2 ^ e`. -/
def units? (x : Float) : Option (Int × Int) :=
  if x.isNaN || x.isInf then none
  else
    let bits := x.abs.toBits.toNat
    let fraction := bits % 2 ^ 52
    let biased := (bits / 2 ^ 52) % 2 ^ 11
    let m : Nat := if biased = 0 then fraction else fraction + 2 ^ 52
    let e : Int := (if biased = 0 then 1 else biased : Nat) - 1075
    some (if isNegative x then -m else m, e)

/-- The whole part of a finite double. -/
def whole? (x : Float) : Option Int :=
  (units? x).map fun (m, e) => if 0 ≤ e then m * 2 ^ e.toNat else m.tdiv (2 ^ (-e).toNat)

/-- Whether a finite double is a whole number. -/
def isWhole (x : Float) : Bool :=
  match units? x with
  | none => false
  | some (m, e) => 0 ≤ e || m % 2 ^ (-e).toNat = 0

/-- The remainder of a double by another, from zero up to the other's absolute value. -/
def remainder (x y : Float) : Float :=
  match units? x, units? y with
  | some (m, e), some (n, f) =>
    if n = 0 then 0.0 / 0.0
    else
      let unit := min e f
      let r := (m * 2 ^ (e - unit).toNat) % (n * 2 ^ (f - unit).toNat)
      if r = 0 ∧ isNegative x then -0.0 else (ofInt r).scaleB unit
  | some _, none => if y.isNaN then y else if x < 0.0 then y.abs else x
  | none, _ => 0.0 / 0.0

/-- The quotient of a double by another that leaves a remainder of zero or more. -/
def quotient (x y : Float) : Float :=
  match units? x, units? y with
  | some (m, e), some (n, f) =>
    if n = 0 then x / y
    else
      let unit := min e f
      ofInt ((m * 2 ^ (e - unit).toNat) / (n * 2 ^ (f - unit).toNat))
  | _, _ => x / y

/-- The worth of decimal digits. -/
def digitsWorth (ds : List Char) : Nat := ds.foldl (fun n d => n * 10 + (d.toNat - '0'.toNat)) 0

/-- An exponent: a sign, if there is one, and digits. -/
def exponent? (cs : List Char) : Option Int :=
  let digits (ds : List Char) : Option Int := if ds ≠ [] ∧ ds.all Char.isDigit then some (digitsWorth ds) else none
  match cs with
  | '-' :: ds => (digits ds).map (- ·)
  | '+' :: ds => digits ds
  | ds => digits ds

/-- An absolute value: digits with or without a point, and with or without an exponent. -/
def magnitude? (cs : List Char) : Option Float := do
  let isMark (c : Char) : Bool := c = 'e' || c = 'E'
  let body := cs.takeWhile (!isMark ·)
  let exponent ← match cs.dropWhile (!isMark ·) with
    | [] => some 0
    | _ :: rest => exponent? rest
  let whole := body.takeWhile (· ≠ '.')
  let rest := (body.dropWhile (· ≠ '.')).drop 1
  if (whole ++ rest).all Char.isDigit ∧ whole ++ rest ≠ [] then
    let e := exponent - rest.length
    let m := digitsWorth (whole ++ rest)
    if m = 0 then some 0.0
    else if e + digitCount m > 400 then some (1.0 / 0.0)
    else if e + digitCount m < -400 then some 0.0
    else some (Float.ofScientific m (e < 0) e.natAbs)
  else none

/-- The double that a text says: a sign, if there is one, and an absolute value or a word for an infinite
number or for not-a-number. -/
def double? (text : String) : Option Float :=
  let unsigned (cs : List Char) : Option Float :=
    match String.ofList (cs.map Char.toLower) with
    | "inf" | "infinity" => some (1.0 / 0.0)
    | "nan" => some (0.0 / 0.0)
    | _ => magnitude? cs
  match text.toList with
  | '-' :: cs => (unsigned cs).map (- ·)
  | '+' :: cs => unsigned cs
  | cs => unsigned cs

/-- The integer that a text says: a sign, if there is one, and digits. -/
def integer? (text : String) : Option Int := exponent? text.toList

/-- The decimal text of a double with at least one digit after the point. -/
def pointed (x : Float) : String :=
  if x.isNaN then "NaN"
  else if x.isInf then if x < 0.0 then "-inf" else "inf"
  else
    let s := (shortest x).positional
    (if isNegative x then "-" else "") ++ s ++ (if s.contains '.' then "" else ".0")

/-- The decimal text of a double, with an exponent when it is far from one. -/
def scientific (x : Float) : String :=
  let far := !(x == 0.0) && !x.isNaN && !x.isInf && !((1e-4 : Float) ≤ x.abs && x.abs < (1e16 : Float))
  if far then
    let s := shortest x
    let ds := Nat.toDigits 10 s.digits
    let exponent := s.exponent + (ds.length - 1 : Nat)
    let body := match ds with
      | [d] => [d]
      | d :: rest => d :: '.' :: rest
      | [] => []
    (if isNegative x then "-" else "") ++ String.ofList body ++ "e" ++ toString exponent
  else pointed x

end Callout.Decimal
