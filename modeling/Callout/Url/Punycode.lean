import Callout.Power

/-!
Text of any characters written with letters, digits and hyphens. The characters of ASCII come first; a hyphen
follows them if there are any; the others are told in increasing order by how far each is from the one before,
in digits whose weights follow the distances told so far.
-/
namespace Callout.Punycode

/-- The character of a digit. -/
def digit (n : Nat) : Char := if n < 26 then Char.ofNat ('a'.toNat + n) else Char.ofNat ('0'.toNat + (n - 26))

/-- The digit of a character. -/
def value? (c : Char) : Option Nat :=
  if 'a' ≤ c ∧ c ≤ 'z' then some (c.toNat - 'a'.toNat)
  else if 'A' ≤ c ∧ c ≤ 'Z' then some (c.toNat - 'A'.toNat)
  else if '0' ≤ c ∧ c ≤ '9' then some (c.toNat - '0'.toNat + 26)
  else none

/-- From this digit on a number goes on after the digit. -/
def threshold (place bias : Nat) : Nat := max 1 (min 26 (place - bias))

theorem threshold_pos (place bias : Nat) : 1 ≤ threshold place bias := by unfold threshold; omega

/-- How often a distance is divided, in places, and what is left of it. -/
def divided (distance places : Nat) : Nat × Nat :=
  if 455 < distance then divided (distance / 35) (places + 36) else (distance, places)
termination_by distance
decreasing_by omega

/-- The weights of the digits after a distance. -/
def adapt (distance count : Nat) (isFirst : Bool) : Nat :=
  let distance := if isFirst then distance / 700 else distance / 2
  let (rest, places) := divided (distance + distance / count) 0
  places + 36 * rest / (rest + 38)

/-- The digits of a number. -/
def digits (bias place n : Nat) : List Char :=
  let t := threshold place bias
  if n < t then [digit n]
  else digit (t + (n - t) % (36 - t)) :: digits bias (place + 36) ((n - t) / (36 - t))
termination_by n
decreasing_by
  have := threshold_pos place bias
  exact Nat.lt_of_le_of_lt (Nat.div_le_self _ _) (by omega)

/-- What has been told so far: the digits, the distance since, the weights, and how many characters. -/
structure Telling where
  text : List Char
  distance : Nat
  bias : Nat
  count : Nat

/-- One character passed by while the characters of one code are told. -/
def Telling.pass (basic code : Nat) (s : Telling) (c : Char) : Telling :=
  if c.toNat < code then { s with distance := s.distance + 1 }
  else if c.toNat = code then
    ⟨s.text ++ digits s.bias 36 s.distance, 0, adapt s.distance (s.count + 1) (s.count = basic), s.count + 1⟩
  else s

/-- The characters of increasing codes told one code after the other. -/
def tell (text : List Char) (basic : Nat) : List Nat → Nat → Telling → Telling
  | [], _, s => s
  | code :: rest, next, s =>
    let s := { s with distance := s.distance + (code - next) * (s.count + 1) }
    let s := text.foldl (Telling.pass basic code) s
    tell text basic rest (code + 1) { s with distance := s.distance + 1 }

/-- A text in letters, digits and hyphens. -/
def encode (text : List Char) : List Char :=
  let basic := text.filter (·.toNat < 0x80)
  let codes := ((text.map Char.toNat).filter (0x80 ≤ ·)).mergeSort (· ≤ ·)
  let told := tell text basic.length codes.eraseDups 0x80 ⟨[], 0, 72, basic.length⟩
  basic ++ (if basic.isEmpty then [] else ['-']) ++ told.text

/-- A number that digits begin with, and the characters after it. -/
def number? (bias : Nat) : Nat → Nat → Nat → List Char → Option (Nat × List Char)
  | _, _, _, [] => none
  | place, weight, n, c :: rest => do
    let d ← value? c
    let t := threshold place bias
    let n := n + d * weight
    if n ≥ 2 ^ 32 then none
    else if d < t then some (n, rest)
    else number? bias (place + 36) (weight * (36 - t)) n rest

/-- Characters inserted one after the other, at most as many as a bound says. The place after the last one is
told, and is the start of the text only before the first. -/
def insertions : Nat → List Char → Nat → Nat → Nat → List Char → Option (List Char)
  | _, [], _, _, _, text => some text
  | 0, _ :: _, _, _, _, _ => none
  | bound + 1, told, code, last, bias, text => do
    let (distance, told) ← number? bias 36 1 0 told
    let count := text.length + 1
    let reached := last + distance
    let code := code + reached / count
    let place := reached % count
    if code < 0x80 ∨ !Nat.isValidChar code then none
    else
      insertions bound told code (place + 1) (adapt distance count (last = 0))
        (text.take place ++ Char.ofNat code :: text.drop place)

/-- The text that letters, digits and hyphens tell. -/
def decode (told : List Char) : Option (List Char) :=
  let basic := (told.reverse.dropWhile (· ≠ '-')).drop 1 |>.reverse
  let rest := if told.contains '-' then (told.reverse.takeWhile (· ≠ '-')).reverse else told
  if basic.all (·.toNat < 0x80) then insertions rest.length rest 0x80 0 72 basic else none

end Callout.Punycode
