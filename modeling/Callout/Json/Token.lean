import Callout.Json.Basic
import Callout.Power

/-!
The tokens of a text in the data format. The text is read one character at a time; what is under way
(a text, an escape, a number, a word) is the mode. Blanks between tokens are the space, the tab and the
two line characters. A text holds no bare control character, and of the escapes for half a pair only
whole pairs count.
-/
namespace Callout.Json

/-- A token. -/
inductive Token where
  | openList
  | closeList
  | openObject
  | closeObject
  | comma
  | colon
  | value (scalar : Json)

namespace Token

/-- What is under way while a text is read; what stands before it comes last first. -/
inductive Mode where
  /-- Between tokens. -/
  | between
  /-- In a text; with the first half of an escaped pair if one stands right before. -/
  | inText (done : List Char) (half : Option Nat)
  /-- After a backslash in a text. -/
  | escape (done : List Char) (half : Option Nat)
  /-- In the four digits of an escape: what they are worth and how many are missing. -/
  | code (done : List Char) (half : Option Nat) (worth missing : Nat)
  /-- In a number. -/
  | inNumber (done : List Char)
  /-- In a word. -/
  | inWord (done : List Char)

/-- The worth of a hexadecimal digit. -/
def hexWorth (c : Char) : Option Nat :=
  if '0' ≤ c ∧ c ≤ '9' then some (c.toNat - 48)
  else if 'a' ≤ c ∧ c ≤ 'f' then some (c.toNat - 87)
  else if 'A' ≤ c ∧ c ≤ 'F' then some (c.toNat - 55)
  else none

/-- The worth of a list of decimal digits. -/
def digitsWorth (ds : List Char) : Nat := ds.foldl (fun n d => n * 10 + (d.toNat - 48)) 0

/-- A number: its sign, the digits before and after the point, and the exponent. -/
structure Numeral where
  negative : Bool
  whole : List Char
  fraction : Option (List Char)
  exponent : Option Int

/-- The exponent of a number, after the mark. -/
def readExponent (cs : List Char) : Option Int :=
  let (negative, digits) :=
    match cs with
    | '-' :: rest => (true, rest)
    | '+' :: rest => (false, rest)
    | rest => (false, rest)
  if digits ≠ [] ∧ digits.all Char.isDigit then
    some (if negative then -(digitsWorth digits : Int) else digitsWorth digits)
  else none

/-- The parts of a number; a whole part of several digits starts with no zero. -/
def readNumeral (cs : List Char) : Option Numeral :=
  let (negative, cs) := match cs with
    | '-' :: rest => (true, rest)
    | rest => (false, rest)
  let whole := cs.takeWhile Char.isDigit
  let rest := cs.dropWhile Char.isDigit
  if whole = [] ∨ (whole.head? = some '0' ∧ 1 < whole.length) then none
  else
    let (fraction, rest) : Option (List Char) × List Char := match rest with
      | '.' :: more => (some (more.takeWhile Char.isDigit), more.dropWhile Char.isDigit)
      | rest => (none, rest)
    if fraction = some [] then none
    else match rest with
      | [] => some ⟨negative, whole, fraction, none⟩
      | mark :: digits =>
        if mark = 'e' ∨ mark = 'E' then
          (readExponent digits).map (⟨negative, whole, fraction, some ·⟩)
        else none

/-- The value of a number. A whole number within 64 bits, with a sign or without, is exact; any other
is the nearest double, which must be finite. -/
def Numeral.value (n : Numeral) : Option Json :=
  let whole := digitsWorth n.whole
  let small := if n.negative then 0 < whole ∧ whole ≤ 2 ^ 63 else whole < 2 ^ 64
  if n.fraction = none ∧ n.exponent = none ∧ small then
    some (.int (if n.negative then -(whole : Int) else whole))
  else
    let fraction := n.fraction.getD []
    let mantissa := digitsWorth (n.whole ++ fraction)
    let exponent := n.exponent.getD 0 - fraction.length
    let clamped := max (-100000) (min exponent 100000)
    let x := Float.ofScientific mantissa (clamped < 0) clamped.natAbs
    if x.isInf then none else some (.real (if n.negative then -x else x))

/-- The token of a number. -/
def ofNumber (done : List Char) : Option Token := do
  return .value (← (← readNumeral done.reverse).value)

/-- The token of a word. -/
def ofWord (done : List Char) : Option Token :=
  match String.ofList done.reverse with
  | "null" => some (.value .null)
  | "true" => some (.value (.bool true))
  | "false" => some (.value (.bool false))
  | _ => none

/-- A character between tokens: the mode it starts and the token it is. -/
def start (c : Char) : Option (Mode × List Token) :=
  match c with
  | ' ' | '\t' | '\n' | '\r' => some (.between, [])
  | '[' => some (.between, [.openList])
  | ']' => some (.between, [.closeList])
  | '\x7b' => some (.between, [.openObject])
  | '\x7d' => some (.between, [.closeObject])
  | ',' => some (.between, [.comma])
  | ':' => some (.between, [.colon])
  | '"' => some (.inText [] none, [])
  | c =>
    if c = '-' ∨ c.isDigit then some (.inNumber [c], [])
    else if c.isAlpha then some (.inWord [c], [])
    else none

/-- The character that a letter stands for after a backslash. -/
def escaped (c : Char) : Option Char :=
  match c with
  | '"' => some '"'
  | '\\' => some '\\'
  | '/' => some '/'
  | 'b' => some '\x08'
  | 'f' => some '\x0c'
  | 'n' => some '\n'
  | 'r' => some '\r'
  | 't' => some '\t'
  | _ => none

/-- What four digits of an escape do to a text: a code point stands for itself, the two halves of a
pair for one code point, and a half without its partner for nothing. -/
def closeCode (done : List Char) (half : Option Nat) (n : Nat) : Option Mode :=
  match half with
  | some high =>
    if 0xdc00 ≤ n ∧ n < 0xe000 then
      some (.inText (Char.ofNat (0x10000 + (high - 0xd800) * 1024 + (n - 0xdc00)) :: done) none)
    else none
  | none =>
    if 0xd800 ≤ n ∧ n < 0xdc00 then some (.inText done (some n))
    else if 0xdc00 ≤ n ∧ n < 0xe000 then none
    else some (.inText (Char.ofNat n :: done) none)

/-- One character more: the mode after it and the tokens that it ends. -/
def step (mode : Mode) (c : Char) : Option (Mode × List Token) :=
  match mode with
  | .between => start c
  | .inText done half =>
    if c = '\\' then some (.escape done half, [])
    else if half.isSome then none
    else if c = '"' then some (.between, [.value (.text (String.ofList done.reverse))])
    else if c.toNat < 0x20 then none
    else some (.inText (c :: done) none, [])
  | .escape done half =>
    if c = 'u' then some (.code done half 0 4, [])
    else if half.isSome then none
    else (escaped c).map fun e => (.inText (e :: done) none, [])
  | .code done half worth missing => do
    let n := worth * 16 + (← hexWorth c)
    if missing ≤ 1 then return (← closeCode done half n, [])
    else return (.code done half n (missing - 1), [])
  | .inNumber done =>
    if c.isDigit ∨ c = '.' ∨ c = 'e' ∨ c = 'E' ∨ c = '+' ∨ c = '-' then
      some (.inNumber (c :: done), [])
    else do
      let number ← ofNumber done
      let (mode, tokens) ← start c
      return (mode, number :: tokens)
  | .inWord done =>
    if c.isAlpha then some (.inWord (c :: done), [])
    else do
      let word ← ofWord done
      let (mode, tokens) ← start c
      return (mode, word :: tokens)

/-- The tokens of a text that starts in a mode. -/
def scanFrom : Mode → List Char → Option (List Token)
  | .between, [] => some []
  | .inNumber done, [] => (ofNumber done).map ([·])
  | .inWord done, [] => (ofWord done).map ([·])
  | _, [] => none
  | mode, c :: cs => do
    let (mode, tokens) ← step mode c
    return tokens ++ (← scanFrom mode cs)

/-- The tokens of a text. -/
def scan (cs : List Char) : Option (List Token) := scanFrom .between cs

end Token
end Callout.Json
