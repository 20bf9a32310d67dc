import Callout.Span.Basic
import Callout.Text.Blank

/-!
Reading a span from text such as `1h 30m` or `1.5s`: numbers with units, added up. Blanks may stand
anywhere. A number may have a fraction, of one digit at least, if its value comes to whole nanoseconds,
or to whole seconds from the hour on; the fraction of a nanosecond never does. All arithmetic stays
within 64 bits. Positions in errors count the bytes of the text.
-/
namespace Callout.Span

/-- Why a text is no span. -/
inductive ReadError where
  /-- There is nothing but blanks. -/
  | empty
  /-- A character that belongs to no number and no unit. -/
  | strayCharacter (position : Nat)
  /-- No digit where a number has to start. -/
  | numberExpected (position : Nat)
  /-- A number without a unit. -/
  | unitMissing (number : Nat)
  /-- A word that is no unit. -/
  | unitUnknown (word : String)
  /-- A value that is too large or needs less than a nanosecond. -/
  | outOfRange
deriving DecidableEq, Repr, Inhabited

/-- What a message says of the error. -/
def ReadError.message : ReadError → String
  | .empty => "value was empty"
  | .strayCharacter position => "invalid character at " ++ toString position
  | .numberExpected position => "expected number at " ++ toString position
  | .unitMissing number =>
    "time unit needed, for example " ++ toString number ++ "sec or " ++ toString number ++ "ms"
  | .unitUnknown word =>
    "unknown time unit \"" ++ word ++ "\", supported units: ns, us/µs, ms, sec, min, hours, days, " ++
      "weeks, months, years (and few variations)"
  | .outOfRange =>
    "number is too large or cannot be represented without a lack of precision " ++
      "(values below 1ns are not supported)"

/-- A unit of time. A month is 30.44 days and a year 365.25 days. -/
inductive TimeUnit where
  | nanosecond
  | microsecond
  | millisecond
  | second
  | minute
  | hour
  | day
  | week
  | month
  | year
deriving DecidableEq, Repr

namespace TimeUnit

/-- The words for each unit; case counts. -/
def words : List (TimeUnit × List String) :=
  [(.nanosecond, ["nanos", "nsec", "ns"]),
   (.microsecond, ["usec", "us", "µs"]),
   (.millisecond, ["millis", "msec", "ms"]),
   (.second, ["seconds", "second", "secs", "sec", "s"]),
   (.minute, ["minutes", "minute", "mins", "min", "m"]),
   (.hour, ["hours", "hour", "hrs", "hr", "h"]),
   (.day, ["days", "day", "d"]),
   (.week, ["weeks", "week", "wks", "wk", "w"]),
   (.month, ["months", "month", "M"]),
   (.year, ["years", "year", "yrs", "yr", "y"])]

/-- The unit that a word names. -/
def ofWord? (word : String) : Option TimeUnit :=
  (words.find? (fun entry => entry.2.contains word)).map (·.1)

/-- The seconds of a unit that is counted in seconds. -/
def seconds? : TimeUnit → Option Nat
  | .second => some 1
  | .minute => some 60
  | .hour => some 3600
  | .day => some 86400
  | .week => some 604800
  | .month => some 2630016
  | .year => some 31557600
  | _ => none

/-- The nanoseconds of a unit whose fractions are counted in nanoseconds. -/
def nanos? : TimeUnit → Option Nat
  | .microsecond => some 1000
  | .millisecond => some 1000000
  | .second => some 1000000000
  | .minute => some 60000000000
  | _ => none

end TimeUnit

/-- A number within 64 bits. -/
def fit (n : Nat) : Except ReadError Nat := if n < 2 ^ 64 then .ok n else .error .outOfRange

/-- The fraction of a number: so many units of one part in `parts`. -/
structure Fraction where
  numerator : Nat
  parts : Nat

/-- A fraction with one more digit. -/
def Fraction.push (f : Fraction) (digit : Nat) : Except ReadError Fraction := do
  return ⟨← fit (f.numerator * 10 + digit), ← fit (f.parts * 10)⟩

/-- Refuses a fraction without digits, at the position that its error shows. -/
def Fraction.started (f : Fraction) (shown : Nat) : Except ReadError Unit :=
  if f.parts = 1 then .error (.strayCharacter shown) else .ok ()

/-- A fraction of so many nanoseconds or seconds, if it comes to a whole number of them. -/
def Fraction.of (f : Fraction) (n : Nat) : Except ReadError Nat := do
  let product ← fit (f.numerator * n)
  if product % f.parts = 0 then .ok (product / f.parts) else .error .outOfRange

/-- A total with more seconds and nanoseconds. -/
def plus (total : Span) (seconds nanos : Nat) : Except ReadError Span := do
  let small ← fit (total.rest + nanos)
  let large ← fit (total.seconds + (seconds + small / perSecond))
  return ⟨large * perSecond + small % perSecond⟩

/-- A total with a number of units, given the word for the unit. -/
def addUnits (total : Span) (number : Nat) (fraction : Option Fraction) (word : List Char) :
    Except ReadError Span := do
  match TimeUnit.ofWord? (String.ofList word) with
  | none => if word = [] then .error (.unitMissing number) else .error (.unitUnknown (String.ofList word))
  | some unit =>
    let total ←
      match unit.seconds?, unit.nanos? with
      | some n, _ => plus total (← fit (number * n)) 0
      | none, some n => plus total 0 (← fit (number * n))
      | none, none => plus total 0 number
    match fraction with
    | none => return total
    | some f =>
      match unit.nanos?, unit.seconds? with
      | some n, _ => plus total 0 (← f.of n)
      | none, some n => plus total (← f.of n) 0
      | none, none => .error .outOfRange

/-- Whether a character may stand in the word for a unit. -/
def isUnitChar (c : Char) : Bool := c.isAlpha || c = 'µ'

/-- The worth of a digit. -/
def digit (c : Char) : Nat := c.toNat - '0'.toNat

/-- What is under way while a span is read. -/
inductive Mode where
  /-- Before a number; the position where it was first awaited. -/
  | awaiting (since : Nat)
  /-- In the whole part of a number. -/
  | whole (number : Nat)
  /-- In the fraction of a number; the position that an error there would show. -/
  | fraction (number : Nat) (f : Fraction) (shown : Nat)
  /-- In the word for a unit, its characters last first. -/
  | unit (number : Nat) (f : Option Fraction) (word : List Char)

/-- One character more, at a position: the mode and the total after it. -/
def step (mode : Mode) (total : Span) (position : Nat) (c : Char) : Except ReadError (Mode × Span) := do
  let next := position + c.utf8Size
  match mode with
  | .awaiting since =>
    if c.isDigit then return (.whole (digit c), total)
    else if Text.isBlank c then return (.awaiting since, total)
    else .error (.numberExpected since)
  | .whole number =>
    if c.isDigit then return (.whole (← fit (number * 10 + digit c)), total)
    else if Text.isBlank c then return (.whole number, total)
    else if isUnitChar c then return (.unit number none [c], total)
    else if c = '.' then return (.fraction number ⟨0, 1⟩ position, total)
    else .error (.strayCharacter position)
  | .fraction number f shown =>
    if c.isDigit then return (.fraction number (← f.push (digit c)) next, total)
    else if Text.isBlank c then return (.fraction number f next, total)
    else if isUnitChar c then
      f.started shown
      return (.unit number (some f) [c], total)
    else .error (.strayCharacter shown)
  | .unit number f word =>
    if c.isDigit then return (.whole (digit c), ← addUnits total number f word.reverse)
    else if Text.isBlank c then return (.awaiting next, ← addUnits total number f word.reverse)
    else if isUnitChar c then return (.unit number f (c :: word), total)
    else .error (.strayCharacter position)

/-- The total when the text is over. -/
def finish (mode : Mode) (total : Span) : Except ReadError Span :=
  match mode with
  | .awaiting _ => .ok total
  | .whole number => addUnits total number none []
  | .fraction number f shown => do
    f.started shown
    addUnits total number (some f) []
  | .unit number f word => addUnits total number f word.reverse

/-- The total of a text from a position on. -/
def readFrom (mode : Mode) (total : Span) (position : Nat) : List Char → Except ReadError Span
  | [] => finish mode total
  | c :: cs => do
    let (mode, total) ← step mode total position c
    readFrom mode total (position + c.utf8Size) cs

/-- The span that a text without blanks at its ends says; a lone zero needs no unit. -/
def read (text : String) : Except ReadError Span :=
  if text = "0" then .ok zero
  else if Text.isBlankText text then .error .empty
  else readFrom (.awaiting 0) zero 0 text.toList

end Callout.Span
