import Callout.Power
import Callout.Text.Blank

/-!
Points in time, in Coordinated Universal Time and to the nanosecond, and their text of year, month, day,
hour, minute, second and offset. Days are counted in the Gregorian calendar, also before it was
introduced. A sixtieth second is kept as the second before it with a whole second of nanoseconds more.
-/
namespace Callout

/-- A point in time. -/
structure Timestamp where
  /-- The day, counted from the first of January 1970. -/
  day : Int
  /-- The second of the day. -/
  second : Nat
  /-- The nanosecond of the second; from a thousand million on it is in a leap second. -/
  nano : Nat
deriving DecidableEq, Repr, Inhabited, BEq

namespace Timestamp

/-! ## The calendar -/

/-- A date. -/
structure Date where
  year : Int
  month : Nat
  day : Nat
deriving DecidableEq, Repr

/-- Whether a year has a twenty-ninth of February. -/
def isLeap (year : Int) : Bool := (year % 4 = 0 && year % 100 ≠ 0) || year % 400 = 0

/-- The number of days of a month. -/
def monthLength (year : Int) (month : Nat) : Nat :=
  match month with
  | 2 => if isLeap year then 29 else 28
  | 4 | 6 | 9 | 11 => 30
  | _ => 31

/-- The years that dates may have. -/
def yearInRange (year : Int) : Bool := -262143 ≤ year && year ≤ 262142

/-- Whether there is such a date. -/
def Date.isValid (d : Date) : Bool :=
  yearInRange d.year && 1 ≤ d.month && d.month ≤ 12 && 1 ≤ d.day && d.day ≤ monthLength d.year d.month

/-- The days from the first of January 1970 to a date. Years are counted from March, so that the leap
day comes last, and in eras of 400 years. -/
def Date.toDays (d : Date) : Int :=
  let y := if d.month ≤ 2 then d.year - 1 else d.year
  let era := y / 400
  let yearOfEra := y - era * 400
  let monthFromMarch : Int := (d.month + 9) % 12
  let dayOfYear := (153 * monthFromMarch + 2) / 5 + d.day - 1
  let dayOfEra := yearOfEra * 365 + yearOfEra / 4 - yearOfEra / 100 + dayOfYear
  era * 146097 + dayOfEra - 719468

/-- The date that is a number of days after the first of January 1970. -/
def Date.ofDays (days : Int) : Date :=
  let z := days + 719468
  let era := z / 146097
  let dayOfEra := z - era * 146097
  let yearOfEra := (dayOfEra - dayOfEra / 1460 + dayOfEra / 36524 - dayOfEra / 146096) / 365
  let dayOfYear := dayOfEra - (365 * yearOfEra + yearOfEra / 4 - yearOfEra / 100)
  let monthFromMarch := (5 * dayOfYear + 2) / 153
  let day := dayOfYear - (153 * monthFromMarch + 2) / 5 + 1
  let month := if monthFromMarch < 10 then monthFromMarch + 3 else monthFromMarch - 9
  let year := yearOfEra + era * 400 + (if month ≤ 2 then 1 else 0)
  ⟨year, month.toNat, day.toNat⟩

/-! ## Writing -/

/-- A number with zeros in front up to a width. -/
def padded (width n : Nat) : String :=
  let ds := Nat.toDigits 10 n
  String.ofList (List.replicate (width - ds.length) '0' ++ ds)

/-- The text of a year: four digits, or a sign and at least four when it is not in 0 to 9999. -/
def yearText (year : Int) : String :=
  if 0 ≤ year ∧ year ≤ 9999 then padded 4 year.toNat
  else (if year < 0 then "-" else "+") ++ padded 4 year.natAbs

/-- The text of the nanoseconds: nothing, or a point and three, six or nine digits as needed. -/
def fractionText (nano : Nat) : String :=
  if nano = 0 then ""
  else if nano % 1000000 = 0 then "." ++ padded 3 (nano / 1000000)
  else if nano % 1000 = 0 then "." ++ padded 6 (nano / 1000)
  else "." ++ padded 9 nano

/-- The text of a point in time. -/
def toText (t : Timestamp) : String :=
  let d := Date.ofDays t.day
  let second := t.second % 60 + t.nano / 1000000000
  yearText d.year ++ "-" ++ padded 2 d.month ++ "-" ++ padded 2 d.day ++ "T" ++
    padded 2 (t.second / 3600) ++ ":" ++ padded 2 (t.second / 60 % 60) ++ ":" ++ padded 2 second ++
    fractionText (t.nano % 1000000000) ++ "Z"

/-! ## Reading

A text is read leniently: blanks may stand before each number and around the separators, a blank may
take the place of the letter between date and time, digits beyond nanoseconds are dropped, and the offset
may be the letter Z, the word UTC or hours and minutes. -/

/-- A text without the blanks at its start. -/
def skipBlanks (cs : List Char) : List Char := cs.dropWhile Text.isBlank

/-- The worth of decimal digits. -/
def worth (ds : List Char) : Nat := ds.foldl (fun n d => n * 10 + (d.toNat - '0'.toNat)) 0

/-- A number of at least one digit and at most `width`, after blanks. -/
def readNumber (width : Nat) (cs : List Char) : Option (Nat × List Char) :=
  let cs := skipBlanks cs
  let ds := (cs.take width).takeWhile Char.isDigit
  if ds = [] then none else some (worth ds, cs.drop ds.length)

/-- A year: four digits at most, or a sign and any number of digits. -/
def readYear (cs : List Char) : Option (Int × List Char) :=
  let cs := skipBlanks cs
  let signed (rest : List Char) : Option (Nat × List Char) :=
    let ds := rest.takeWhile Char.isDigit
    if ds = [] then none else some (worth ds, rest.drop ds.length)
  match cs with
  | '-' :: rest => (signed rest).map fun (n, rest) => (-(n : Int), rest)
  | '+' :: rest => (signed rest).map fun (n, rest) => ((n : Int), rest)
  | cs => (readNumber 4 cs).map fun (n, rest) => ((n : Int), rest)

/-- A separator, after blanks. -/
def readMark (mark : Char) (cs : List Char) : Option (List Char) :=
  match skipBlanks cs with
  | c :: rest => if c = mark then some rest else none
  | [] => none

/-- The letter or the blank between date and time. -/
def readJoint : List Char → Option (List Char)
  | 'T' :: rest | 't' :: rest | ' ' :: rest => some rest
  | _ => none

/-- The fraction of a second in nanoseconds, if there is one. -/
def readFraction (cs : List Char) : Option (Nat × List Char) :=
  match cs with
  | '.' :: rest =>
    let ds := rest.takeWhile Char.isDigit
    if ds = [] then none
    else
      let kept := ds.take 9
      some (worth kept * 10 ^ (9 - kept.length), rest.drop ds.length)
  | cs => some (0, cs)

/-- The minutes of an offset, two digits after any colons and blanks. -/
def readOffsetMinutes (cs : List Char) : Option (Nat × List Char) :=
  match cs.dropWhile (fun c => c = ':' || Text.isBlank c) with
  | a :: b :: rest =>
    if a.isDigit ∧ b.isDigit ∧ a ≤ '5' then some (worth [a, b], rest) else none
  | _ => none

/-- The hours and minutes of an offset, in seconds. -/
def readShift (cs : List Char) : Option (Int × List Char) := do
  match cs with
  | a :: b :: rest =>
    if a.isDigit ∧ b.isDigit then
      let (minutes, rest) ← readOffsetMinutes rest
      return (worth [a, b] * 3600 + minutes * 60, rest)
    else none
  | _ => none

/-- An offset in seconds. -/
def readOffset (cs : List Char) : Option (Int × List Char) :=
  match cs with
  | 'Z' :: rest | 'z' :: rest => some (0, rest)
  | a :: b :: c :: rest =>
    if a.toUpper = 'U' ∧ b.toUpper = 'T' ∧ c.toUpper = 'C' then some (0, rest)
    else if a = '+' then readShift (b :: c :: rest)
    else if a = '-' ∨ a = '−' then (readShift (b :: c :: rest)).map fun (shift, rest) => (-shift, rest)
    else none
  | _ => none

/-- The point in time of a date, a time of day and an offset from Coordinated Universal Time. -/
def ofParts (date : Date) (hour minute second nano : Nat) (offset : Int) : Option Timestamp :=
  if date.isValid ∧ hour < 24 ∧ minute < 60 ∧ second ≤ 60 ∧ offset.natAbs < 86400 then
    let leap : Nat := if second = 60 then 1 else 0
    let clock : Int := (hour * 3600 + minute * 60 + (second - leap) : Nat)
    let shifted := clock - offset
    let day := date.toDays + shifted / 86400
    if yearInRange (Date.ofDays day).year then
      some ⟨day, (shifted % 86400).toNat, nano + leap * 1000000000⟩
    else none
  else none

/-- The point in time that a text says. -/
def parse (s : String) : Option Timestamp := do
  let (year, cs) ← readYear s.toList
  let cs ← readMark '-' cs
  let (month, cs) ← readNumber 2 cs
  let cs ← readMark '-' cs
  let (day, cs) ← readNumber 2 cs
  let cs ← readJoint cs
  let (hour, cs) ← readNumber 2 cs
  let cs ← readMark ':' cs
  let (minute, cs) ← readNumber 2 cs
  let cs ← readMark ':' cs
  let (second, cs) ← readNumber 2 cs
  let (nano, cs) ← readFraction cs
  let (offset, cs) ← readOffset (skipBlanks cs)
  if Text.isBlankText (String.ofList cs) then ofParts ⟨year, month, day⟩ hour minute second nano offset
  else none

end Timestamp
end Callout
