import Callout.Decimal.Shortest
import Callout.Json.Basic

/-!
The text of a value: no blanks, fields in key order, quotes, backslashes and control characters
escaped, everything else as it is.
-/
namespace Callout.Json

/-- A digit of a control character's escape. -/
private def hexDigit (n : Nat) : Char := (Nat.toDigits 16 n).headD '0'

/-- A character as it stands in a text. -/
def escapeChar (c : Char) : List Char :=
  match c with
  | '"' => ['\\', '"']
  | '\\' => ['\\', '\\']
  | '\n' => ['\\', 'n']
  | '\r' => ['\\', 'r']
  | '\t' => ['\\', 't']
  | '\x08' => ['\\', 'b']
  | '\x0c' => ['\\', 'f']
  | c =>
    if c.toNat < 0x20 then ['\\', 'u', '0', '0', hexDigit (c.toNat / 16), hexDigit (c.toNat % 16)]
    else [c]

/-- A text in quotes. -/
def writeText (s : String) : List Char := '"' :: (s.toList.flatMap escapeChar ++ ['"'])

/-- A number that need not be whole: its shortest decimal, with an exponent for large and small ones.
Infinite numbers and not-a-number have no form and are written as null. -/
def writeReal (x : Float) : List Char :=
  if x.isNaN || x.isInf then "null".toList
  else
    let s := Decimal.shortest x
    let sign := if Decimal.isNegative x then ['-'] else []
    let magnitude := s.exponent + Decimal.digitCount s.digits
    if -5 < magnitude ∧ magnitude ≤ 16 then
      let body := s.positional.toList
      sign ++ body ++ (if body.contains '.' then [] else ['.', '0'])
    else sign ++ Nat.toDigits 10 s.digits ++ 'e' :: (toString s.exponent).toList

mutual

/-- The text of a value. -/
def write : Json → List Char
  | .null => "null".toList
  | .bool true => "true".toList
  | .bool false => "false".toList
  | .int n => (toString n).toList
  | .real x => writeReal x
  | .text s => writeText s
  | .list [] => ['[', ']']
  | .list (item :: items) => '[' :: (write item ++ writeItems items)
  | .object [] => ['\x7b', '\x7d']
  | .object ((key, value) :: fields) =>
    '\x7b' :: (writeText key ++ ':' :: (write value ++ writeFields fields))

/-- The items after the first, and the end of the list. -/
def writeItems : List Json → List Char
  | [] => [']']
  | item :: items => ',' :: (write item ++ writeItems items)

/-- The fields after the first, and the end of the object. -/
def writeFields : List (String × Json) → List Char
  | [] => ['\x7d']
  | (key, value) :: fields => ',' :: (writeText key ++ ':' :: (write value ++ writeFields fields))

end

/-- The text of a value as one string. -/
def compact (j : Json) : String := String.ofList j.write

end Callout.Json
