/-!
Bytes in an address: a byte that may not stand there as it is is written as a percent sign and two digits.
-/
namespace Callout.Percent

/-- A hexadecimal digit. -/
def digit (n : Nat) : Char := if n < 10 then Char.ofNat ('0'.toNat + n) else Char.ofNat ('A'.toNat + (n - 10))

/-- The value of a hexadecimal digit. -/
def value? (c : Char) : Option Nat :=
  if '0' ≤ c ∧ c ≤ '9' then some (c.toNat - '0'.toNat)
  else if 'a' ≤ c ∧ c ≤ 'f' then some (c.toNat - 'a'.toNat + 10)
  else if 'A' ≤ c ∧ c ≤ 'F' then some (c.toNat - 'A'.toNat + 10)
  else none

/-- Characters that stand nowhere as they are: those that control, and those beyond ASCII. -/
def isControl (c : Char) : Bool := c < ' ' || c ≥ '\x7f'

/-- A character, with its bytes written out if it may not stand as it is. -/
def encodeChar (escapes : Char → Bool) (c : Char) : List Char :=
  if isControl c || escapes c then
    c.toString.toUTF8.toList.flatMap fun b => ['%', digit (b.toNat / 16), digit (b.toNat % 16)]
  else [c]

/-- A text in which certain characters may not stand as they are. -/
def encode (escapes : Char → Bool) (text : List Char) : List Char := text.flatMap (encodeChar escapes)

/-- The bytes that a text stands for. A percent sign without two digits stands for itself. -/
def decode : List Char → List UInt8
  | [] => []
  | '%' :: a :: b :: rest =>
    match value? a, value? b with
    | some x, some y => UInt8.ofNat (x * 16 + y) :: decode rest
    | _, _ => '%'.toNat.toUInt8 :: decode (a :: b :: rest)
  | c :: rest => c.toString.toUTF8.toList ++ decode rest

end Callout.Percent
