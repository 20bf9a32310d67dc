import Callout.Url.Domain
import Callout.Url.Error
import Callout.Url.Percent

/-!
Hosts: a name, or a number of one of two sizes. A name whose last label is a number is an address of four
bytes, or none at all; an address of sixteen bytes stands in brackets.
-/
namespace Callout

/-- A host. -/
inductive Host where
  /-- A domain name, or any name where the scheme does not say what a host is. -/
  | name (text : String)
  /-- An address of 32 bits. -/
  | ipv4 (number : Nat)
  /-- An address of eight pieces of 16 bits. -/
  | ipv6 (pieces : List Nat)
deriving DecidableEq, Repr, Inhabited

namespace Host

/-! ## Numbers of 32 bits -/

/-- The number that digits spell in a base, if all are digits of the base. -/
def number? (base : Nat) (digits : List Char) : Option Nat :=
  digits.foldlM (fun n c => do
    let d ← Percent.value? c
    if d < base then some (n * base + d) else none) 0

/-- The number in a part of an address: in base 16 after `0x`, in base 8 after another zero. -/
def part? (part : String) : Option Nat :=
  match part.toList with
  | [] => none
  | '0' :: 'x' :: digits | '0' :: 'X' :: digits => number? 16 digits
  | '0' :: d :: digits => number? 8 (d :: digits)
  | digits => number? 10 digits

/-- The parts of a text between points, without an empty one at the end. -/
def parts (text : String) : List String :=
  let parts := (text.toList.splitOn '.').map String.ofList
  if parts.getLast? = some "" then parts.dropLast else parts

/-- Whether the last part of a name is a number. -/
def endsInNumber (text : String) : Bool :=
  match (parts text).getLast? with
  | none => false
  | some last => (last ≠ "" && last.toList.all Char.isDigit) || (part? last).isSome

/-- The address of up to four numbers, the last of which fills what the others leave. -/
def address? : List Nat → Nat → Option Nat
  | [], _ => none
  | [last], place => if last < 256 ^ place then some last else none
  | first :: rest, place =>
    if first > 255 then none else (address? rest (place - 1)).map (first * 256 ^ (place - 1) + ·)

/-- The address of 32 bits that a text is. -/
def ipv4? (text : String) : Option Nat :=
  if (parts text).length > 4 then none else do address? (← (parts text).mapM part?) 4

/-- An address of 32 bits as text. -/
def ipv4Text (n : Nat) : String :=
  ".".intercalate ([n / 16777216, n / 65536 % 256, n / 256 % 256, n % 256].map toString)

/-! ## Numbers of 128 bits -/

/-- A piece of an address of 128 bits. -/
def piece? (text : String) : Option Nat :=
  if text = "" ∨ text.length > 4 then none else number? 16 text.toList

/-- The two pieces that four decimal numbers are. -/
def quad? (text : String) : Option (List Nat) := do
  let numbers ← (text.toList.splitOn '.').mapM fun p =>
    if p = [] ∨ (p.length > 1 ∧ p.head? = some '0') then none else (number? 10 p).filter (· ≤ 255)
  match numbers with
  | [a, b, c, d] => some [a * 256 + b, c * 256 + d]
  | _ => none

/-- The pieces of a list with colons between; the last may be four decimal numbers. -/
def pieces? (isLast : Bool) : List String → Option (List Nat)
  | [] => some []
  | [last] => (piece? last).map ([·]) <|> (if isLast then quad? last else none)
  | first :: rest => do return (← piece? first) :: (← pieces? isLast rest)

/-- The pieces of a text with colons between, none if it is empty. -/
def side? (isLast : Bool) (text : List Char) : Option (List Nat) :=
  if text = [] then some [] else pieces? isLast ((text.splitOn ':').map String.ofList)

/-- What is before the first two colons in a row, and what is after them. -/
def sides : List Char → List Char × Option (List Char)
  | ':' :: ':' :: rest => ([], some rest)
  | [] => ([], none)
  | c :: rest => ((c :: (sides rest).1), (sides rest).2)

/-- The address of 128 bits that a text is. Two colons in a row stand for zeros, once. -/
def ipv6? (text : String) : Option (List Nat) :=
  match sides text.toList with
  | (whole, none) => (side? true whole).filter (·.length = 8)
  | (left, some right) => do
    let left ← side? false left
    let right ← side? true right
    let missing := 8 - (left.length + right.length)
    if missing = 0 then none else some (left ++ List.replicate missing 0 ++ right)

/-- How many zeros a list begins with. -/
def zeros (pieces : List Nat) : Nat := (pieces.takeWhile (· = 0)).length

/-- The place and length of the first longest run of zeros that is longer than one. -/
def longestZeros (pieces : List Nat) : Option (Nat × Nat) :=
  (List.range pieces.length).foldl (fun best? place =>
    let found := zeros (pieces.drop place)
    match best? with
    | some (_, length) => if length < found then some (place, found) else best?
    | none => if 1 < found then some (place, found) else none) none

/-- Pieces with colons between. -/
def piecesText (pieces : List Nat) : String :=
  ":".intercalate (pieces.map fun p => String.ofList (Nat.toDigits 16 p))

/-- An address of 128 bits as text. -/
def ipv6Text (pieces : List Nat) : String :=
  match longestZeros pieces with
  | none => piecesText pieces
  | some (place, length) =>
    piecesText (pieces.take place) ++ "::" ++ piecesText (pieces.drop (place + length))

/-! ## Hosts -/

/-- A host as an address shows it. -/
def toText : Host → String
  | .name text => text
  | .ipv4 number => ipv4Text number
  | .ipv6 pieces => "[" ++ ipv6Text pieces ++ "]"

/-- A host as it is looked up. -/
def bare : Host → String
  | .ipv6 pieces => ipv6Text pieces
  | host => host.toText

/-- A text in brackets. -/
def bracketed? (text : List Char) : Option (Except Url.Error Host) :=
  match text with
  | '[' :: rest =>
    some <|
      match rest.getLast?, ipv6? (String.ofList rest.dropLast) with
      | some ']', some pieces => .ok (.ipv6 pieces)
      | _, _ => .error .invalidIpv6
  | _ => none

/-- The host of an address whose scheme says what a host is. -/
def parse (text : List Char) : Except Url.Error Host :=
  (bracketed? text).getD <|
    match (String.fromUTF8? (ByteArray.mk (Percent.decode text).toArray)).bind Domain.ofText? with
    | none => .error .invalidDomain
    | some "" => .error .emptyHost
    | some domain =>
      if endsInNumber domain then
        match ipv4? domain with
        | some n => .ok (.ipv4 n)
        | none => .error .invalidIpv4
      else .ok (.name domain)

/-- Characters that no host holds. -/
def isForbidden (c : Char) : Bool :=
  ['\x00', '\t', '\n', '\r', ' ', '#', '/', ':', '<', '>', '?', '@', '[', '\\', ']', '^', '|'].contains c

/-- The host of an address whose scheme does not say what a host is. -/
def parseOpaque (text : List Char) : Except Url.Error Host :=
  (bracketed? text).getD <|
    if text.any isForbidden then .error .invalidHostCharacter
    else .ok (.name (String.ofList (Percent.encode (fun _ => false) text)))

end Host
end Callout
