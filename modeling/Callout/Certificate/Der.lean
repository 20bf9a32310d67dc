/-!
Elements of a tagged binary form: a tag, a length and that many bytes, which may be elements again.
-/
namespace Callout.Der

/-- An element. -/
structure Element where
  tag : UInt8
  body : List UInt8
deriving DecidableEq, Repr, Inhabited

/-- Tags. -/
def integer : UInt8 := 0x02
def bitString : UInt8 := 0x03
def octetString : UInt8 := 0x04
def identifier : UInt8 := 0x06
def sequence : UInt8 := 0x30
/-- The tag of a part that is told by a number. -/
def part (n : UInt8) : UInt8 := 0xa0 + n

/-- The number that bytes spell, the most significant first. -/
def number (bytes : List UInt8) : Nat := bytes.foldl (fun n b => n * 256 + b.toNat) 0

/-- A length and the bytes after it. -/
def length? : List UInt8 → Option (Nat × List UInt8)
  | [] => none
  | first :: rest =>
    if first < 0x80 then some (first.toNat, rest)
    else
      let count := first.toNat - 0x80
      if count = 0 ∨ count > 8 ∨ rest.length < count then none
      else some (number (rest.take count), rest.drop count)

/-- The first element and the bytes after it. -/
def element? : List UInt8 → Option (Element × List UInt8)
  | [] => none
  | tag :: rest => do
    let (length, rest) ← length? rest
    if rest.length < length then none else some (⟨tag, rest.take length⟩, rest.drop length)

/-- The elements of bytes, at most as many as a bound says. -/
def elementsWithin : Nat → List UInt8 → Option (List Element)
  | _, [] => some []
  | 0, _ :: _ => none
  | bound + 1, bytes => do
    let (first, rest) ← element? bytes
    return first :: (← elementsWithin bound rest)

/-- The elements that bytes consist of. Each takes two bytes at least. -/
def elements? (bytes : List UInt8) : Option (List Element) := elementsWithin bytes.length bytes

namespace Element

/-- The elements in an element with a tag. -/
def within? (e : Element) (tag : UInt8) : Option (List Element) :=
  if e.tag = tag then elements? e.body else none

/-- The bytes of an element with a tag. -/
def body? (e : Element) (tag : UInt8) : Option (List UInt8) := if e.tag = tag then some e.body else none

/-- The number in an element that holds one. Negative numbers are read as if they were not. -/
def number? (e : Element) : Option Nat := (e.body? integer).bind fun b => if b = [] then none else some (number b)

/-- The bytes of a string of bits that fills them. -/
def bits? (e : Element) : Option (List UInt8) :=
  match e.body? bitString with
  | some (unused :: bytes) => if unused ≤ 7 then some bytes else none
  | _ => none

end Element

/-- The elements in the sequence that bytes begin with. -/
def sequence? (bytes : List UInt8) : Option (List Element) := do
  (← element? bytes).1.within? sequence

end Callout.Der
