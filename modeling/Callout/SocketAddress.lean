import Callout.Url.Host

/-!
Addresses at which a program listens: an address of the machine in numbers, and a port. An address of 128 bits stands
in brackets and may name a scope.
-/
namespace Callout

/-- An address at which a program listens. -/
structure SocketAddress where
  /-- The pieces of 16 bits: two or eight. -/
  pieces : List Nat
  port : UInt16
deriving DecidableEq, Repr, Inhabited

namespace SocketAddress

/-- The natural number below a bound that a text of digits says. -/
def number? (bound : Nat) (text : String) : Option Nat :=
  if text ≠ "" ∧ text.toList.all Char.isDigit then text.toNat?.filter (· < bound) else none

/-- The parts before and after a mark that stands once. -/
def halves? (mark text : String) : Option (String × String) :=
  match text.splitOn mark with
  | [left, right] => some (left, right)
  | _ => none

/-- An address of 128 bits, with or without scope. -/
def scoped? (text : String) : Option (List Nat) :=
  match text.splitOn "%" with
  | [address] => Host.ipv6? address
  | [address, scope] => do
    let _ ← number? (2 ^ 32) scope
    Host.ipv6? address
  | _ => none

/-- The address that a text says. -/
def read (text : String) : Option SocketAddress := do
  let (host, port) ←
    if text.startsWith "[" then do
      let (host, port) ← halves? "]:" (String.ofList (text.toList.drop 1))
      pure (← scoped? host, port)
    else do
      let (host, port) ← halves? ":" text
      pure (← Host.quad? host, port)
  return ⟨host, UInt16.ofNat (← number? (2 ^ 16) port)⟩

/-- Whether an address is one of the machine itself, or stands for all that it has. -/
def isLocal (a : SocketAddress) : Bool :=
  match a.pieces with
  | [high, low] => high / 256 = 127 || (high = 0 && low = 0)
  | pieces => pieces.dropLast.all (· = 0) && pieces.getLast?.all (· ≤ 1)

end SocketAddress
end Callout
