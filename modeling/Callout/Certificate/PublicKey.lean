import Callout.Certificate.Der

/-!
Public keys: the one that a certificate is about, and the one that belongs to a private key. Two keys are the
same when their numbers, or their curve and point, are.
-/
namespace Callout

/-- A public key. -/
inductive PublicKey where
  /-- A modulus and an exponent. -/
  | rsa (modulus exponent : Nat)
  /-- A point on a named curve. -/
  | curve (name point : List UInt8)
  /-- A key of another kind. -/
  | other (kind : List UInt8) (content : List UInt8)
deriving DecidableEq, Repr, Inhabited

namespace PublicKey
open Der

/-- The kind of keys that are a modulus and an exponent: 1.2.840.113549.1.1.1. -/
def rsaKind : List UInt8 := [0x2a, 0x86, 0x48, 0x86, 0xf7, 0x0d, 0x01, 0x01, 0x01]

/-- The kind of keys that are points on a curve: 1.2.840.10045.2.1. -/
def curveKind : List UInt8 := [0x2a, 0x86, 0x48, 0xce, 0x3d, 0x02, 0x01]

/-- The key of a certificate, from its kind, the parameters of the kind and its bits. -/
def ofParts? (kind : List UInt8) (parameters : List Element) (bits : List UInt8) : Option PublicKey :=
  if kind = rsaKind then do
    match ← sequence? bits with
    | modulus :: exponent :: _ => return .rsa (← modulus.number?) (← exponent.number?)
    | _ => none
  else if kind = curveKind then do
    match parameters with
    | name :: _ => return .curve (← name.body? identifier) bits
    | [] => none
  else some (.other kind bits)

/-- The kind of a key and its parameters. -/
def kind? (e : Element) : Option (List UInt8 × List Element) := do
  match ← e.within? sequence with
  | kind :: parameters => return (← kind.body? identifier, parameters)
  | [] => none

/-- The public key of a private key that is a list of numbers: a version, the modulus, the exponent and the
six numbers that only its owner knows. -/
def ofRsa? (content : List UInt8) : Option PublicKey := do
  match ← (← sequence? content).mapM Element.number? with
  | _ :: modulus :: exponent :: owned => if owned.length ≥ 6 then some (.rsa modulus exponent) else none
  | _ => none

/-- The public key of a private key on a curve. The curve stands in the key unless it is known. -/
def ofCurve? (known? : Option (List UInt8)) (content : List UInt8) : Option PublicKey := do
  match ← sequence? content with
  | version :: secret :: rest =>
    let 1 ← version.number? | none
    let _ ← secret.body? octetString
    let within (n : UInt8) : Option Element := do (← (← rest.find? (·.tag = part n)).within? (part n)).head?
    let name ← known? <|> (within 0).bind (·.body? identifier)
    return .curve name (← (← within 1).bits?)
  | _ => none

/-- The public key of a private key that says its kind. -/
def ofPrivate? (content : List UInt8) : Option PublicKey := do
  match ← sequence? content with
  | version :: kind :: key :: _ =>
    let _ ← version.number?
    let (kind, parameters) ← kind? kind
    let key ← key.body? octetString
    if kind = rsaKind then ofRsa? key
    else if kind = curveKind then ofCurve? (parameters.head?.bind (·.body? identifier)) key
    else none
  | _ => none

/-- The public key of the private key in a section. -/
def ofSection? (label : String) (content : List UInt8) : Option PublicKey :=
  if label = "PRIVATE KEY" then ofPrivate? content
  else if label = "RSA PRIVATE KEY" then ofRsa? content
  else if label = "EC PRIVATE KEY" then ofCurve? none content
  else none

end PublicKey
end Callout
