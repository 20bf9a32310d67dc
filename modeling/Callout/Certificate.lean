import Callout.Certificate.Armor
import Callout.Certificate.PublicKey
import Callout.Credentials

/-!
A reader of certificates and keys for a program that runs, as far as they decide whether a configuration can be used.
It knows the usual kinds of keys. A certificate is looked at for its form and its public key, and a private key for
the public key that belongs to it.
-/
namespace Callout

/-- A certificate: the public key that it is about, if that can be read. -/
structure Certificate where
  key? : Option PublicKey
deriving DecidableEq, Repr, Inhabited

/-- A private key: the public key that belongs to it, and the text that it stands in. -/
structure PrivateKey where
  counterpart : PublicKey
  text : ByteArray
deriving Inhabited

/-- A certificate with its private key, and the certificates that vouch for it. -/
structure Identity where
  key : PublicKey
  chain : List Certificate
deriving DecidableEq, Repr, Inhabited

namespace Certificate
open Der

/-- The certificate that bytes begin with. -/
def ofBytes? (bytes : List UInt8) : Option Certificate := do
  match ← sequence? bytes with
  | [body, algorithm, signature] =>
    let _ ← PublicKey.kind? algorithm
    let _ ← signature.bits?
    let parts ← body.within? sequence
    let parts := if parts.head?.any (·.tag = part 0) then parts.tail else parts
    match parts with
    | serial :: algorithm :: issuer :: validity :: subject :: key :: _ =>
      let _ ← serial.number?
      let _ ← PublicKey.kind? algorithm
      let _ ← issuer.within? sequence
      let _ ← validity.within? sequence
      let _ ← subject.within? sequence
      match ← key.within? sequence with
      | [kind, bits] =>
        let (kind, parameters) ← PublicKey.kind? kind
        return ⟨PublicKey.ofParts? kind parameters (← bits.bits?)⟩
      | _ => none
    | _ => none
  | _ => none

/-- The certificates of a bundle. All of it has to be read. -/
def bundle (bytes : ByteArray) : Except String (List Certificate) :=
  let reading := Armor.bundle bytes
  let found := (reading.sections.filter (·.label = "CERTIFICATE")).mapM fun s => s.content?.bind ofBytes?
  match reading.isWhole, found with
  | true, some found => .ok found
  | _, _ => .error "the section holds no certificate"

/-- Labels of sections that hold a certificate. -/
def labels : List String := ["CERTIFICATE", "X509 CERTIFICATE", "TRUSTED CERTIFICATE"]

/-- The certificates of a text, the one of the owner first. -/
def chainOf (bytes : ByteArray) : Except String (Certificate × List (Option Certificate)) :=
  let reading := Armor.sections bytes
  match (reading.sections.filter (labels.contains ·.label)).map (·.content?.bind ofBytes?) with
  | [] | none :: _ => .error "no section holds a certificate"
  | some owner :: rest => .ok (owner, rest ++ if reading.isWhole then [] else [none])

end Certificate

/-- The private key in a text: the first section that holds one. -/
def PrivateKey.ofBytes (bytes : ByteArray) : Except String PrivateKey :=
  match (Armor.sections bytes).sections.findSome? fun s => s.content?.bind (PublicKey.ofSection? s.label) with
  | some key => .ok ⟨key, bytes⟩
  | none => .error "no section holds a key"

/-- The identity that a certificate and a key make. -/
def Identity.ofPair (certificate key : ByteArray) : Except String Identity := do
  let (owner, rest) ← Certificate.chainOf certificate
  let key ← PrivateKey.ofBytes key
  match rest.mapM id with
  | some rest => .ok ⟨key.counterpart, owner :: rest⟩
  | none => .error "builder error"

instance : Credentials where
  Authority := Certificate
  Certificate := Certificate
  PublicKey := PublicKey
  PrivateKey := PrivateKey
  Identity := Identity
  authorities := Certificate.bundle
  certificate bytes := (Certificate.chainOf bytes).map (·.1)
  publicKey certificate := certificate.key?.elim (.error "not of a known kind") .ok
  privateKey := PrivateKey.ofBytes
  belongs certified key := certified = key.counterpart
  encode key := .ok key.text
  identity := Identity.ofPair

end Callout
