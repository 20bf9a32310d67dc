import Callout.Credentials.Error

/-!
Certificates and keys, whatever reads them. What a configuration refers to is taken in two ways: as a bundle of
authorities to trust, and as the pair of a certificate and a key that make an identity. Main rules: a bundle holds one
certificate at least; a pair is one only if the key belongs to the certificate. What a text is, and what is made of it,
is told by a library, in which all of this is general.
-/
namespace Callout

/-- What reads certificates and keys. It says in its own words why it cannot. -/
class Credentials where
  /-- Certificates of authorities that are trusted. -/
  Authority : Type
  /-- Certificates of clients. -/
  Certificate : Type
  PublicKey : Type
  PrivateKey : Type
  /-- What a client says that it is. -/
  Identity : Type
  /-- The certificates in a bundle. -/
  authorities : ByteArray → Except String (List Authority)
  certificate : ByteArray → Except String Certificate
  publicKey : Certificate → Except String PublicKey
  privateKey : ByteArray → Except String PrivateKey
  /-- Whether a public key is the one that belongs to a private key. -/
  belongs : PublicKey → PrivateKey → Bool
  /-- A private key written anew, in the form that identities are made of. -/
  encode : PrivateKey → Except String ByteArray
  /-- The identity that a certificate and a key make. -/
  identity : ByteArray → ByteArray → Except String Identity

namespace Credentials
variable [Credentials]

/-- The authorities of a bundle. -/
def ofBundle (bundle : ByteArray) : Except Error (List Authority) := do
  let found ← (authorities bundle).mapError .invalidCertificate
  if found.isEmpty then .error .noCertificates else .ok found

/-- The identity of a pair. The key is read first, and the identity is made of the key written anew. -/
def ofPair (pair : ByteArray × ByteArray) : Except Error Identity := do
  let key ← (privateKey pair.2).mapError .unreadableKey
  let owner ← (certificate pair.1).mapError .unreadableCertificate
  let certified ← (publicKey owner).mapError .publicKey
  if !belongs certified key then .error .mismatch
  else
    let written ← (encode key).mapError .unwritableKey
    (identity pair.1 written).mapError .identity

end Credentials
end Callout
