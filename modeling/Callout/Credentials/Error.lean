/-!
Why certificates and keys cannot be used. What a library says of a text that it cannot read stands in its own words.
-/
namespace Callout.Credentials

/-- Why certificates and keys cannot be used. -/
inductive Error where
  /-- A bundle with something that is no certificate. -/
  | invalidCertificate (said : String)
  /-- A bundle without a certificate. -/
  | noCertificates
  | unreadableKey (said : String)
  | unreadableCertificate (said : String)
  /-- A certificate whose public key cannot be read. -/
  | publicKey (said : String)
  /-- The key does not belong to the certificate. -/
  | mismatch
  /-- A key that cannot be written again. -/
  | unwritableKey (said : String)
  /-- A pair that cannot serve as an identity. -/
  | identity (said : String)
deriving DecidableEq, Repr, Inhabited

/-- What a message says of the error. -/
def Error.message : Error → String
  | .invalidCertificate said => "invalid certificate: " ++ said
  | .noCertificates => "no PEM certificates found"
  | .unreadableKey said => "unreadable private key: " ++ said
  | .unreadableCertificate said => "unreadable certificate: " ++ said
  | .publicKey said => "certificate public key: " ++ said
  | .mismatch => "certificate and key do not match"
  | .unwritableKey said => "re-encoding key: " ++ said
  | .identity said => said

end Callout.Credentials
