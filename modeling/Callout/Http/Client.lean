import Callout.Credentials
import Callout.Secret

/-!
How a client trusts an endpoint and says who it is. What settings refer to has to be there and to be sound;
nothing less is taken in its place.
-/
namespace Callout.Http
variable [Credentials]

/-- Versions of the protocol that protects a connection. -/
inductive ProtocolVersion where
  | v10 | v11 | v12 | v13
deriving DecidableEq, Repr, Inhabited

/-- Whom a client trusts. -/
inductive Trust where
  /-- The authorities that the system trusts. -/
  | system
  /-- These authorities alone. -/
  | only (authorities : List Credentials.Authority)

/-- How a client trusts and identifies itself. -/
structure Client where
  trust : Trust := .system
  identity? : Option Credentials.Identity := none
  /-- Whether endpoints are verified. -/
  verifies : Bool := true
  /-- The oldest version of the protocol that is spoken. -/
  oldest : ProtocolVersion := .v12

/-- The authorities that a secret names. -/
def trustOf (space : String) : Option AuthoritiesSource → ExceptT Misconfiguration Query Trust
  | none => return .system
  | some source => do
    let bytes ← ExceptT.mk (Secret.value space source.name source.key)
    match Credentials.ofBundle bytes with
    | .ok authorities => return .only authorities
    | .error cause => throw (.authorities space source.name cause)

/-- The identity in a secret. -/
def identityIn (space : String) (source : ClientSource) (data : SecretData) :
    Except Misconfiguration Credentials.Identity :=
  match Secret.find? data source.certificateKey, Secret.find? data source.keyKey with
  | some certificate, some key =>
    (Credentials.ofPair (certificate, key)).mapError (.clientPair space source.name ·)
  | _, _ => .error (.clientSecretIncomplete space source.name source.certificateKey source.keyKey)

/-- The identity that a secret holds. -/
def identityOf (space : String) :
    Option ClientSource → ExceptT Misconfiguration Query (Option Credentials.Identity)
  | none => return none
  | some source => ExceptT.mk <|
    .ask space source.name fun answer => .done <|
      match answer with
      | .error fault => .error (.clientSecretUnread space source.name fault)
      | .ok data => (identityIn space source data).map some

/-- The client that settings describe. -/
def clientOf (space : String) (settings? : Option TlsSettings) : ExceptT Misconfiguration Query Client := do
  let settings := settings?.getD {}
  let trust ← trustOf space settings.authorities?
  let identity? ← identityOf space settings.client?
  return { trust, identity?, verifies := !settings.skipVerify }

end Callout.Http
