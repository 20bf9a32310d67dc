import Callout.Proofs.Execution
import Callout.Proofs.HeaderValues

/-!
Whom a client trusts and who it says it is, whatever reads its certificates and keys. A bundle counts only if it can be
read and is not empty, and a pair only if the key belongs to the certificate (`Credentials.ofBundle_eq_ok_iff`,
`Credentials.ofPair_eq_ok_iff`). What settings refer to is taken as it is in the store, or it cannot be used, and then
there is no client at all: nothing else takes its place (`client_fails_closed`).
-/
namespace Callout

/-! ## Bundles and pairs -/

namespace Credentials
variable [Credentials]

/-- What a bundle of these authorities is: a text that can be read and holds just these, one at least. -/
structure Bundles (bytes : ByteArray) (found : List Authority) : Prop where
  read : authorities bytes = .ok found
  inhabited : found ≠ []

/-- A bundle is all authorities that are in it, or it cannot be used. -/
theorem ofBundle_eq_ok_iff {bytes : ByteArray} {found : List Authority} :
    ofBundle bytes = .ok found ↔ Bundles bytes found := by
  rw [ofBundle,except_bind_eq_ok_iff]
  constructor
  · rintro ⟨all,read,checked⟩
    split at checked
    · cases checked
    next inhabited =>
    cases checked
    exact ⟨mapError_eq_ok_iff.mp read,by simpa using inhabited⟩
  · rintro ⟨read,inhabited⟩
    exact ⟨found,mapError_eq_ok_iff.mpr read,if_neg (by simpa using inhabited)⟩

/-- What a pair for an identity is: a certificate and a key that can both be read, where the certificate is about the
public key that belongs to the other one, and of which the identity can be made. -/
inductive Pairs (pair : ByteArray × ByteArray) (made : Identity) : Prop where
  | intro {key : PrivateKey} {owner : Certificate} {certified : PublicKey} {written : ByteArray}
      (keyRead : privateKey pair.2 = .ok key) (ownerRead : certificate pair.1 = .ok owner)
      (about : publicKey owner = .ok certified) (matching : belongs certified key = true)
      (rewritten : encode key = .ok written) (identified : identity pair.1 written = .ok made)

/-- A certificate and a key make the identity that both are for, or none. -/
theorem ofPair_eq_ok_iff {pair : ByteArray × ByteArray} {made : Identity} :
    ofPair pair = .ok made ↔ Pairs pair made := by
  simp only [ofPair,except_bind_eq_ok_iff,mapError_eq_ok_iff]
  constructor
  · rintro ⟨key,keyRead,owner,ownerRead,certified,about,checked⟩
    split at checked
    · cases checked
    next same =>
    obtain ⟨written,rewritten,identified⟩ := except_bind_eq_ok_iff.mp checked
    exact ⟨keyRead,ownerRead,about,by simpa using same,mapError_eq_ok_iff.mp rewritten,
      mapError_eq_ok_iff.mp identified⟩
  · rintro ⟨keyRead,ownerRead,about,matching,rewritten,identified⟩
    refine ⟨_,keyRead,_,ownerRead,_,about,?_⟩
    rw [matching]
    exact except_bind_eq_ok_iff.mpr ⟨_,mapError_eq_ok_iff.mpr rewritten,mapError_eq_ok_iff.mpr identified⟩

end Credentials

namespace Http
variable [Credentials]

/-! ## What settings refer to -/

/-- The trust that settings ask for: in the certificates of the bundle that they name and no others, or in those that
the system trusts if they name none. -/
def Trusted (store : SecretStore) (space : String) : Option AuthoritiesSource → Trust → Prop
  | none, trust => trust = .system
  | some source, trust =>
    ∃ bytes authorities, store.Holds space source.name source.key bytes ∧ Credentials.Bundles bytes authorities ∧
      trust = .only authorities

/-- The identity that settings ask for: the one of the pair that they name, or none if they name none. -/
def Identified (store : SecretStore) (space : String) : Option ClientSource → Option Credentials.Identity → Prop
  | none, identity? => identity? = none
  | some source, identity? =>
    ∃ certificate key identity, store.Holds space source.name source.certificateKey certificate ∧
      store.Holds space source.name source.keyKey key ∧ Credentials.Pairs (certificate,key) identity ∧
      identity? = some identity

variable {store : SecretStore} {space : String} {authorities? : Option AuthoritiesSource}
  {client? : Option ClientSource}
  {trust : Trust} {identity? : Option Credentials.Identity} {cause : Misconfiguration}

/-- The system is trusted only if nothing else is asked for. -/
theorem Trusted.system_iff (trusted : Trusted store space authorities? trust) :
    trust = .system ↔ authorities? = none := by
  cases authorities? with
  | none => exact iff_of_true trusted rfl
  | some source =>
    obtain ⟨_,_,_,_,rfl⟩ := trusted
    exact iff_of_false nofun nofun

/-- There is no identity only if none is asked for. -/
theorem Identified.none_iff (identified : Identified store space client? identity?) :
    identity? = none ↔ client? = none := by
  cases client? with
  | none => exact iff_of_true identified rfl
  | some source =>
    obtain ⟨_,_,_,_,_,_,rfl⟩ := identified
    exact iff_of_false nofun nofun

/-- Why the trust that settings ask for cannot be had. -/
inductive Untrusted (store : SecretStore) (space : String) (authorities? : Option AuthoritiesSource) :
    Misconfiguration → Prop where
  /-- There is no bundle. -/
  | withheld {source : AuthoritiesSource} (named : authorities? = some source) {cause : Misconfiguration}
      (withheld : Secret.Withheld store space source.name source.key cause) : Untrusted store space authorities? cause
  /-- The bundle cannot be used. -/
  | unsound {source : AuthoritiesSource} (named : authorities? = some source) {bytes : ByteArray}
      (held : store.Holds space source.name source.key bytes) {error : Credentials.Error}
      (unsound : Credentials.ofBundle bytes = .error error) :
      Untrusted store space authorities? (.authorities space source.name error)

/-- Why the identity that settings ask for cannot be had. -/
inductive Unidentified (store : SecretStore) (space : String) (client? : Option ClientSource) :
    Misconfiguration → Prop where
  /-- The store does not tell the secret, for whatever fault. -/
  | unread {source : ClientSource} (named : client? = some source) (fault : Fault)
      (refused : store space source.name = .error fault) :
      Unidentified store space client? (.clientSecretUnread space source.name fault)
  /-- A part of the pair is not there. -/
  | incomplete {source : ClientSource} (named : client? = some source) (data : SecretData)
      (told : store space source.name = .ok data)
      (missing : (∀ bytes, ¬store.Holds space source.name source.certificateKey bytes) ∨
        ∀ bytes, ¬store.Holds space source.name source.keyKey bytes) :
      Unidentified store space client?
        (.clientSecretIncomplete space source.name source.certificateKey source.keyKey)
  /-- The pair cannot be used. -/
  | unsound {source : ClientSource} (named : client? = some source) {certificate key : ByteArray}
      (certified : store.Holds space source.name source.certificateKey certificate)
      (held : store.Holds space source.name source.keyKey key) {error : Credentials.Error}
      (unsound : Credentials.ofPair (certificate,key) = .error error) :
      Unidentified store space client? (.clientPair space source.name error)

theorem Untrusted.not_trusted (untrusted : Untrusted store space authorities? cause) (trust : Trust) :
    ¬Trusted store space authorities? trust := by
  cases untrusted with
  | withheld named withheld =>
    subst named
    rintro ⟨bytes,_,held,_⟩
    exact withheld.not_holds bytes held
  | unsound named held unsound =>
    subst named
    rintro ⟨bytes,found,held',sound,_⟩
    cases held.unique held'
    cases unsound.symm.trans (Credentials.ofBundle_eq_ok_iff.mpr sound)

theorem Unidentified.not_identified (unidentified : Unidentified store space client? cause)
    (identity? : Option Credentials.Identity) : ¬Identified store space client? identity? := by
  cases unidentified with
  | unread named fault refused =>
    subst named
    rintro ⟨_,_,_,⟨data,told,_⟩,_⟩
    cases refused.symm.trans told
  | incomplete named data told missing =>
    subst named
    rintro ⟨certificate,key,_,certified,held,_⟩
    rcases missing with missing | missing
    exacts [missing certificate certified,missing key held]
  | unsound named certified held unsound =>
    subst named
    rintro ⟨_,_,identity,certified',held',sound,_⟩
    cases certified.unique certified'
    cases held.unique held'
    cases unsound.symm.trans (Credentials.ofPair_eq_ok_iff.mpr sound)

/-! ## A client -/

theorem trustOf_answered (vault : Vault) (i : Nat) (space : String) (source? : Option AuthoritiesSource) :
    ((trustOf space source?).run.answered vault i).2.length = (if source?.isSome then 1 else 0) ∧
      match ((trustOf space source?).run.answered vault i).1 with
      | .ok trust => Trusted (vault i) space source? trust
      | .error cause => Untrusted (vault i) space source? cause := by
  cases source? with
  | none => exact ⟨rfl,rfl⟩
  | some source =>
    obtain ⟨asked,told⟩ := Secret.value_answered vault i space source.name source.key
    rw [show trustOf space (some source) = ExceptT.mk (Secret.value space source.name source.key) >>= _ from rfl,
      Query.answered_bind_except,ExceptT.run_mk]
    generalize (Secret.value space source.name source.key).answered vault i = first at asked told
    obtain ⟨result,reads⟩ := first
    cases asked
    cases result with
    | error cause => exact ⟨rfl,.withheld rfl told⟩
    | ok bytes =>
      cases read : Credentials.ofBundle bytes with
      | error error =>
        simp only [read]
        exact ⟨rfl,.unsound rfl told read⟩
      | ok authorities =>
        simp only [read]
        exact ⟨rfl,bytes,authorities,told,Credentials.ofBundle_eq_ok_iff.mp read,rfl⟩

theorem identityOf_answered (vault : Vault) (i : Nat) (space : String) (source? : Option ClientSource) :
    match ((identityOf space source?).run.answered vault i).1 with
    | .ok identity? => Identified (vault i) space source? identity?
    | .error cause => Unidentified (vault i) space source? cause := by
  cases source? with
  | none => rfl
  | some source =>
    simp only [identityOf,ExceptT.run_mk,Query.answered]
    cases told : vault i space source.name with
    | error fault => exact .unread rfl fault told
    | ok data =>
      have missing {key : String} (lost : Secret.find? data key = none) (bytes : ByteArray) :
          ¬(vault i).Holds space source.name key bytes := by
        rw [Secret.holds_iff told,lost]
        exact (Option.some_ne_none bytes).symm
      cases certified : Secret.find? data source.certificateKey with
      | none =>
        simp only [identityIn,certified]
        exact .incomplete rfl data told (.inl (missing certified))
      | some certificate =>
        cases own : Secret.find? data source.keyKey with
        | none =>
          simp only [identityIn,certified,own]
          exact .incomplete rfl data told (.inr (missing own))
        | some key =>
          simp only [identityIn,certified,own]
          replace certified := (Secret.holds_iff told).mpr certified
          replace own := (Secret.holds_iff told).mpr own
          cases made : Credentials.ofPair (certificate,key) with
          | error error => exact .unsound rfl certified own made
          | ok identity =>
            exact ⟨certificate,key,identity,certified,own,Credentials.ofPair_eq_ok_iff.mp made,rfl⟩

/-- The trust is settled first, and the identity after it. -/
theorem clientOf_answered (vault : Vault) (i : Nat) (space : String) {settings? : Option TlsSettings}
    {settings : TlsSettings} (given : settings?.getD {} = settings) :
    ((clientOf space settings?).run.answered vault i).1 =
      match ((trustOf space settings.authorities?).run.answered vault i).1 with
      | .error cause => .error cause
      | .ok trust =>
        match ((identityOf space settings.client?).run.answered vault
          (if settings.authorities?.isSome then i + 1 else i)).1 with
        | .error cause => .error cause
        | .ok identity? => .ok { trust, identity?, verifies := !settings.skipVerify } := by
  subst given
  have later (source? : Option AuthoritiesSource) :
      i + ((trustOf space source?).run.answered vault i).2.length = if source?.isSome then i + 1 else i := by
    rw [(trustOf_answered vault i space source?).1]
    split <;> rfl
  have opened : clientOf space settings? =
      (do
        let trust ← trustOf space (settings?.getD {}).authorities?
        let identity? ← identityOf space (settings?.getD {}).client?
        return { trust, identity?, verifies := !(settings?.getD {}).skipVerify }) := rfl
  rw [← later,opened,Query.answered_bind_except]
  generalize (trustOf space (settings?.getD {}).authorities?).run.answered vault i = first
  obtain ⟨trust|trust,reads⟩ := first
  · rfl
  · dsimp only
    rw [Query.answered_bind_except]
    generalize (identityOf space (settings?.getD {}).client?).run.answered vault (i + reads.length) = second
    obtain ⟨identity|identity,reads'⟩ := second <;> rfl

/-- A client is had just if all that settings refer to is there and sound. Then it trusts what they ask for and no one
else, has an identity just if they ask for one, verifies unless they say not to, and speaks no older version of the
protocol than 1.2. Otherwise the settings are at fault, whatever the store said, and the reason is the first thing that
is missing or unsound. -/
theorem client_fails_closed (vault : Vault) (i : Nat) (space : String) (settings? : Option TlsSettings) :
    let settings := settings?.getD {}
    let first := vault i
    let second := vault (if settings.authorities?.isSome then i + 1 else i)
    let result := ((clientOf space settings?).run.answered vault i).1
    ((∃ client, result = .ok client) ↔
      (∃ trust, Trusted first space settings.authorities? trust) ∧
        ∃ identity?, Identified second space settings.client? identity?) ∧
      match result with
      | .ok client =>
        Trusted first space settings.authorities? client.trust ∧
          (client.trust = .system ↔ settings.authorities? = none) ∧
          Identified second space settings.client? client.identity? ∧
          (client.identity? = none ↔ settings.client? = none) ∧
          (client.verifies = false ↔ settings.skipVerify = true) ∧ client.oldest = .v12
      | .error cause =>
        Untrusted first space settings.authorities? cause ∨
          (∃ trust, Trusted first space settings.authorities? trust) ∧
            Unidentified second space settings.client? cause := by
  intro settings first second result
  have trusting := (trustOf_answered vault i space settings.authorities?).2
  have identifying :=
    identityOf_answered vault (if settings.authorities?.isSome then i + 1 else i) space settings.client?
  rw [show result = _ from clientOf_answered vault i space (rfl : settings?.getD {} = settings)]
  generalize ((trustOf space settings.authorities?).run.answered vault i).1 = trust at trusting
  generalize ((identityOf space settings.client?).run.answered vault
    (if settings.authorities?.isSome then i + 1 else i)).1 = identity at identifying
  cases trust with
  | error cause =>
    exact ⟨⟨nofun,fun ⟨⟨trust,trusted⟩,_⟩ => (trusting.not_trusted trust trusted).elim⟩,.inl trusting⟩
  | ok trust =>
    cases identity with
    | error cause =>
      exact ⟨⟨nofun,fun ⟨_,identity?,identified⟩ => (identifying.not_identified identity? identified).elim⟩,
        .inr ⟨⟨trust,trusting⟩,identifying⟩⟩
    | ok identity? =>
      exact ⟨⟨fun _ => ⟨⟨trust,trusting⟩,identity?,identifying⟩,fun _ => ⟨_,rfl⟩⟩,
        trusting,trusting.system_iff,identifying,identifying.none_iff,Bool.not_eq_eq_eq_not,rfl⟩

end Http
end Callout
