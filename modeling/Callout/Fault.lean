import Callout.Credentials.Error
import Callout.Span.Reader
import Callout.Template.Error
import Callout.Text.Quoted
import Callout.Url.Error

/-!
Why an operation failed. A fault is a configuration that cannot be used, an answer of the outside world
(of the network, of an endpoint, of a store), or attempts that are used up. Each cause has one wording.
-/
namespace Callout
open Text (quoted)

mutual

/-- Why an operation failed. -/
inductive Fault where
  /-- A configuration that cannot be used. -/
  | config (cause : Misconfiguration)
  /-- A request that got no answer. -/
  | network (message : String)
  /-- An answer with a status that was not expected. -/
  | status (code : UInt16) (body : String)
  /-- Attempts that are used up. -/
  | exhausted (attempts : Nat)
  /-- A write to a version that is no longer stored. -/
  | conflict (message : String)
  | notFound (message : String)
  | unknownResourceType (message : String)
  /-- Any other failure of a store. -/
  | store (message : String)

/-- Why a configuration cannot be used. -/
inductive Misconfiguration where
  /-- Said by a store or an executor in its own words. -/
  | stated (message : String)
  | duration (field raw : String) (cause : Span.ReadError)
  | zeroDuration (field raw : String)
  /-- The cause is in the words of what reads patterns. -/
  | expectedStatus (pattern cause : String)
  | actionType (kind : String)
  /-- A secret that a store did not give. -/
  | secretUnread (space name : String) (cause : Fault)
  | secretKeyMissing (space name key : String)
  /-- A header whose secret cannot be used. -/
  | header (name : String) (cause : Misconfiguration)
  | headerNotText (name : String)
  | headerWithoutValue (name : String)
  | method (raw : String)
  | address (raw : String) (cause : Url.Error)
  | addressWithoutHost (url : String)
  | headerName (name : String)
  | headerValue (name : String)
  | serverName (name : String) (cause : Url.Error)
  | authorities (space name : String) (cause : Credentials.Error)
  | clientSecretUnread (space name : String) (cause : Fault)
  | clientSecretIncomplete (space name certificateKey keyKey : String)
  | clientPair (space name : String) (cause : Credentials.Error)
  /-- A client that could not be built, for a cause in the words of what builds it. -/
  | unbuilt (cause : String)
  | template (cause : Template.Error)

end

deriving instance DecidableEq, Repr, Inhabited for Fault, Misconfiguration

mutual

/-- What a message says of a fault. -/
def Fault.message : Fault → String
  | .config cause => "config: " ++ cause.message
  | .network message => "network: " ++ message
  | .status code body => "http call failed: status=" ++ toString code.toNat ++ " body=" ++ body
  | .exhausted attempts => "http call failed after " ++ toString attempts ++ " attempts"
  | .conflict message => "conflict: " ++ message
  | .notFound message => "not_found: " ++ message
  | .unknownResourceType message => "unknown resource type: " ++ message
  | .store message => "store: " ++ message

/-- What a message says of a configuration that cannot be used. -/
def Misconfiguration.message : Misconfiguration → String
  | .stated message => message
  | .duration field raw cause => "invalid " ++ field ++ " " ++ quoted raw ++ ": " ++ cause.message
  | .zeroDuration field raw => field ++ " must be positive, got " ++ quoted raw
  | .expectedStatus pattern cause => "invalid expectedStatus " ++ quoted pattern ++ ": " ++ cause
  | .actionType kind => "unsupported action type " ++ quoted kind
  | .secretUnread space name cause => "secret " ++ space ++ "/" ++ name ++ ": " ++ cause.message
  | .secretKeyMissing space name key =>
    "secret " ++ space ++ "/" ++ name ++ " has no data under key " ++ quoted key
  | .header name cause => "header " ++ name ++ ": config: " ++ cause.message
  | .headerNotText name => "header " ++ name ++ ": secret value is not utf-8"
  | .headerWithoutValue name => "header " ++ name ++ ": neither value nor secretKeyRef set"
  | .method raw => "invalid http method " ++ quoted raw
  | .address raw cause => "invalid url " ++ quoted raw ++ ": " ++ cause.message
  | .addressWithoutHost url => "url " ++ url ++ " has no host"
  | .headerName name => "invalid header name " ++ quoted name
  | .headerValue name => "invalid value for header " ++ name
  | .serverName name cause => "invalid serverName " ++ quoted name ++ ": " ++ cause.message
  | .authorities space name cause => "caSecretRef " ++ space ++ "/" ++ name ++ ": " ++ cause.message
  | .clientSecretUnread space name cause =>
    "clientCertSecretRef " ++ space ++ "/" ++ name ++ ": " ++ cause.message
  | .clientSecretIncomplete space name certificateKey keyKey =>
    "clientCertSecretRef " ++ space ++ "/" ++ name ++ " needs non-empty " ++ quoted certificateKey ++
      " and " ++ quoted keyKey
  | .clientPair space name cause =>
    "clientCertSecretRef " ++ space ++ "/" ++ name ++ ": invalid key pair: " ++ cause.message
  | .unbuilt cause => "building http client: " ++ cause
  | .template cause => "render body template: " ++ cause.message

end

namespace Fault

/-- The reason that a condition gives for a fault. -/
def reason : Fault → String
  | .config _ => "InvalidConfig"
  | .network _ | .status _ _ | .exhausted _ => "ActionFailed"
  | .notFound _ => "ReferenceNotFound"
  | .conflict _ | .store _ => "StoreError"
  | .unknownResourceType _ => "UnknownResourceType"

/-- Whether a write met a version that is no longer stored. -/
def isConflict : Fault → Bool
  | .conflict _ => true
  | _ => false

/-- Whether what was asked for is not there. -/
def isNotFound : Fault → Bool
  | .notFound _ => true
  | _ => false

end Fault
end Callout
