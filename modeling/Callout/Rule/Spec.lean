import Callout.Lifecycle

/-!
What a rule says: which resources it is about, which events it answers, which objects it takes, and the
actions it runs. Each part is read from a record, with defaults for what may be missing, and written back
without what is absent.
-/
namespace Callout

/-! ## Filters -/

/-- Which objects a rule takes. All that is given has to hold. -/
structure Filter where
  /-- Labels that the object has to have. -/
  labels : Dict String := .empty
  /-- A pattern for the object's name. -/
  namePattern? : Option String := none
  /-- A pattern for the object's namespace. -/
  namespacePattern? : Option String := none
deriving DecidableEq, Inhabited

namespace Filter

/-- Reads a filter. -/
def ofJson (j : Json) : Option Filter := do
  let p ← j.parts? ["labels", "nameRegex", "namespaceRegex"]
  return { labels := ← p.defaulted "labels" (Json.dictOf? Json.text?) .empty,
           namePattern? := ← p.optional "nameRegex" Json.text?,
           namespacePattern? := ← p.optional "namespaceRegex" Json.text? }

/-- Writes a filter. -/
def toJson (f : Filter) : Json :=
  .object
    (Json.fieldIfEntries "labels" .text f.labels ++ Json.fieldIfSome "nameRegex" .text f.namePattern? ++
      Json.fieldIfSome "namespaceRegex" .text f.namespacePattern?)

end Filter

/-! ## Parts of an action -/

/-- A key of a secret in the rule's namespace. -/
structure SecretKey where
  /-- The name of the secret. -/
  name : String
  key : String
deriving DecidableEq, Repr, Inhabited

namespace SecretKey

/-- Reads a key of a secret. -/
def ofJson (j : Json) : Option SecretKey := do
  let p ← j.parts? ["name", "key"]
  return ⟨← p.required "name" Json.text?, ← p.required "key" Json.text?⟩

/-- Writes a key of a secret. -/
def toJson (s : SecretKey) : Json := .object [("key", .text s.key), ("name", .text s.name)]

end SecretKey

/-- Where the value of a header comes from: a secret, if there is one, or the value given. -/
structure HeaderSource where
  value? : Option String := none
  secret? : Option SecretKey := none
deriving DecidableEq, Repr, Inhabited

namespace HeaderSource

/-- Reads the source of a header. -/
def ofJson (j : Json) : Option HeaderSource := do
  let p ← j.parts? ["value", "secretKeyRef"]
  return ⟨← p.optional "value" Json.text?, ← p.optional "secretKeyRef" SecretKey.ofJson⟩

/-- Writes the source of a header. -/
def toJson (h : HeaderSource) : Json :=
  .object (Json.fieldIfSome "secretKeyRef" SecretKey.toJson h.secret? ++ Json.fieldIfSome "value" .text h.value?)

end HeaderSource

/-- The body of a request. -/
structure Body where
  /-- The template that is rendered for the object. -/
  template : String
deriving DecidableEq, Repr, Inhabited

namespace Body

/-- Reads a body. -/
def ofJson (j : Json) : Option Body := do
  let p ← j.parts? ["template"]
  return ⟨← p.required "template" Json.text?⟩

/-- Writes a body. -/
def toJson (b : Body) : Json := .object [("template", .text b.template)]

end Body

/-- How failed attempts are repeated. -/
structure RetrySettings where
  /-- The number of attempts, the first included. -/
  maxAttempts? : Option UInt32 := none
  /-- The pause after the first attempt. -/
  backoff? : Option String := none
  /-- The longest pause. -/
  maxBackoff? : Option String := none
  /-- Whether attempts without an answer are repeated. -/
  onNetworkError? : Option Bool := none
  /-- The statuses after which an attempt is repeated. -/
  onStatus? : Option (List UInt16) := none
deriving DecidableEq, Repr, Inhabited

namespace RetrySettings

/-- Reads settings for repeated attempts. -/
def ofJson (j : Json) : Option RetrySettings := do
  let p ← j.parts? ["maxAttempts", "backoff", "maxBackoff", "retryOnNetworkError", "retryOnStatus"]
  return { maxAttempts? := ← p.optional "maxAttempts" Json.uint32?,
           backoff? := ← p.optional "backoff" Json.text?,
           maxBackoff? := ← p.optional "maxBackoff" Json.text?,
           onNetworkError? := ← p.optional "retryOnNetworkError" Json.bool?,
           onStatus? := ← p.optional "retryOnStatus" (Json.listOf? Json.uint16?) }

/-- Writes settings for repeated attempts. -/
def toJson (r : RetrySettings) : Json :=
  .object
    (Json.fieldIfSome "backoff" .text r.backoff? ++
      Json.fieldIfSome "maxAttempts" (fun n => .int n.toNat) r.maxAttempts? ++
      Json.fieldIfSome "maxBackoff" .text r.maxBackoff? ++
      Json.fieldIfSome "retryOnNetworkError" .bool r.onNetworkError? ++
      Json.fieldIfSome "retryOnStatus" (fun l => .list (l.map fun n => .int n.toNat)) r.onStatus?)

end RetrySettings

/-- The secret that holds the certificates of trusted authorities. -/
structure AuthoritiesSource where
  name : String
  key : String := "ca.crt"
deriving DecidableEq, Repr, Inhabited

namespace AuthoritiesSource

/-- Reads the source of trusted authorities. -/
def ofJson (j : Json) : Option AuthoritiesSource := do
  let p ← j.parts? ["name", "key"]
  return ⟨← p.required "name" Json.text?, ← p.defaulted "key" Json.text? "ca.crt"⟩

/-- Writes the source of trusted authorities. -/
def toJson (s : AuthoritiesSource) : Json := .object [("key", .text s.key), ("name", .text s.name)]

end AuthoritiesSource

/-- The secret that holds a client certificate and its key. -/
structure ClientSource where
  name : String
  certificateKey : String := "tls.crt"
  keyKey : String := "tls.key"
deriving DecidableEq, Repr, Inhabited

namespace ClientSource

/-- Reads the source of a client certificate. -/
def ofJson (j : Json) : Option ClientSource := do
  let p ← j.parts? ["name", "certKey", "keyKey"]
  return ⟨← p.required "name" Json.text?, ← p.defaulted "certKey" Json.text? "tls.crt",
    ← p.defaulted "keyKey" Json.text? "tls.key"⟩

/-- Writes the source of a client certificate. -/
def toJson (s : ClientSource) : Json :=
  .object [("certKey", .text s.certificateKey), ("keyKey", .text s.keyKey), ("name", .text s.name)]

end ClientSource

/-- How an endpoint is verified and the client identifies itself. -/
structure TlsSettings where
  /-- Whether the endpoint's certificate is not verified. -/
  skipVerify : Bool := false
  /-- The name to verify in place of the address's host. -/
  serverName? : Option String := none
  /-- The authorities trusted in place of the system's. -/
  authorities? : Option AuthoritiesSource := none
  client? : Option ClientSource := none
deriving DecidableEq, Repr, Inhabited

namespace TlsSettings

/-- Reads settings for verification and identity. -/
def ofJson (j : Json) : Option TlsSettings := do
  let p ← j.parts? ["insecureSkipVerify", "serverName", "caSecretRef", "clientCertSecretRef"]
  return { skipVerify := ← p.defaulted "insecureSkipVerify" Json.bool? false,
           serverName? := ← p.optional "serverName" Json.text?,
           authorities? := ← p.optional "caSecretRef" AuthoritiesSource.ofJson,
           client? := ← p.optional "clientCertSecretRef" ClientSource.ofJson }

/-- Writes settings for verification and identity. -/
def toJson (t : TlsSettings) : Json :=
  .object
    (Json.fieldIfSome "caSecretRef" AuthoritiesSource.toJson t.authorities? ++
      Json.fieldIfSome "clientCertSecretRef" ClientSource.toJson t.client? ++
      Json.field "insecureSkipVerify" (.bool t.skipVerify) ++
      Json.fieldIfSome "serverName" .text t.serverName?)

end TlsSettings

/-! ## Actions -/

/-- When an action runs. -/
inductive ActionMode where
  /-- Once for each event of an object. -/
  | once
  /-- Again and again at a fixed interval. -/
  | interval
deriving DecidableEq, Repr, Inhabited

namespace ActionMode

/-- The words for each mode. -/
def words : List (String × ActionMode) :=
  [("once", .once), ("interval", .interval), ("cron", .interval), ("schedule", .interval)]

/-- Reads a mode. -/
def ofJson (j : Json) : Option ActionMode := j.choice? words

/-- Writes a mode. -/
def toJson : ActionMode → Json
  | .once => .text "once"
  | .interval => .text "interval"

end ActionMode

/-- An action of a rule. -/
structure Action where
  /-- The kind of executor that runs it. -/
  kind : String := "http"
  method? : Option String := none
  url : String := ""
  headers : Dict HeaderSource := .empty
  body? : Option Body := none
  /-- A pattern for the status that counts as success. -/
  expectedStatus? : Option String := none
  mode : ActionMode := .once
  /-- The interval of an action that runs again and again. -/
  schedule? : Option String := none
  /-- How long one attempt may take. -/
  timeout? : Option String := none
  retry? : Option RetrySettings := none
  tls? : Option TlsSettings := none
deriving DecidableEq, Inhabited

namespace Action

/-- Whether the action runs again and again. -/
def isInterval (a : Action) : Bool := a.mode = .interval

/-- The fields of an action in their declared order. -/
def fieldNames : List String :=
  ["type", "method", "url", "headers", "body", "expectedStatus", "mode", "schedule", "timeout", "retry",
   "tls"]

/-- Reads an action. -/
def ofJson (j : Json) : Option Action := do
  let p ← j.parts? fieldNames
  return { kind := ← p.defaulted "type" Json.text? "http",
           method? := ← p.optional "method" Json.text?,
           url := ← p.required "url" Json.text?,
           headers := ← p.defaulted "headers" (Json.dictOf? HeaderSource.ofJson) .empty,
           body? := ← p.optional "body" Body.ofJson,
           expectedStatus? := ← p.optional "expectedStatus" Json.text?,
           mode := ← p.defaulted "mode" ActionMode.ofJson .once,
           schedule? := ← p.optional "schedule" Json.text?,
           timeout? := ← p.optional "timeout" Json.text?,
           retry? := ← p.optional "retry" RetrySettings.ofJson,
           tls? := ← p.optional "tls" TlsSettings.ofJson }

/-- Writes an action. -/
def toJson (a : Action) : Json :=
  .object
    (Json.fieldIfSome "body" Body.toJson a.body? ++
      Json.fieldIfSome "expectedStatus" .text a.expectedStatus? ++
      Json.fieldIfEntries "headers" HeaderSource.toJson a.headers ++
      Json.fieldIfSome "method" .text a.method? ++
      Json.field "mode" a.mode.toJson ++
      Json.fieldIfSome "retry" RetrySettings.toJson a.retry? ++
      Json.fieldIfSome "schedule" .text a.schedule? ++
      Json.fieldIfSome "timeout" .text a.timeout? ++
      Json.fieldIfSome "tls" TlsSettings.toJson a.tls? ++
      Json.field "type" (.text a.kind) ++
      Json.field "url" (.text a.url))

end Action

/-! ## The whole -/

/-- What a rule says. -/
structure RuleSpec where
  /-- The type of resources that the rule is about. -/
  selector : ResourceType
  /-- The events that the rule answers. -/
  events : List EventKind
  filter? : Option Filter := none
  /-- The actions in the order in which they run. -/
  actions : List Action
deriving DecidableEq, Inhabited

namespace RuleSpec

/-- Reads what a rule says. -/
def ofJson (j : Json) : Option RuleSpec := do
  let p ← j.parts? ["selector", "events", "filters", "actions"]
  return { selector := ← p.required "selector" ResourceType.ofSelector,
           events := ← p.required "events" (Json.listOf? EventKind.ofJson),
           filter? := ← p.optional "filters" Filter.ofJson,
           actions := ← p.required "actions" (Json.listOf? Action.ofJson) }

/-- Writes what a rule says. -/
def toJson (s : RuleSpec) : Json :=
  .object
    (Json.field "actions" (.list (s.actions.map Action.toJson)) ++
      Json.field "events" (.list (s.events.map EventKind.toJson)) ++
      Json.fieldIfSome "filters" Filter.toJson s.filter? ++
      Json.field "selector" s.selector.toJson)

end RuleSpec
end Callout
