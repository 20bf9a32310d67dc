import Callout.Call
import Callout.Http.Client
import Callout.Http.Message
import Callout.Retry
import Callout.Snapshot
import Callout.Template.Rendering
import Callout.Url.Reader

/-!
What is settled before a request is sent. All that an action says is read first, in a fixed order, and the
first part that cannot be used ends the preparation; so a request that is sent is one of a sound action, and
each attempt sends the same.
-/
namespace Callout.Http
variable [Credentials]

/-- Looks up the addresses of a host with a port. -/
abbrev Lookup := String → Nat → Except String (List String)

/-- A request that is ready to be sent. -/
structure Prepared where
  client : Client
  request : Request
  /-- The longest time for one attempt. -/
  timeout : Span
  /-- The addresses that stand for a name that is verified in place of the host. -/
  pinned : Option (String × List String) := none

/-- What requests are prepared with. -/
structure Outfit where
  lookup : Lookup
  /-- Builds what sends a request, or says why that cannot be. It is told the client, the longest time for an attempt
  and the addresses that stand for a name. -/
  build : Client → Span → Option (String × List String) → Except String Unit := fun _ _ _ => .ok ()

/-- How long an attempt may take if nothing is said. -/
def usualTimeout : Span := .ofSeconds 10

/-- Part of a preparation that a configuration can spoil. -/
def configured {α : Type} (part : Except Misconfiguration α) : ExceptT Fault Query α :=
  ExceptT.mk (.done (part.mapError .config))

/-- The name that an endpoint is verified as, if settings give one. -/
def pinnedName? (settings? : Option TlsSettings) : Option String :=
  (settings?.bind (·.serverName?)).filter (· ≠ "")

/-- The host of an address with its port if that is not the usual one. -/
def hostText (host : Host) (url : Url) : String :=
  host.toText ++ url.port?.elim "" fun port => ":" ++ toString port

/-- A request sent to a host under another name. The host keeps its addresses and stands in a header. -/
def pin (lookup : Lookup) (name : String) (p : Prepared) : Except Fault Prepared :=
  match p.request.url.host? with
  | none => .error (.config (.addressWithoutHost p.request.url.toText))
  | some host =>
    if host.bare.map Char.toLower = name.map Char.toLower then .ok p
    else
      match lookup host.bare (p.request.url.portOrUsual?.getD 443) with
      | .error cause => .error (.network ("resolving " ++ host.bare ++ ": " ++ cause))
      | .ok addresses =>
        match p.request.url.withHost name with
        | .error cause => .error (.config (.serverName name cause))
        | .ok url =>
          let headers := orHeader p.request.headers "host" (hostText host p.request.url)
          .ok { p with request := { p.request with url, headers }, pinned := some (name, addresses) }

/-- The body of a request for an object. -/
def bodyOf (body? : Option Body) (object : Snapshot) : Except Misconfiguration (Option String) :=
  match body? with
  | none => .ok none
  | some body => ((Template.render body.template object.context).mapError .template).map some

/-- A request with a body, if there is one. A header says what the body is unless there is one that does. -/
def Prepared.withBody (p : Prepared) : Option String → Prepared
  | none => p
  | some body =>
    let headers := orHeader p.request.headers "content-type" "application/json"
    { p with request := { p.request with headers, body? := some body } }

/-- A call's request without its body, before anything is built for it. -/
def outline (lookup : Lookup) (c : Call) : ExceptT Fault Query Prepared := do
  let timeout ← configured (durationOr "timeout" c.action.timeout? usualTimeout)
  let method ← configured (readMethod c.action.method?)
  let url ← configured ((Url.parse c.action.url).mapError (.address c.action.url))
  let headers ← configured (readHeaders c.headers)
  let client ← ExceptT.adapt Fault.config (clientOf c.space c.action.tls?)
  let bare : Prepared := { client, request := { method, url, headers, body? := none }, timeout }
  match pinnedName? c.action.tls? with
  | none => pure bare
  | some name => ExceptT.mk (.done (pin lookup name bare))

/-- What is settled before a call's request is sent. -/
def prepare (outfit : Outfit) (c : Call) : ExceptT Fault Query Prepared := do
  let p ← outline outfit.lookup c
  configured ((outfit.build p.client p.timeout p.pinned).mapError .unbuilt)
  return p.withBody (← configured (bodyOf c.action.body? c.object))

end Callout.Http
