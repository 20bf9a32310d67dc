import Callout.Cluster.Request
import Callout.Fault
import Callout.Json.Reader
import Callout.Json.Record

/-!
Why the cluster did not give what was asked for. A refusal carries a code of its own, which decides what it means:
a conflict, something that is not there, or any other failure of the store.
-/
namespace Callout.Cluster
open Text (quoted)

/-- What the server says when it refuses a request. -/
structure Refusal where
  status : String
  message : String := ""
  reason : String := ""
  code : UInt16
deriving DecidableEq, Repr, Inhabited

/-- Why the cluster did not give what was asked for. -/
inductive Error where
  | refused (refusal : Refusal)
  /-- An answer that is not of the form that was asked for. -/
  | unreadable
  /-- A request for an object without name, which is not sent. -/
  | nameless
  /-- A type that the server does not know. -/
  | kindMissing (kind : String)
  /-- A list or an object without version, after which no watch can start. -/
  | versionMissing
deriving DecidableEq, Repr, Inhabited

namespace Refusal

/-- Reads what the server says. -/
def ofJson (j : Json) : Option Refusal := do
  let p ← j.parts? ["status", "message", "reason", "code"]
  return { status := ← p.required "status" Json.text?, message := ← p.defaulted "message" Json.text? "",
           reason := ← p.defaulted "reason" Json.text? "", code := ← p.required "code" Json.uint16? }

/-- All that was said, under the names of the parts. -/
def toText (r : Refusal) : String :=
  "ErrorResponse \x7b status: " ++ quoted r.status ++ ", message: " ++ quoted r.message ++ ", reason: " ++
    quoted r.reason ++ ", code: " ++ toString r.code.toNat ++ " \x7d"

/-- The usual words for the status of a refusal. -/
def phrases : List (Nat × String) :=
  [(400, "Bad Request"), (401, "Unauthorized"), (402, "Payment Required"), (403, "Forbidden"),
   (404, "Not Found"), (405, "Method Not Allowed"), (406, "Not Acceptable"),
   (407, "Proxy Authentication Required"), (408, "Request Timeout"), (409, "Conflict"), (410, "Gone"),
   (411, "Length Required"), (412, "Precondition Failed"), (413, "Payload Too Large"), (414, "URI Too Long"),
   (415, "Unsupported Media Type"), (416, "Range Not Satisfiable"), (417, "Expectation Failed"),
   (418, "I\x27m a teapot"), (421, "Misdirected Request"), (422, "Unprocessable Entity"), (423, "Locked"),
   (424, "Failed Dependency"), (426, "Upgrade Required"), (428, "Precondition Required"),
   (429, "Too Many Requests"), (431, "Request Header Fields Too Large"),
   (451, "Unavailable For Legal Reasons"), (500, "Internal Server Error"), (501, "Not Implemented"),
   (502, "Bad Gateway"), (503, "Service Unavailable"), (504, "Gateway Timeout"),
   (505, "HTTP Version Not Supported"), (506, "Variant Also Negotiates"), (507, "Insufficient Storage"),
   (508, "Loop Detected"), (510, "Not Extended"), (511, "Network Authentication Required")]

/-- What a refusal says that is not in the usual form: its status, and its text in quotes. -/
def plain (r : Response) : Refusal :=
  { status := toString r.status ++ " " ++ (phrases.lookup r.status).getD "<unknown status code>",
    message := quoted r.body, reason := "Failed to parse error data", code := UInt16.ofNat r.status }

/-- The refusal that an answer is. -/
def ofResponse? (r : Response) : Option Refusal :=
  if 400 ≤ r.status ∧ r.status < 600 then some (((Json.parse r.body).bind ofJson).getD (plain r)) else none

end Refusal

namespace Error

/-- What a message says of an error. -/
def message : Error → String
  | .refused r => "ApiError: " ++ r.message ++ ": " ++ r.reason ++ " (" ++ r.toText ++ ")"
  | .unreadable => "Error deserializing response"
  | .nameless => "Failed to build request: failed to validate request: A non-empty name is required"
  | .kindMissing kind => "Error from discovery: Missing Kind: " ++ kind
  | .versionMissing => "no resourceVersion in response"

/-- The fault that an error is, of what was to be done. -/
def fault (what : String) : Error → Fault
  | .refused r =>
    if r.code = 409 then .conflict (what ++ ": " ++ r.message)
    else if r.code = 404 then .notFound (what ++ ": " ++ r.message)
    else .store (what ++ ": " ++ message (.refused r))
  | e => .store (what ++ ": " ++ e.message)

end Error
end Callout.Cluster
