import Callout.Cluster.Error

/-!
Inquiries: one request to the server, and what its answer is read as. An inquiry that could not be asked is
settled from the start.
-/
namespace Callout.Cluster

/-- What an answer holds, if it is no refusal and can be read. -/
def Response.read {α : Type} (r : Response) (reader : Json → Option α) : Except Error α :=
  match Refusal.ofResponse? r with
  | some refusal => .error (.refused refusal)
  | none =>
    match (Json.parse r.body).bind reader with
    | some a => .ok a
    | none => .error .unreadable

/-- One question to the server. -/
inductive Inquiry (α : Type) where
  | settled (result : Except Fault α)
  | asking (request : Request) (read : Response → Except Fault α)

namespace Inquiry
variable {α β : Type}

/-- An inquiry of which something is made. -/
def map (f : α → β) : Inquiry α → Inquiry β
  | .settled result => .settled (result.map f)
  | .asking request read => .asking request fun r => (read r).map f

/-- A question whose errors are faults of what was to be done. -/
def about (what : String) (request : Request) (reader : Json → Option α) : Inquiry α :=
  .asking request fun r => (r.read reader).mapError (·.fault what)

/-- A question about an object of a name. Without name there is no question. -/
def aboutNamed (what name : String) (request : Request) (reader : Json → Option α) : Inquiry α :=
  if name = "" then .settled (.error (Error.nameless.fault what)) else about what request reader

end Inquiry
end Callout.Cluster
