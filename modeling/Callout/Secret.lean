import Callout.Fault
import Callout.Rule.Spec

/-!
Reading secrets. What is made of secrets is a query: it asks for one secret after the other and goes on
with each answer, or it has come to its result. A store that answers each question runs a query to its end.
-/
namespace Callout

/-- What a secret holds, by key. -/
abbrev SecretData := Dict ByteArray

/-- A store of secrets: the answer for a namespace and a name. -/
abbrev SecretStore := String → String → Except Fault SecretData

/-- A computation that may ask for secrets. -/
inductive Query (α : Type) where
  /-- The result. -/
  | done (result : α)
  /-- A question for a secret, and what follows from the answer. -/
  | ask (space name : String) (next : Except Fault SecretData → Query α)

namespace Query
variable {α β : Type}

/-- One computation after another. -/
def bind : Query α → (α → Query β) → Query β
  | .done a, f => f a
  | .ask space name next, f => .ask space name fun answer => (next answer).bind f

instance : Monad Query where
  pure := .done
  bind := bind

/-- The result with a store that answers each question. -/
def run (store : SecretStore) : Query α → α
  | .done a => a
  | .ask space name next => (next (store space name)).run store

/-- Whether a query asks for secrets of one namespace only, whatever the answers are. -/
def Stays (space : String) : Query α → Prop
  | .done _ => True
  | .ask s _ next => s = space ∧ ∀ answer, (next answer).Stays space

end Query

namespace Secret

/-- A key of a secret that has to be there and not to be empty. -/
def find? (data : SecretData) (key : String) : Option ByteArray := (data.get? key).filter (·.size ≠ 0)

/-- The bytes under a key of a secret. -/
def value (space name key : String) : Query (Except Misconfiguration ByteArray) :=
  .ask space name fun answer => .done <|
    match answer with
    | .error fault => .error (.secretUnread space name fault)
    | .ok data =>
      match find? data key with
      | some bytes => .ok bytes
      | none => .error (.secretKeyMissing space name key)

end Secret

namespace HeaderSource

/-- The value of a header. A secret goes before a value that is given. -/
def resolve (space header : String) (source : HeaderSource) : Query (Except Misconfiguration String) :=
  match source.secret?, source.value? with
  | some secret, _ => do
    match ← Secret.value space secret.name secret.key with
    | .error cause => return .error (.header header cause)
    | .ok bytes =>
      match String.fromUTF8? bytes with
      | some text => return .ok text
      | none => return .error (.headerNotText header)
  | none, some value => .done (.ok value)
  | none, none => .done (.error (.headerWithoutValue header))

end HeaderSource

/-- The values of headers, in name order. The first header without a value ends the query. -/
def resolveEntries (space : String) :
    List (String × HeaderSource) → Query (Except Misconfiguration (List (String × String)))
  | [] => .done (.ok [])
  | (name, source) :: rest => do
    match ← source.resolve space name with
    | .error cause => return .error cause
    | .ok value => return (← resolveEntries space rest).map ((name, value) :: ·)

/-- The values of all headers of an action. -/
def resolveHeaders (space : String) (headers : Dict HeaderSource) :
    Query (Except Misconfiguration (Dict String)) := do
  return (← resolveEntries space headers.entries).map Dict.ofList

end Callout
