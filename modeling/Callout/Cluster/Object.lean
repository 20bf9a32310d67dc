import Callout.Rule.Metadata

/-!
Objects of any type, as the cluster tells them. Their metadata are typed; version and kind of their interface are
kept when both are there; all other parts pass through as they are.
-/
namespace Callout.Cluster

/-- An object of any type. -/
structure Object where
  /-- Version and kind of the interface. -/
  interface? : Option (String × String)
  metadata : Metadata
  /-- All other parts. -/
  rest : List (String × Json)
deriving Inhabited

namespace Object

/-- Takes version and kind out of fields. When the version is no text the kind stays where it is. -/
def takeInterface (fields : List (String × Json)) : Option (String × String) × List (String × Json) :=
  let without (key : String) (l : List (String × Json)) := l.filter (·.1 ≠ key)
  match fields.lookup "apiVersion", fields.lookup "kind" with
  | some (.text version), some (.text kind) =>
    (some (version, kind), without "kind" (without "apiVersion" fields))
  | none, _ | some (.text _), _ => (none, without "kind" (without "apiVersion" fields))
  | some _, _ => (none, without "apiVersion" fields)

/-- Reads an object. Missing metadata are empty. -/
def ofJson (j : Json) : Option Object := do
  let fields ← j.fields?
  let metadata ← (fields.lookup "metadata").elim (some {}) Metadata.ofJson
  let (interface?, rest) := takeInterface (fields.filter (·.1 ≠ "metadata"))
  return { interface?, metadata, rest }

/-- Writes an object. -/
def toJson (o : Object) : Json :=
  let interface := o.interface?.elim [] fun (version, kind) =>
    [("apiVersion", .text version), ("kind", .text kind)]
  .ofFields (o.rest ++ interface ++ [("metadata", o.metadata.toJson)])

end Object
end Callout.Cluster
