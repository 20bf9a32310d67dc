import Callout.Json.Record

/-!
Types of resources: a group, a version and a kind. The group is empty for the types that belong to no
group.
-/
namespace Callout

/-- A type of resources. -/
structure ResourceType where
  /-- The group; empty for the core types. -/
  group : String
  version : String
  kind : String
deriving DecidableEq, Repr, Inhabited, BEq

namespace ResourceType

/-- The text of a type: its parts with slashes between, without an empty group. -/
def toText (t : ResourceType) : String :=
  if t.group = "" then t.version ++ "/" ++ t.kind else t.group ++ "/" ++ t.version ++ "/" ++ t.kind

/-- Types are compared by group, then version, then kind. -/
def compare (a b : ResourceType) : Ordering :=
  ((Ord.compare a.group b.group).then (Ord.compare a.version b.version)).then (Ord.compare a.kind b.kind)

/-- Reads a type of which every part has to be there. -/
def ofJson (j : Json) : Option ResourceType := do
  let p ← j.parts? ["group", "version", "kind"]
  return ⟨← p.required "group" Json.text?, ← p.required "version" Json.text?, ← p.required "kind" Json.text?⟩

/-- Reads a type whose group may be missing. -/
def ofSelector (j : Json) : Option ResourceType := do
  let p ← j.parts? ["group", "version", "kind"]
  return ⟨← p.defaulted "group" Json.text? "", ← p.required "version" Json.text?,
    ← p.required "kind" Json.text?⟩

/-- Writes a type. -/
def toJson (t : ResourceType) : Json :=
  .object [("group", .text t.group), ("kind", .text t.kind), ("version", .text t.version)]

end ResourceType
end Callout
