import Callout.Json.Record

/-!
What is known of a watched object. A snapshot is shaped from a raw object whose metadata need not be in
order: what is not text counts as missing, and an object with neither an identifier nor a name has no
snapshot. The list of field managers is never kept.
-/
namespace Callout

/-- What is known of a watched object. -/
structure Snapshot where
  name : String
  /-- The namespace; none for objects of the whole cluster. -/
  space? : Option String
  /-- The unique identifier; empty if it is not known. -/
  uid : String
  /-- The version that the store gave the object. -/
  version? : Option String
  labels : Dict String
  /-- The object itself, without its field managers. -/
  raw : Json
deriving Inhabited

namespace Snapshot

/-- An object without its list of field managers. -/
def withoutManagers (raw : Json) : Json :=
  match raw with
  | .object fields =>
    .object (fields.map fun (key, value) =>
      (key, if key = "metadata" then value.erase "managedFields" else value))
  | raw => raw

/-- The labels of an object's metadata whose values are text. -/
def labelsOf (metadata : Option Json) : Dict String :=
  match metadata.bind (·.field? "labels") with
  | some (.object fields) => Dict.ofList (fields.filterMap fun (key, value) => value.text?.map (key, ·))
  | _ => .empty

/-- The snapshot of a raw object, unless it has neither an identifier nor a name. -/
def ofRaw (object : Json) : Option Snapshot :=
  let raw := withoutManagers object
  let metadata := raw.field? "metadata"
  let read (key : String) : Option String := (metadata.bind (·.field? key)).bind Json.text?
  let name := (read "name").getD ""
  let uid := (read "uid").getD ""
  if name = "" ∧ uid = "" then none
  else
    some
      { name, uid, raw, space? := (read "namespace").filter (· ≠ ""),
        version? := read "resourceVersion", labels := labelsOf metadata }

/-- The name with the namespace in front, if there is one. -/
def key (s : Snapshot) : String :=
  match s.space? with
  | some ns => ns ++ "/" ++ s.name
  | none => s.name

/-- What tells the object from others: its identifier, or its name where that is not known. -/
def identity (s : Snapshot) : String := if s.uid = "" then s.key else s.uid

/-- What a body template can refer to. -/
def context (s : Snapshot) : Json :=
  .object
    [("labels", Json.ofDict .text s.labels), ("name", .text s.name),
     ("namespace", .text (s.space?.getD "")), ("uid", .text s.uid)]

end Snapshot
end Callout
