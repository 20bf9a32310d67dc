import Callout.Cluster.Inquiry
import Callout.Engine.Registry

/-!
What the server calls the types of resources. It lists the resources of a group and version; a resource with a
slash in its name is a part of another one.
-/
namespace Callout.Cluster.Discovery

/-- Where the resources of a group and version are listed, and where they are. -/
def root (type : ResourceType) : String :=
  if type.group = "" then "/api/" ++ type.version else "/apis/" ++ type.group ++ "/" ++ type.version

/-- A resource as the server lists it. -/
structure Entry where
  kind : String
  name : String
  namespaced : Bool
deriving DecidableEq, Repr, Inhabited

/-- Reads a resource. Texts that are missing or null are empty. -/
def Entry.ofJson (j : Json) : Option Entry := do
  let p : Json.Parts := ⟨← j.fields?, false⟩
  for key in ["group", "version", "singularName", "storageVersionHash"] do
    let _ ← p.optional key Json.text?
  for key in ["categories", "shortNames", "verbs"] do
    let _ ← p.optional key (Json.listOf? Json.text?)
  return { kind := (← p.optional "kind" Json.text?).getD "", name := (← p.optional "name" Json.text?).getD "",
           namespaced := (← p.optional "namespaced" Json.bool?).getD false }

/-- Reads the list of the resources of a group and version. -/
def readEntries (j : Json) : Option (List Entry) := do
  let p : Json.Parts := ⟨← j.fields?, false⟩
  let _ ← p.defaulted "apiVersion" (Json.exactly? "v1") ""
  let _ ← p.defaulted "kind" (Json.exactly? "APIResourceList") ""
  let _ ← p.optional "groupVersion" Json.text?
  return (← p.optional "resources" (Json.listOf? Entry.ofJson)).getD []

/-- The first resource of a kind that is no part of another one. Whether it belongs to a namespace is said where
its name stands first. -/
def find? (type : ResourceType) (entries : List Entry) : Option WatchTarget := do
  let entry ← entries.find? fun e => e.kind = type.kind && !e.name.contains '/'
  let first ← entries.find? fun e => e.name = entry.name
  return ⟨type, entry.name, first.namespaced⟩

/-- What a type is called. -/
def resolve (type : ResourceType) : Inquiry WatchTarget :=
  let unknown (e : Error) : Fault := .unknownResourceType (type.toText ++ ": " ++ e.message)
  .asking { path := root type } fun r =>
    match r.read readEntries with
    | .error e => .error (unknown e)
    | .ok entries =>
      match find? type entries with
      | some target => .ok target
      | none => .error (unknown (.kindMissing type.toText))

end Callout.Cluster.Discovery
