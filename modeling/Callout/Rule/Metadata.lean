import Callout.Json.Record
import Callout.Rule.Condition

/-!
The metadata of a stored object. Known fields are typed, fields that are null or missing are not written,
and unknown fields are dropped.
-/
namespace Callout

/-- An object that owns another one. -/
structure Owner where
  apiVersion : String
  blocksDeletion? : Option Bool
  controls? : Option Bool
  kind : String
  name : String
  uid : String
deriving DecidableEq, Repr, Inhabited

/-- What one writer manages of an object. -/
structure Manager where
  apiVersion? : Option String
  fieldsType? : Option String
  fields? : Option Json
  manager? : Option String
  operation? : Option String
  subresource? : Option String
  time? : Option Timestamp
deriving Inhabited

/-- The metadata of a stored object. -/
structure Metadata where
  annotations? : Option (Dict String) := none
  created? : Option Timestamp := none
  deletionGrace? : Option Int64 := none
  deleted? : Option Timestamp := none
  finalizers? : Option (List String) := none
  generateName? : Option String := none
  generation? : Option Int64 := none
  labels? : Option (Dict String) := none
  managers? : Option (List Manager) := none
  name? : Option String := none
  space? : Option String := none
  owners? : Option (List Owner) := none
  version? : Option String := none
  selfLink? : Option String := none
  uid? : Option String := none
deriving Inhabited

/-- The time of a second, without its fraction. -/
def Timestamp.toSecondText (t : Timestamp) : String := ({ t with nano := 0 } : Timestamp).toText

/-- The fields of an object, which may not be written as a list. -/
def Json.fieldParts? : Json → Option Json.Parts
  | .object fields => some ⟨fields, false⟩
  | _ => none

namespace Owner

/-- Reads an owner; texts that are missing or null are empty. -/
def ofJson (j : Json) : Option Owner := do
  let p ← j.fieldParts?
  return { apiVersion := (← p.optional "apiVersion" Json.text?).getD "",
           blocksDeletion? := ← p.optional "blockOwnerDeletion" Json.bool?,
           controls? := ← p.optional "controller" Json.bool?,
           kind := (← p.optional "kind" Json.text?).getD "",
           name := (← p.optional "name" Json.text?).getD "",
           uid := (← p.optional "uid" Json.text?).getD "" }

/-- Writes an owner. -/
def toJson (o : Owner) : Json :=
  .object
    (Json.field "apiVersion" (.text o.apiVersion) ++
      Json.fieldIfSome "blockOwnerDeletion" .bool o.blocksDeletion? ++
      Json.fieldIfSome "controller" .bool o.controls? ++ Json.field "kind" (.text o.kind) ++
      Json.field "name" (.text o.name) ++ Json.field "uid" (.text o.uid))

end Owner

namespace Manager

/-- Reads what one writer manages. -/
def ofJson (j : Json) : Option Manager := do
  let p ← j.fieldParts?
  return { apiVersion? := ← p.optional "apiVersion" Json.text?,
           fieldsType? := ← p.optional "fieldsType" Json.text?,
           fields? := ← p.optional "fieldsV1" some,
           manager? := ← p.optional "manager" Json.text?,
           operation? := ← p.optional "operation" Json.text?,
           subresource? := ← p.optional "subresource" Json.text?,
           time? := ← p.optional "time" Timestamp.ofJson }

/-- Writes what one writer manages. -/
def toJson (m : Manager) : Json :=
  .object
    (Json.fieldIfSome "apiVersion" .text m.apiVersion? ++ Json.fieldIfSome "fieldsType" .text m.fieldsType? ++
      Json.fieldIfSome "fieldsV1" id m.fields? ++ Json.fieldIfSome "manager" .text m.manager? ++
      Json.fieldIfSome "operation" .text m.operation? ++
      Json.fieldIfSome "subresource" .text m.subresource? ++
      Json.fieldIfSome "time" (fun t => .text t.toSecondText) m.time?)

end Manager

namespace Metadata

/-- Reads metadata. -/
def ofJson (j : Json) : Option Metadata := do
  let p ← j.fieldParts?
  return { annotations? := ← p.optional "annotations" (Json.dictOf? Json.text?),
           created? := ← p.optional "creationTimestamp" Timestamp.ofJson,
           deletionGrace? := ← p.optional "deletionGracePeriodSeconds" Json.int64?,
           deleted? := ← p.optional "deletionTimestamp" Timestamp.ofJson,
           finalizers? := ← p.optional "finalizers" (Json.listOf? Json.text?),
           generateName? := ← p.optional "generateName" Json.text?,
           generation? := ← p.optional "generation" Json.int64?,
           labels? := ← p.optional "labels" (Json.dictOf? Json.text?),
           managers? := ← p.optional "managedFields" (Json.listOf? Manager.ofJson),
           name? := ← p.optional "name" Json.text?,
           space? := ← p.optional "namespace" Json.text?,
           owners? := ← p.optional "ownerReferences" (Json.listOf? Owner.ofJson),
           version? := ← p.optional "resourceVersion" Json.text?,
           selfLink? := ← p.optional "selfLink" Json.text?,
           uid? := ← p.optional "uid" Json.text? }

/-- Writes metadata. -/
def toJson (m : Metadata) : Json :=
  .object
    (Json.fieldIfSome "annotations" (Json.ofDict .text) m.annotations? ++
      Json.fieldIfSome "creationTimestamp" (fun t => .text t.toSecondText) m.created? ++
      Json.fieldIfSome "deletionGracePeriodSeconds" (fun n => .int n.toInt) m.deletionGrace? ++
      Json.fieldIfSome "deletionTimestamp" (fun t => .text t.toSecondText) m.deleted? ++
      Json.fieldIfSome "finalizers" (fun l => .list (l.map .text)) m.finalizers? ++
      Json.fieldIfSome "generateName" .text m.generateName? ++
      Json.fieldIfSome "generation" (fun n => .int n.toInt) m.generation? ++
      Json.fieldIfSome "labels" (Json.ofDict .text) m.labels? ++
      Json.fieldIfSome "managedFields" (fun l => .list (l.map Manager.toJson)) m.managers? ++
      Json.fieldIfSome "name" .text m.name? ++
      Json.fieldIfSome "namespace" .text m.space? ++
      Json.fieldIfSome "ownerReferences" (fun l => .list (l.map Owner.toJson)) m.owners? ++
      Json.fieldIfSome "resourceVersion" .text m.version? ++
      Json.fieldIfSome "selfLink" .text m.selfLink? ++
      Json.fieldIfSome "uid" .text m.uid?)

end Metadata
end Callout
