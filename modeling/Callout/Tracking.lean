import Callout.Lifecycle

/-!
Turning what a watch says into events. A tracker keeps the last snapshot of each object it has seen, by
identity. A snapshot of an object not tracked is a creation, one of a tracked object an update unless its
version is the one already seen. A new list of all objects is compared with what is tracked, and what is
missing from it has been deleted.
-/
namespace Callout

/-- What a watch says: an object was stored, an object was deleted, or here are all objects. -/
inductive Notification where
  | applied (object : Json)
  | deleted (object : Json)
  | restarted (objects : List Json)
deriving Inhabited

/-- The objects of one type that have been seen, with the last snapshot of each. -/
structure Tracker where
  type : ResourceType
  known : Dict Snapshot

namespace Tracker

/-- A tracker that has seen nothing. -/
def new (type : ResourceType) : Tracker := ⟨type, .empty⟩

/-- An event of an object as it is. -/
def live (t : Tracker) (kind : EventKind) (object : Snapshot) : Event := ⟨kind, t.type, false, object⟩

/-- The deletion of an object of which only an earlier state is known. -/
def tombstone (t : Tracker) (object : Snapshot) : Event := ⟨.delete, t.type, true, object⟩

/-- A snapshot of an object that exists. -/
def observe (t : Tracker) (object : Snapshot) : Tracker × Option Event :=
  let seen : Tracker := { t with known := t.known.insert object.identity object }
  match t.known.get? object.identity with
  | none => (seen, some (t.live .create object))
  | some previous =>
    if previous.version?.isSome ∧ previous.version? = object.version? then (seen, none)
    else (seen, some (t.live .update object))

/-- An object that was deleted. One without identifier is looked up by its name. -/
def forget (t : Tracker) (object : Snapshot) : Tracker × Event :=
  if object.uid ≠ "" then ({ t with known := t.known.erase object.uid }, t.live .delete object)
  else
    match t.known.entries.find? fun entry => entry.2.key = object.key with
    | some (identity, last) => ({ t with known := t.known.erase identity }, t.tombstone last)
    | none => (t, t.tombstone object)

/-- Snapshots of objects that exist, one after the other. -/
def observeAll (t : Tracker) : List Snapshot → Tracker × List Event
  | [] => (t, [])
  | object :: rest =>
    let (t, event?) := t.observe object
    let (t, events) := t.observeAll rest
    (t, event?.toList ++ events)

/-- A list of all objects. -/
def relist (t : Tracker) (objects : List Snapshot) : Tracker × List Event :=
  let (seen, events) := t.observeAll objects
  let present := objects.map Snapshot.identity
  let gone := seen.known.entries.filter fun entry => !present.contains entry.1
  let kept := gone.foldl (fun known entry => known.erase entry.1) seen.known
  ({ seen with known := kept }, events ++ gone.map fun entry => t.tombstone entry.2)

/-- What a notification changes, and the events it amounts to. Objects without identity are passed over. -/
def push (t : Tracker) : Notification → Tracker × List Event
  | .applied object =>
    match Snapshot.ofRaw object with
    | none => (t, [])
    | some snapshot =>
      let (t, event?) := t.observe snapshot
      (t, event?.toList)
  | .deleted object =>
    match Snapshot.ofRaw object with
    | none => (t, [])
    | some snapshot =>
      let (t, event) := t.forget snapshot
      (t, [event])
  | .restarted objects => t.relist (objects.filterMap Snapshot.ofRaw)

end Tracker
end Callout
