import Callout.ResourceType
import Callout.Snapshot

/-!
Events in the life of watched objects: creation, update and deletion, with the object as it is or as it
was last known.
-/
namespace Callout

/-- A kind of event. -/
inductive EventKind where
  | create
  | update
  | delete
deriving DecidableEq, Repr, Inhabited, BEq

namespace EventKind

/-- The text of a kind of event. -/
def toText : EventKind → String
  | .create => "Create"
  | .update => "Update"
  | .delete => "Delete"

/-- The words for each kind of event. -/
def words : List (String × EventKind) :=
  [("Create", .create), ("create", .create), ("CREATE", .create), ("Update", .update),
   ("update", .update), ("UPDATE", .update), ("Delete", .delete), ("delete", .delete), ("DELETE", .delete)]

/-- Reads a kind of event. -/
def ofJson (j : Json) : Option EventKind := j.choice? words

/-- Writes a kind of event. -/
def toJson (k : EventKind) : Json := .text k.toText

end EventKind

/-- An event in the life of a watched object. -/
structure Event where
  kind : EventKind
  /-- The type of the object. -/
  type : ResourceType
  /-- Whether the object is only known from before. -/
  lastKnown : Bool
  object : Snapshot
deriving Inhabited

end Callout
