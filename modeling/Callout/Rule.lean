import Callout.Rule.Metadata
import Callout.Rule.Spec
import Callout.Rule.Status

/-!
Rules: what a rule says, the metadata it is stored with, and its status.
-/
namespace Callout

/-- The name of a rule within the cluster. -/
structure RuleId where
  space : String
  name : String
deriving DecidableEq, Repr, Inhabited, BEq

/-- The text of a rule's name. -/
def RuleId.toText (id : RuleId) : String := id.space ++ "/" ++ id.name

/-- A rule. -/
structure Rule where
  metadata : Metadata
  spec : RuleSpec
  status? : Option RuleStatus := none
deriving Inhabited

namespace Rule

/-- The version of the interface in which rules are stored. -/
def apiVersion : String := "automation.resact.io/v1alpha1"

/-- The kind under which rules are stored. -/
def kind : String := "ResourceAction"

/-- The one name under which many rules go. -/
def plural : String := "resourceactions"

/-- Reads a rule. Its metadata have to be there. -/
def ofJson (j : Json) : Option Rule := do
  let p ← j.parts? ["metadata", "spec", "status"]
  return ⟨← p.required "metadata" Metadata.ofJson, ← p.required "spec" RuleSpec.ofJson,
    ← p.nullable "status" RuleStatus.ofJson⟩

/-- Writes a rule. -/
def toJson (r : Rule) : Json :=
  .object
    (Json.field "apiVersion" (.text apiVersion) ++ Json.field "kind" (.text kind) ++
      Json.field "metadata" r.metadata.toJson ++ Json.field "spec" r.spec.toJson ++
      Json.fieldIfSome "status" RuleStatus.toJson r.status?)

/-- The namespace of a rule; empty if it has none. -/
def space (r : Rule) : String := r.metadata.space?.getD ""

/-- The name of a rule, or what its name is to be made of. -/
def name (r : Rule) : String := (r.metadata.name?.or r.metadata.generateName?).getD ""

/-- What a rule is addressed by. -/
def id (r : Rule) : RuleId := ⟨r.space, r.name⟩

/-- What tells a rule from others of its name, before and after: its identifier, or else its name. -/
def incarnation (r : Rule) : String := r.metadata.uid?.getD r.id.toText

/-- Whether the ledger has an entry for an object and a kind of event. -/
def hasExecuted (r : Rule) (object : String) (event : EventKind) : Bool :=
  (r.status?.map (·.hasExecuted object event)).getD false

end Rule
end Callout
