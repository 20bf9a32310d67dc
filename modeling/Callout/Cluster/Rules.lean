import Callout.Cluster.Inquiry
import Callout.Cluster.Page
import Callout.Rule

/-!
Rules as the cluster keeps them: all of them, one by name, and its status, which is stored together with the rule
that was read, so that the server can refuse it when the rule has changed since.
-/
namespace Callout.Cluster.Rules

/-- Where all rules are. -/
def path : String := "/apis/" ++ Rule.apiVersion ++ "/" ++ Rule.plural

/-- Where a rule is. -/
def pathOf (id : RuleId) : String :=
  "/apis/" ++ Rule.apiVersion ++ "/namespaces/" ++ id.space ++ "/" ++ Rule.plural ++ "/" ++ id.name

/-- All rules. -/
def list : Inquiry (List Rule) :=
  (Inquiry.about "list resourceactions" { path } (Page.ofJson Rule.ofJson)).map (·.items)

/-- A rule by name. -/
def get (id : RuleId) : Inquiry Rule :=
  .aboutNamed ("get resourceaction " ++ id.toText) id.name { path := pathOf id } Rule.ofJson

/-- The status of a rule to be stored, and the rule that is there then. -/
def update (rule : Rule) : Inquiry Rule :=
  .aboutNamed ("update status of " ++ rule.id.toText) rule.id.name
    { method := .put, path := pathOf rule.id ++ "/status", body? := some rule.toJson } Rule.ofJson

end Callout.Cluster.Rules
