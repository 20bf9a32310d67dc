import Callout.Rule.Spec

/-!
What an executor is given to run an action.
-/
namespace Callout

/-- What an action is run with: itself, the object of the event, the rule's namespace and the values of its
headers. -/
structure Call where
  action : Action
  object : Snapshot
  space : String
  headers : Dict String
deriving Inhabited

end Callout
