import Callout.Fault
import Callout.Rule.Spec

/-!
Executors of actions, by kind. An action of a kind without executor is a configuration that cannot be used.
-/
namespace Callout

/-- Executors by the kind of action that they run. -/
structure Executors (ε : Type) where
  byKind : Dict ε

namespace Executors
variable {ε : Type}

/-- No executors. -/
def empty : Executors ε := ⟨.empty⟩

/-- Executors with one more, which takes the place of the one of its kind. -/
def register (e : Executors ε) (kind : String) (executor : ε) : Executors ε :=
  ⟨e.byKind.insert kind executor⟩

/-- The kinds that have an executor, in order. -/
def kinds (e : Executors ε) : List String := e.byKind.keys

/-- The executor for an action. -/
def pick (e : Executors ε) (action : Action) : Except Misconfiguration ε :=
  match e.byKind.get? action.kind with
  | some executor => .ok executor
  | none => .error (.actionType action.kind)

end Executors
end Callout
