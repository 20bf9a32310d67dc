import Callout.Engine.Arming
import Callout.Engine.Dispatch

/-!
Delivering an event to the rules. The rules are listed, interval tasks are armed for the event, and the event is
dispatched to each rule that answers it, one after the other. A rule that fails does not keep the event from the
others; the first fault is told at the end.
-/
namespace Callout

/-- A delivery under way. -/
inductive Delivery where
  /-- The rules are being listed. -/
  | listing (event : Event)
  /-- The event is being dispatched to a rule, and others are left. -/
  | dispatching (dispatch : Dispatch) (rest : List Rule) (first? : Option Fault)

namespace Delivery

/-- What a delivery waits for. -/
def demand : Delivery → Demand
  | .listing _ => .rules
  | .dispatching dispatch _ _ => dispatch.demand

/-- What a step of a delivery does: the registry after it, the tasks that it armed, and where it is then. -/
structure Outcome where
  registry : Registry
  armed : List IntervalTask := []
  progress : Progress Delivery (Except Fault Unit)

/-- The first fault as a result. -/
def result : Option Fault → Except Fault Unit
  | none => .ok ()
  | some fault => .error fault

/-- The first fault, when one more dispatch ended. -/
def joined (first? : Option Fault) : Except Fault Unit → Option Fault
  | .ok () => first?
  | .error fault => first?.or (some fault)

/-- The delivery with these rules left. -/
def proceed (registry : Registry) (event : Event) (first? : Option Fault) : List Rule → Outcome
  | [] => { registry, progress := .finished (result first?) }
  | rule :: rest =>
    if !rule.answers event then proceed registry event first? rest
    else
      match Dispatch.start registry rule event with
      | (registry, .waiting dispatch) => { registry, progress := .waiting (.dispatching dispatch rest first?) }
      | (registry, .finished outcome) => proceed registry event (joined first? outcome) rest

/-- The delivery when the rules were listed. -/
def afterListing (registry : Registry) (event : Event) : Except Fault (List Rule) → Outcome
  | .error fault => { registry, progress := .finished (.error fault) }
  | .ok rules =>
    let arming := registry.arm event rules
    { proceed arming.registry event none rules with armed := arming.armed }

/-- The delivery as far as one dispatch has come. -/
def withDispatch (event : Event) (rest : List Rule) (first? : Option Fault) : Dispatch.Outcome → Outcome
  | (registry, .waiting dispatch) => { registry, progress := .waiting (.dispatching dispatch rest first?) }
  | (registry, .finished outcome) => proceed registry event (joined first? outcome) rest

/-- The delivery after an answer. -/
def resume (settings : EngineSettings) (now : Moment) (registry : Registry) :
    (d : Delivery) → d.demand.Answer → Outcome
  | .listing event, answer => afterListing registry event answer
  | .dispatching dispatch rest first?, answer =>
    withDispatch dispatch.event rest first? (dispatch.resume settings now registry answer)

end Delivery
end Callout
