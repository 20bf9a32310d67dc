import Callout.Patterns
import Callout.Rule

/-!
Which events a rule answers: those of its type and kind whose object passes its filter. A filter whose
pattern is no pattern takes no object.
-/
namespace Callout
variable [Patterns]

/-- Whether a pattern is found in a text. No pattern, or an empty one, is found everywhere. -/
def patternFound (pattern? : Option String) (text : String) : Bool :=
  match pattern? with
  | none | some "" => true
  | some pattern =>
    match Patterns.read pattern with
    | .ok test => test text
    | .error _ => false

/-- Whether a filter takes an object. -/
def Filter.takes (f : Filter) (object : Snapshot) : Bool :=
  patternFound f.namePattern? object.name && patternFound f.namespacePattern? (object.space?.getD "") &&
    f.labels.entries.all fun (key, value) => object.labels.get? key == some value

/-- Whether a filter that may be missing takes an object. -/
def filterTakes (filter? : Option Filter) (object : Snapshot) : Bool :=
  match filter? with
  | none => true
  | some f => f.takes object

/-- Whether a rule answers an event. -/
def Rule.answers (r : Rule) (event : Event) : Bool :=
  r.spec.selector = event.type && r.spec.events.contains event.kind && filterTakes r.spec.filter? event.object

end Callout
