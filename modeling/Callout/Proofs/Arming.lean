import Callout.Engine.Arming
import Callout.Proofs.Basic
import Callout.Proofs.Token

/-!
What arming does to the registry. Sessions and claims stay as they are; each task that is armed is registered under
a key that none had, with a token below the one of the session of its type, or below the root (`Registry.arm_grows`).
Afterwards every action of a matching rule whose schedule can be read has a task (`hasTask_arm`).
-/
namespace Callout

/-- The token below which tasks are made while their type has a session, or none. -/
def Session.above (session? : Option Session) : Token := (session?.map (·.token)).getD Registry.root

/-- The token below which tasks for objects of a type are made. -/
def Registry.parentFor (r : Registry) (type : ResourceType) : Token := Session.above (r.session? type)

namespace Arming

/-- What one entry of a rule does: nothing, a note of a schedule that cannot be read, or one more task. -/
theorem action_cases {motive : Arming → Prop} (rule : Rule) (event : Event) (a : Arming) (entry : Action × Nat)
    (same : motive a) (missed : ∀ cause, motive { a with first? := a.first?.or (some cause) })
    (armed : ∀ period, a.registry.hasTask (keyFor rule event entry.2) = false →
      motive (a.register rule event (keyFor rule event entry.2) entry.1 period)) :
    motive (action rule event a entry) := by
  unfold action
  split
  · exact same
  · dsimp only
    split
    · exact same
    · rename_i free
      split
      · exact missed _
      · exact armed _ (by simpa using free)

theorem rule_induction {motive : Arming → Prop} {event : Event} {a : Arming} {rule : Rule} (start : motive a)
    (step : ∀ a, motive a → rule.answers event → ∀ entry ∈ rule.spec.actions.zipIdx,
      motive (action rule event a entry)) : motive (Arming.rule event a rule) := by
  unfold Arming.rule
  split
  · rename_i answers
    exact List.foldlRecOn _ _ start fun a holds entry member => step a holds answers entry member
  · exact start

/-- What holds before arming and is kept by each entry of a rule that answers holds after it. -/
theorem arm_induction {motive : Arming → Prop} {r : Registry} {event : Event} {rules : List Rule}
    (start : motive { registry := r })
    (step : ∀ a, motive a → ∀ rule ∈ rules, rule.answers event → ∀ entry ∈ rule.spec.actions.zipIdx,
      motive (action rule event a entry)) : motive (r.arm event rules) := by
  unfold Registry.arm
  split
  · refine List.foldlRecOn _ _ start fun a holds rule member => ?_
    exact rule_induction holds fun a holds answers entry inside => step a holds rule member answers entry inside
  · exact start

/-- The registry after one more task, with a key that none had. -/
def enrolled (r : Registry) (key : TaskKey) (type : ResourceType) : Registry :=
  { r with
    tokens := (r.tokens.child (r.parentFor type)).1,
    tasks := r.tasks ++ [(key,(r.tokens.child (r.parentFor type)).2)] }

theorem register_of_free {a : Arming} {rule : Rule} {event : Event} {key : TaskKey} {action : Action} {period : Span}
    (free : a.registry.hasTask key = false) :
    a.register rule event key action period =
      { a with
        registry := enrolled a.registry key event.type,
        armed := a.armed ++ [{
          key, period, action, event
          space := rule.id.space
          token := (a.registry.tokens.child (a.registry.parentFor event.type)).2 }] } := by
  simp [register,Registry.registerTask,free,enrolled,Registry.parentFor,Session.above]

/-- What arming for an event has done to a registry so far. -/
structure Grows (r : Registry) (event : Event) (a : Arming) : Prop where
  frame : ∃ tasks tokens, a.registry = { r with tasks, tokens }
  tasks : a.registry.tasks = r.tasks ++ a.armed.map fun task => (task.key,task.token)
  grown : a.registry.tokens.Grown
  more : r.tokens.Extends a.registry.tokens
  /-- The tasks that are armed have new keys. -/
  free : ∀ task ∈ a.armed, r.hasTask task.key = false
  /-- The tasks that are armed have new tokens below the session of the type. -/
  new : ∀ task ∈ a.armed, task.event = event ∧ a.registry.tokens.Has task.token ∧ ¬r.tokens.Has task.token ∧
    a.registry.tokens.parent? task.token = some (r.parentFor event.type) ∧
    a.registry.isCancelled task.token = r.isCancelled (r.parentFor event.type)

end Arming

/-- Arming changes nothing in a registry but tasks and tokens. -/
theorem Registry.arm_frame (r : Registry) (event : Event) (rules : List Rule) :
    ∃ tasks tokens, (r.arm event rules).registry = { r with tasks, tokens } := by
  let Framed (a : Arming) : Prop := ∃ tasks tokens, a.registry = { r with tasks, tokens }
  refine Arming.arm_induction (motive := Framed) ⟨r.tasks,r.tokens,rfl⟩ ?_
  intro a holds rule member answers entry inside
  refine Arming.action_cases (motive := Framed) rule event a entry holds (fun _ => holds) ?_
  intro period free
  obtain ⟨tasks,tokens,same⟩ := holds
  rw [Arming.register_of_free free,same]
  exact ⟨_,_,rfl⟩

namespace Arming

theorem Grows.start {r : Registry} (grown : r.tokens.Grown) (event : Event) : Grows r event { registry := r } := by
  refine ⟨⟨r.tasks,r.tokens,rfl⟩,by simp,grown,.refl _,?_,?_⟩ <;> intro task member <;> cases member

theorem Grows.register {r : Registry} {event : Event} {a : Arming} (grows : Grows r event a)
    (inside : r.tokens.Has (r.parentFor event.type)) (rule : Rule) {key : TaskKey} (action : Action) (period : Span)
    (free : a.registry.hasTask key = false) : Grows r event (a.register rule event key action period) := by
  rw [register_of_free free]
  obtain ⟨tasks,tokens,same⟩ := grows.frame
  have parent : a.registry.parentFor event.type = r.parentFor event.type := by
    rw [same]
    rfl
  have held : a.registry.tokens.Has (r.parentFor event.type) := grows.more.has _ inside
  have fresh := TokenTree.not_has_new a.registry.tokens (r.parentFor event.type)
  have unheld : r.hasTask key = false := by
    unfold Registry.hasTask at free ⊢
    rw [grows.tasks] at free
    exact lookup_eq_none_of_append free
  simp only [enrolled,parent]
  refine ⟨⟨_,_,by rw [same]⟩,by simp [grows.tasks],grows.grown.child held,grows.more.child _,?_,?_⟩
  · intro task member
    rcases List.mem_append.mp member with member | member
    · exact grows.free task member
    · cases List.mem_singleton.mp member
      exact unheld
  · intro task member
    rcases List.mem_append.mp member with member | member
    · obtain ⟨same,has,new,hangs,cancelled⟩ := grows.new task member
      refine ⟨same,TokenTree.has_child has,new,?_,?_⟩
      · rw [TokenTree.parent?_child has]
        exact hangs
      · exact (TokenTree.isCancelled_child has).trans cancelled
    · cases List.mem_singleton.mp member
      refine ⟨rfl,TokenTree.has_new _ _,?_,TokenTree.parent?_new _ _,?_⟩
      · exact fun old => fresh (grows.more.has _ old)
      · exact (TokenTree.isCancelled_new _ _).trans (grows.more.isCancelled _ inside)

end Arming

/-- What arming does to a registry: tasks with new keys are registered, with new tokens below the session of the
type. -/
theorem Registry.arm_grows {r : Registry} (grown : r.tokens.Grown) {event : Event}
    (inside : r.tokens.Has (r.parentFor event.type)) (rules : List Rule) :
    Arming.Grows r event (r.arm event rules) := by
  refine Arming.arm_induction (motive := Arming.Grows r event) (.start grown event) ?_
  intro a grows rule member answers entry _
  refine Arming.action_cases (motive := Arming.Grows r event) rule event a entry grows ?_ ?_
  · exact fun _ => ⟨grows.frame,grows.tasks,grows.grown,grows.more,grows.free,grows.new⟩
  · exact fun period free => grows.register inside rule entry.1 period free

/-! ## Every matching action has a task -/

namespace Arming

theorem hasTask_enrolled {r : Registry} {key other : TaskKey} (type : ResourceType)
    (has : r.hasTask other = true ∨ other = key) : (enrolled r key type).hasTask other = true := by
  simp only [Registry.hasTask,enrolled,List.lookup_append] at has ⊢
  rcases has with has | rfl
  · obtain ⟨token,found⟩ := Option.isSome_iff_exists.mp has
    simp [found]
  · cases r.tasks.lookup other <;> simp

theorem hasTask_action {rule : Rule} {event : Event} {a : Arming} (entry : Action × Nat) {key : TaskKey}
    (has : a.registry.hasTask key = true) : (action rule event a entry).registry.hasTask key = true := by
  refine action_cases (motive := fun a => a.registry.hasTask key = true) rule event a entry has (fun _ => has) ?_
  intro period free
  rw [register_of_free free]
  exact hasTask_enrolled event.type (.inl has)

theorem hasTask_rule {event : Event} {a : Arming} (rule : Rule) {key : TaskKey}
    (has : a.registry.hasTask key = true) : (Arming.rule event a rule).registry.hasTask key = true :=
  rule_induction (motive := fun a => a.registry.hasTask key = true) has
    fun _ has _ entry _ => hasTask_action entry has

theorem hasTask_of_schedule {rule : Rule} {event : Event} (a : Arming) {entry : Action × Nat} {raw : String}
    {period : Span} (given : schedule? entry.1 = some raw) (valid : readDuration "schedule" raw = .ok period) :
    (action rule event a entry).registry.hasTask (keyFor rule event entry.2) = true := by
  cases free : a.registry.hasTask (keyFor rule event entry.2) with
  | true => exact hasTask_action entry free
  | false =>
    simp only [action,given,free,Bool.false_eq_true,if_false,valid]
    rw [register_of_free free]
    exact hasTask_enrolled event.type (.inr rfl)

end Arming

/-- After arming, every action with a readable schedule, of every rule that answers, has a task. -/
theorem hasTask_arm {r : Registry} (started : r.started = true) {event : Event} {rules : List Rule} {rule : Rule}
    (listed : rule ∈ rules) (answers : rule.answers event = true) {action : Action} {index : Nat}
    (place : rule.spec.actions[index]? = some action) {raw : String} (given : Arming.schedule? action = some raw)
    {period : Span} (valid : readDuration "schedule" raw = .ok period) :
    (r.arm event rules).registry.hasTask (Arming.keyFor rule event index) = true := by
  let Has (a : Arming) : Prop := a.registry.hasTask (Arming.keyFor rule event index) = true
  have inside : (action,index) ∈ rule.spec.actions.zipIdx := List.mk_mem_zipIdx_iff_getElem?.mpr place
  have within (a : Arming) : Has (Arming.rule event a rule) := by
    unfold Arming.rule
    rw [if_pos answers]
    exact foldl_establishes (motive := Has) _ inside (fun a => Arming.hasTask_of_schedule a given valid)
      (fun a entry has => Arming.hasTask_action entry has) a
  unfold Registry.arm
  rw [if_pos started]
  exact foldl_establishes (motive := Has) _ listed within (fun a rule has => Arming.hasTask_rule rule has) _

end Callout
