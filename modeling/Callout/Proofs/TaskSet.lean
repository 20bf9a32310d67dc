import Mathlib.Data.List.Induction
import Callout.Proofs.Backoff
import Callout.Proofs.Independence

/-!
The tasks that an event arms, and what is told of schedules that cannot be read. Arming goes through the actions of the
rules that answer the event, in order (`Registry.arm_eq_sweep`). A key has a task afterwards if it had one or if an
action with that key has a schedule that can be read (`Arming.hasTask_sweep`), so the fault that is told is the one of
the first action whose key had no task when its turn came (`Arming.tells_sweep`). Arming once more does nothing
(`Registry.arm_task_set`).
-/
namespace Callout

namespace Arming

/-! ## Actions in order -/

/-- An action at its place in a rule. -/
structure Slot where
  rule : Rule
  action : Action
  index : Nat

namespace Slot

def key (s : Slot) (event : Event) : TaskKey := keyFor s.rule event s.index

/-- Whether a slot is an interval action with a schedule that says a period. -/
def Repeats (s : Slot) (period : Span) : Prop :=
  ∃ raw, schedule? s.action = some raw ∧ readDuration "schedule" raw = .ok period

/-- Whether a slot is an interval action with a schedule that cannot be read, and why. -/
def Fails (s : Slot) (cause : Misconfiguration) : Prop :=
  ∃ raw, schedule? s.action = some raw ∧ readDuration "schedule" raw = .error cause

theorem Repeats.positive {s : Slot} {period : Span} (repeats : s.Repeats period) : 0 < period.nanos := by
  obtain ⟨raw,_,valid⟩ := repeats
  exact (readDuration_isPause valid).positive

theorem Fails.not_repeats {s : Slot} {cause : Misconfiguration} (fails : s.Fails cause) (period : Span) :
    ¬s.Repeats period := by
  rintro ⟨raw',given',valid⟩
  obtain ⟨raw,given,invalid⟩ := fails
  cases given.symm.trans given'
  cases invalid.symm.trans valid

theorem Fails.unique {s : Slot} {cause cause' : Misconfiguration} (fails : s.Fails cause) (fails' : s.Fails cause') :
    cause = cause' := by
  obtain ⟨raw,given,invalid⟩ := fails
  obtain ⟨raw',given',invalid'⟩ := fails'
  cases given.symm.trans given'
  cases invalid.symm.trans invalid'
  rfl

end Slot

/-- The actions of the rules that answer an event: rule by rule, each with its place among all actions of its rule. -/
def slots (event : Event) (rules : List Rule) : List Slot :=
  (rules.filter (·.answers event)).flatMap fun rule =>
    rule.spec.actions.zipIdx.map fun entry => ⟨rule, entry.1, entry.2⟩

theorem mem_slots {event : Event} {rules : List Rule} {s : Slot} :
    s ∈ slots event rules ↔
      s.rule ∈ rules ∧ s.rule.answers event = true ∧ s.rule.spec.actions[s.index]? = some s.action := by
  simp only [slots,List.mem_flatMap,List.mem_filter,List.mem_map]
  constructor
  · rintro ⟨rule,⟨listed,answers⟩,⟨action,index⟩,place,rfl⟩
    exact ⟨listed,answers,List.mk_mem_zipIdx_iff_getElem?.mp place⟩
  · rintro ⟨listed,answers,place⟩
    exact ⟨s.rule,⟨listed,answers⟩,(s.action,s.index),List.mk_mem_zipIdx_iff_getElem?.mpr place,rfl⟩

/-- The slots that repeat are the ones that rules schedule. -/
theorem exists_repeats_iff {event : Event} {rules : List Rule} {key : TaskKey} :
    (∃ s ∈ slots event rules, s.key event = key ∧ ∃ period, s.Repeats period) ↔
      ∃ rule ∈ rules, rule.Schedules event key := by
  constructor
  · rintro ⟨s,inside,rfl,period,raw,given,valid⟩
    obtain ⟨listed,answers,place⟩ := mem_slots.mp inside
    have placed := List.mk_mem_zipIdx_iff_getElem?.mpr place
    exact ⟨s.rule,listed,answers,(s.action,s.index),placed,rfl,raw,period,given,valid⟩
  · rintro ⟨rule,listed,answers,⟨action,index⟩,place,rfl,raw,period,given,valid⟩
    have inside : ⟨rule,action,index⟩ ∈ slots event rules :=
      mem_slots.mpr ⟨listed,answers,List.mk_mem_zipIdx_iff_getElem?.mp place⟩
    exact ⟨_,inside,rfl,period,raw,given,valid⟩

/-- Arming with one more action. -/
def take (event : Event) (a : Arming) (s : Slot) : Arming := action s.rule event a (s.action, s.index)

/-- Arming with some actions, from a registry on. -/
def sweep (r : Registry) (event : Event) (slots : List Slot) : Arming := slots.foldl (take event) { registry := r }

theorem sweep_concat (r : Registry) (event : Event) (slots : List Slot) (s : Slot) :
    sweep r event (slots ++ [s]) = take event (sweep r event slots) s := by
  simp only [sweep,List.foldl_append,List.foldl_cons,List.foldl_nil]

end Arming

theorem Registry.arm_eq_sweep {r : Registry} (started : r.started = true) (event : Event) (rules : List Rule) :
    r.arm event rules = Arming.sweep r event (Arming.slots event rules) := by
  rw [arm,if_pos started,Arming.sweep,Arming.slots,List.foldl_flatMap,List.foldl_filter]
  simp only [List.foldl_map]
  rfl

namespace Arming

/-! ## The keys that have a task -/

section
variable {event : Event} {a : Arming} {s : Slot}

theorem take_of_repeats {period : Span} (repeats : s.Repeats period)
    (free : a.registry.hasTask (s.key event) = false) :
    take event a s = a.register s.rule event (s.key event) s.action period := by
  obtain ⟨raw,given,valid⟩ := repeats
  simp only [Slot.key] at free
  simp only [take,action,given,free,Bool.false_eq_true,if_false,valid,Slot.key]

theorem take_of_fails {cause : Misconfiguration} (fails : s.Fails cause)
    (free : a.registry.hasTask (s.key event) = false) :
    take event a s = { a with first? := a.first?.or (some cause) } := by
  obtain ⟨raw,given,invalid⟩ := fails
  simp only [Slot.key] at free
  simp only [take,action,given,free,Bool.false_eq_true,if_false,invalid]

/-- An action is passed over if its key has a task, or if there is nothing to schedule. -/
theorem take_of_passed (passed : a.registry.hasTask (s.key event) = true ∨ schedule? s.action = none) :
    take event a s = a := by
  rcases passed with held | none
  · simp only [Slot.key] at held
    simp only [take,action,held,if_true]
    split <;> rfl
  · simp only [take,action,none]

/-- What one action does, by its schedule and by whether its key has a task. -/
theorem take_cases {motive : Arming → Prop} (event : Event) (a : Arming) (s : Slot)
    (passed : a.registry.hasTask (s.key event) = true ∨ schedule? s.action = none → motive a)
    (fails : ∀ cause, s.Fails cause → a.registry.hasTask (s.key event) = false →
      motive { a with first? := a.first?.or (some cause) })
    (repeats : ∀ period, s.Repeats period → a.registry.hasTask (s.key event) = false →
      motive (a.register s.rule event (s.key event) s.action period)) :
    motive (take event a s) := by
  cases held : a.registry.hasTask (s.key event) with
  | true =>
    rw [take_of_passed (.inl held)]
    exact passed (.inl held)
  | false =>
    cases given : schedule? s.action with
    | none =>
      rw [take_of_passed (.inr given)]
      exact passed (.inr given)
    | some raw =>
      cases read : readDuration "schedule" raw with
      | error cause =>
        rw [take_of_fails ⟨raw,given,read⟩ held]
        exact fails cause ⟨raw,given,read⟩ held
      | ok period =>
        rw [take_of_repeats ⟨raw,given,read⟩ held]
        exact repeats period ⟨raw,given,read⟩ held

theorem hasTask_take (event : Event) (a : Arming) (s : Slot) (key : TaskKey) :
    (take event a s).registry.hasTask key = true ↔
      a.registry.hasTask key = true ∨ s.key event = key ∧ ∃ period, s.Repeats period := by
  refine take_cases (motive := fun a' => a'.registry.hasTask key = true ↔
    a.registry.hasTask key = true ∨ s.key event = key ∧ ∃ period, s.Repeats period) event a s ?_ ?_ ?_
  · rintro (held | none)
    · exact ⟨.inl,fun has => has.elim id fun same => same.1 ▸ held⟩
    · refine ⟨.inl,fun has => has.elim id fun repeats => ?_⟩
      obtain ⟨_,_,_,given,_⟩ := repeats
      cases none.symm.trans given
  · intro cause fails free
    exact ⟨.inl,fun has => has.elim id fun ⟨_,period,repeats⟩ => (fails.not_repeats period repeats).elim⟩
  · intro period repeats free
    rw [register_of_free free]
    refine ⟨fun has => ?_,fun has => hasTask_enrolled event.type (has.imp_right fun same => same.1.symm)⟩
    by_cases same : s.key event = key
    · exact .inr ⟨same,period,repeats⟩
    · refine .inl ?_
      rw [Registry.hasTask_iff] at has ⊢
      simpa [enrolled,Ne.symm same] using has

end

theorem hasTask_sweep (r : Registry) (event : Event) (slots : List Slot) (key : TaskKey) :
    (sweep r event slots).registry.hasTask key = true ↔
      r.hasTask key = true ∨ ∃ s ∈ slots, s.key event = key ∧ ∃ period, s.Repeats period := by
  induction slots using List.reverseRecOn with
  | nil => simp [sweep]
  | append_singleton slots s ih =>
    rw [sweep_concat,hasTask_take,ih,or_assoc]
    simp only [List.mem_append,List.mem_singleton,or_and_right,exists_or,exists_eq_left]

/-- Arming changes no registry in which all keys that could get a task have one. -/
theorem registry_sweep {r : Registry} {event : Event} {slots : List Slot}
    (full : ∀ s ∈ slots, ∀ period, s.Repeats period → r.hasTask (s.key event) = true) :
    (sweep r event slots).registry = r := by
  refine List.foldlRecOn (motive := fun a : Arming => a.registry = r) slots (take event) rfl fun a same s inside => ?_
  refine take_cases (motive := fun a => a.registry = r) event a s (fun _ => same) (fun _ _ _ => same) ?_
  intro period repeats free
  rw [same,full s inside period repeats] at free
  cases free

/-! ## The fault that is told -/

/-- Whether arming misses a slot, after some earlier ones: the schedule cannot be read, and the key has no task, neither
one from before nor one of an earlier slot. -/
def Missed (r : Registry) (event : Event) (earlier : List Slot) (s : Slot) (cause : Misconfiguration) : Prop :=
  s.Fails cause ∧ r.hasTask (s.key event) = false ∧
    ∀ e ∈ earlier, e.key event = s.key event → ∀ period, ¬e.Repeats period

theorem missed_iff {r : Registry} {event : Event} {earlier : List Slot} {s : Slot} {cause : Misconfiguration} :
    Missed r event earlier s cause ↔
      s.Fails cause ∧ (sweep r event earlier).registry.hasTask (s.key event) = false := by
  refine and_congr_right fun _ => ?_
  rw [Bool.eq_false_iff,Bool.eq_false_iff,ne_eq,ne_eq,hasTask_sweep,not_or]
  simp only [not_exists,not_and]

/-- Whether no slot is missed. -/
def Clear (missed : List Slot → Slot → Misconfiguration → Prop) (slots : List Slot) : Prop :=
  ∀ before s after cause, slots = before ++ s :: after → ¬missed before s cause

/-- Whether a result tells the first slot that is missed, or that none is. -/
inductive Tells (missed : List Slot → Slot → Misconfiguration → Prop) (slots : List Slot) :
    Except Fault Unit → Prop where
  | none (clear : Clear missed slots) : Tells missed slots (.ok ())
  | first {before after : List Slot} {s : Slot} {cause : Misconfiguration} (place : slots = before ++ s :: after)
      (clear : Clear missed before) (first : missed before s cause) : Tells missed slots (.error (.config cause))

section
variable {missed : List Slot → Slot → Misconfiguration → Prop} {slots : List Slot} {s : Slot}

theorem Clear.concat (clear : Clear missed slots) (last : ∀ cause, ¬missed slots s cause) :
    Clear missed (slots ++ [s]) := by
  intro before s' after cause place
  rcases List.eq_nil_or_concat after with rfl | ⟨after,s'',rfl⟩
  · obtain ⟨rfl,same⟩ := List.append_inj' place rfl
    cases same
    exact last cause
  · rw [List.concat_eq_append,← List.cons_append,← List.append_assoc] at place
    exact clear before s' after cause (List.append_inj' place rfl).1

theorem Tells.concat {result : Except Fault Unit} (tells : Tells missed slots result)
    (last : ∀ cause, result = .ok () → ¬missed slots s cause) : Tells missed (slots ++ [s]) result := by
  cases tells with
  | none clear => exact .none (clear.concat fun cause => last cause rfl)
  | first place clear first =>
    subst place
    exact .first (List.append_assoc _ _ _) clear first

theorem Tells.map {missed' : List Slot → Slot → Misconfiguration → Prop} {result : Except Fault Unit}
    (tells : Tells missed slots result)
    (same : ∀ before s after cause, slots = before ++ s :: after → (missed before s cause ↔ missed' before s cause)) :
    Tells missed' slots result := by
  cases tells with
  | none clear =>
    refine .none fun before s after cause place => ?_
    rw [← same before s after cause place]
    exact clear before s after cause place
  | @first before after s cause place clear first =>
    refine .first place (fun before' s' after' cause' place' => ?_) ((same before s after cause place).mp first)
    rw [← same before' s' (after' ++ s :: after) cause' (by simp [place,place'])]
    exact clear before' s' after' cause' place'

/-- A slot that is missed is not among others of which none is. -/
theorem Clear.nil_of_missed {before between after after' : List Slot} {s' : Slot} {cause : Misconfiguration}
    (clear : Clear missed (before ++ between)) (same : s :: after = between ++ s' :: after')
    (first : missed before s cause) : between = [] ∧ s = s' := by
  cases between with
  | nil =>
    cases same
    exact ⟨rfl,rfl⟩
  | cons _ between =>
    cases same
    exact (clear _ _ _ _ rfl first).elim

/-- The result is determined if the reason why a slot is missed is. -/
theorem Tells.unique (unique : ∀ before s cause cause', missed before s cause → missed before s cause' → cause = cause')
    {result result' : Except Fault Unit} (tells : Tells missed slots result) (tells' : Tells missed slots result') :
    result = result' := by
  cases tells with
  | none clear =>
    cases tells' with
    | none => rfl
    | first place _ first => exact (clear _ _ _ _ place first).elim
  | @first before after s cause place clear first =>
    cases tells' with
    | none clear' => exact (clear' _ _ _ _ place first).elim
    | @first before' after' s' cause' place' clear' first' =>
      subst place
      rcases List.append_eq_append_iff.mp place' with ⟨between,rfl,same⟩ | ⟨between,rfl,same⟩
      · obtain ⟨rfl,rfl⟩ := clear'.nil_of_missed same first
        rw [List.append_nil] at first'
        rw [unique _ _ _ _ first first']
      · obtain ⟨rfl,rfl⟩ := clear.nil_of_missed same first'
        rw [List.append_nil] at first
        rw [unique _ _ _ _ first first']

end

/-- The fault of the first slot that is missed is told. -/
theorem tells_sweep (r : Registry) (event : Event) (slots : List Slot) :
    Tells (Missed r event) slots (sweep r event slots).result := by
  induction slots using List.reverseRecOn with
  | nil => exact .none fun before s after cause place => by simp at place
  | append_singleton slots s ih =>
    rw [sweep_concat]
    refine take_cases (motive := fun a => Tells (Missed r event) (slots ++ [s]) a.result) event (sweep r event slots) s
      (fun passed => ?_) (fun cause fails free => ?_) (fun period repeats free => ?_)
    · refine ih.concat fun cause _ missed => ?_
      obtain ⟨⟨raw,given,_⟩,free⟩ := missed_iff.mp missed
      rcases passed with held | none
      · cases held.symm.trans free
      · cases none.symm.trans given
    · have missed : Missed r event slots s cause := missed_iff.mpr ⟨fails,free⟩
      -- a fault that was found before is told, and else this one is
      generalize sweep r event slots = a at ih
      obtain ⟨registry,armed,first?⟩ := a
      cases first? with
      | none =>
        cases ih with
        | none clear => exact .first rfl clear missed
      | some earlier => exact ih.concat fun cause well => by cases well
    · rw [register_of_free free]
      exact ih.concat fun cause _ missed => missed.1.not_repeats period repeats

/-- What has one key is one action, if all rules of a name have the same actions. -/
theorem Slot.repeats_of_key {event : Event} {rules : List Rule}
    (same : ∀ rule ∈ rules, ∀ rule' ∈ rules, rule.id = rule'.id → rule.spec.actions = rule'.spec.actions)
    {s e : Slot} (inside : s ∈ slots event rules) (other : e ∈ slots event rules) (key : e.key event = s.key event)
    {period : Span} (repeats : e.Repeats period) : s.Repeats period := by
  obtain ⟨listed,_,place⟩ := mem_slots.mp inside
  obtain ⟨listed',_,place'⟩ := mem_slots.mp other
  simp only [Slot.key,keyFor,TaskKey.mk.injEq] at key
  rw [key.2.2.1,same e.rule listed' s.rule listed key.1,place] at place'
  obtain ⟨raw,given,valid⟩ := repeats
  exact ⟨raw,(congrArg schedule? (Option.some.inj place')).trans given,valid⟩

end Arming

namespace Registry

section
variable {r : Registry} (started : r.started = true) (event : Event) (rules : List Rule)
include started

theorem hasTask_arm_iff (key : TaskKey) :
    (r.arm event rules).registry.hasTask key = true ↔
      r.hasTask key = true ∨ ∃ s ∈ Arming.slots event rules, s.key event = key ∧ ∃ period, s.Repeats period := by
  rw [arm_eq_sweep started]
  exact Arming.hasTask_sweep r event _ key

/-- The keys of the tasks that are armed: those that had none, of actions with a schedule that can be read. -/
theorem mem_armed_iff (key : TaskKey) :
    key ∈ (r.arm event rules).armed.map (·.key) ↔
      r.hasTask key = false ∧
        ∃ s ∈ Arming.slots event rules, s.key event = key ∧ ∃ period, s.Repeats period ∧ 0 < period.nanos := by
  have positive (s : Arming.Slot) :
      (∃ period, s.Repeats period ∧ 0 < period.nanos) ↔ ∃ period, s.Repeats period :=
    exists_congr fun period => and_iff_left_of_imp Arming.Slot.Repeats.positive
  simp only [mem_arm_keys,← Arming.exists_repeats_iff,started,true_and,positive]

/-- The fault of the first action that is missed is told. -/
theorem arm_tells : Arming.Tells (Arming.Missed r event) (Arming.slots event rules) (r.arm event rules).result := by
  rw [arm_eq_sweep started]
  exact Arming.tells_sweep r event _

theorem started_arm : (r.arm event rules).registry.started = true := by
  obtain ⟨tasks,tokens,same⟩ := r.arm_frame event rules
  rw [same]
  exact started

/-- Arming once more does nothing, and misses what has no task still. -/
theorem arm_again :
    ((r.arm event rules).registry.arm event rules).registry = (r.arm event rules).registry ∧
      Arming.Tells (fun _ s cause => s.Fails cause ∧ (r.arm event rules).registry.hasTask (s.key event) = false)
        (Arming.slots event rules) ((r.arm event rules).registry.arm event rules).result := by
  have full (s : Arming.Slot) (inside : s ∈ Arming.slots event rules) (period : Span) (repeats : s.Repeats period) :
      (r.arm event rules).registry.hasTask (s.key event) = true :=
    (hasTask_arm_iff started event rules _).mpr (.inr ⟨s,inside,rfl,period,repeats⟩)
  rw [arm_eq_sweep (started_arm started event rules)]
  refine ⟨Arming.registry_sweep full,(Arming.tells_sweep _ event _).map fun before s after cause place => ?_⟩
  refine ⟨fun missed => ⟨missed.1,missed.2.1⟩,fun ⟨fails,free⟩ => ⟨fails,free,fun e earlier key period repeats => ?_⟩⟩
  have held := full e (by simp [place,earlier]) period repeats
  rw [key,free] at held
  cases held

theorem arm_again_result
    (same : ∀ rule ∈ rules, ∀ rule' ∈ rules, rule.id = rule'.id → rule.spec.actions = rule'.spec.actions) :
    ((r.arm event rules).registry.arm event rules).result = (r.arm event rules).result := by
  refine (arm_again started event rules).2.unique (fun _ _ _ _ missed missed' => missed.1.unique missed'.1) ?_
  refine (arm_tells started event rules).map fun before s after cause place => and_congr_right fun fails => ?_
  have inside : s ∈ Arming.slots event rules := by simp [place]
  rw [Bool.eq_false_iff (b := (r.arm event rules).registry.hasTask _),ne_eq,hasTask_arm_iff started,not_or,
    Bool.eq_false_iff,ne_eq]
  refine and_congr_right fun _ => ⟨fun _ => ?_,fun none e earlier key period repeats => ?_⟩
  · rintro ⟨e,other,key,period,repeats⟩
    exact fails.not_repeats period (Arming.Slot.repeats_of_key same inside other key repeats)
  · exact none ⟨e,by simp [place,earlier],key,period,repeats⟩

end

/-- Take any registry, event and rules. Before the first session nothing is armed, and all is well. Later on, the tasks
that are armed are added to those that were there. They have the keys that had no task, of interval actions with a
schedule that can be read, each key once. What is told is the first action, rule by rule, whose schedule cannot be read
and whose key has no task when its turn comes. Arming once more changes nothing, and tells the first such action whose
key has no task still; so it tells the same if rules of one name have the same actions. -/
theorem arm_task_set (r : Registry) (event : Event) (rules : List Rule) :
    let slots := Arming.slots event rules
    let first := r.arm event rules
    let again := first.registry.arm event rules
    (r.started = false → first.registry = r ∧ first.result = .ok ()) ∧
      (r.started = true →
        first.registry.tasks = r.tasks ++ first.armed.map (fun task => (task.key,task.token)) ∧
        (first.armed.map (·.key)).Nodup ∧
        (∀ key, key ∈ first.armed.map (·.key) ↔
          r.hasTask key = false ∧ ∃ s ∈ slots, s.key event = key ∧ ∃ period, s.Repeats period ∧ 0 < period.nanos) ∧
        (∀ key, r.hasTask key = true → first.registry.tasks.lookup key = r.tasks.lookup key) ∧
        Arming.Tells (Arming.Missed r event) slots first.result ∧
        again.registry = first.registry ∧
        Arming.Tells (fun _ s cause => s.Fails cause ∧ first.registry.hasTask (s.key event) = false) slots
          again.result ∧
        ((∀ rule ∈ rules, ∀ rule' ∈ rules, rule.id = rule'.id → rule.spec.actions = rule'.spec.actions) →
          again.result = first.result)) := by
  intro slots first again
  refine ⟨fun idle => ?_,fun started => ?_⟩
  · have same : first = { registry := r } := if_neg (by simp [idle])
    rw [same]
    exact ⟨rfl,rfl⟩
  obtain ⟨unchanged,told⟩ := arm_again started event rules
  refine ⟨r.arm_tasks event rules,(r.arm_fresh event rules).1,mem_armed_iff started event rules,fun key held => ?_,
    arm_tells started event rules,unchanged,told,arm_again_result started event rules⟩
  obtain ⟨token,found⟩ := Option.isSome_iff_exists.mp held
  rw [show first.registry.tasks = _ from r.arm_tasks event rules,List.lookup_append,found,Option.some_or]

end Registry

namespace Sample

/-- A rule with an action to run once, and actions with a schedule that cannot be read, a blank one and one that can. -/
def motleyRule : Rule where
  metadata := onceRule.metadata
  spec :=
    { onceRule.spec with
      actions :=
        [{ url := "http://hook/once" }, { url := "http://hook/beat", mode := .interval, schedule? := some "soon" },
          { url := "http://hook/beat", mode := .interval, schedule? := some " " }, beat] }

/-- The rule is listed twice. One task is armed, for the fourth action, and the schedule of the second one is told, also
when the rules are armed again. -/
theorem arm_task_set_motley :
    let r := ({} : Registry).opened type target
    let first := r.arm event [motleyRule,motleyRule]
    r.started = true ∧ first.armed.map (·.key) = [⟨⟨"default","r"⟩,"uid-a",3,.create⟩] ∧
      first.result = .error (.config (.duration "schedule" "soon" (.numberExpected 0))) ∧
      (first.registry.arm event [motleyRule,motleyRule]).registry = first.registry ∧
      (first.registry.arm event [motleyRule,motleyRule]).result = first.result := by
  intro r first
  obtain ⟨_,started⟩ := Registry.arm_task_set r event [motleyRule,motleyRule]
  obtain ⟨_,_,_,_,_,unchanged,_,same⟩ := started rfl
  exact ⟨rfl,rfl,rfl,unchanged,same (by simp)⟩

/-- A rule whose schedule cannot be read. -/
def vagueRule : Rule := rule { url := "http://hook/beat", mode := .interval, schedule? := some "soon" }

/-- The rule of that name with a schedule that can be read gets the task, so the one whose schedule cannot is told the
first time only. -/
theorem arm_again_differs :
    let r := ({} : Registry).opened type target
    let first := r.arm event [vagueRule,rule beat]
    r.started = true ∧ first.result = .error (.config (.duration "schedule" "soon" (.numberExpected 0))) ∧
      (first.registry.arm event [vagueRule,rule beat]).result = .ok () :=
  ⟨rfl,rfl,rfl⟩

end Sample
end Callout
