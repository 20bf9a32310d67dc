import Callout.Proofs.Enrollment
import Callout.Proofs.Outside

/-!
An event delivered to all rules, with the store, the secrets and the executor of each apart from those of the others.
What comes of a rule is what comes of it when the event is delivered to it alone, so the order of the rules matters
only for which fault is told: that of the first rule that fails (`Delivers.independent`).
-/
namespace Callout

/-! ## Deliveries from the list of rules to their end -/

/-- What comes of a delivery: the registry, the states outside, the calls in order, and the result. -/
structure Aftermath (τ : Type) where
  registry : Registry
  site : RuleId → τ
  calls : List Call
  result : Except Fault Unit

/-- The states outside, with another one for one rule. -/
def putAt {τ : Type} (s : RuleId → τ) (id : RuleId) (t : τ) : RuleId → τ :=
  fun other => if other = id then t else s other

/-- A delivery with nothing else beside it, from some time on to its end. What each rule is answered depends on the
state of its own site. -/
inductive Conduct {τ : Type} (o : Outside τ) (settings : EngineSettings) (clock : Nat → Moment) :
    Nat → (RuleId → τ) → Registry → Progress Delivery (Except Fault Unit) → Aftermath τ → Prop where
  | ended {n : Nat} {s : RuleId → τ} {registry : Registry} {result : Except Fault Unit} :
      Conduct o settings clock n s registry (.finished result) ⟨registry, s, [], result⟩
  | goes {n : Nat} {s : RuleId → τ} {registry : Registry} {d : Dispatch} {rest : List Rule} {first? : Option Fault}
      {out : Delivery.Outcome} {a : Aftermath τ}
      (went : (Delivery.dispatching d rest first?).resume settings (clock n) registry (o.answer (s d.rule.id) d).1 =
        out)
      (onward : Conduct o settings clock (n + 1) (putAt s d.rule.id (o.answer (s d.rule.id) d).2) out.registry
        out.progress a) :
      Conduct o settings clock n s registry (.waiting (.dispatching d rest first?))
        { a with calls := d.call?.toList ++ a.calls }

/-- An event is delivered to the rules that are listed, and this comes of it. -/
def Delivers {τ : Type} (o : Outside τ) (settings : EngineSettings) (clock : Nat → Moment) (registry : Registry)
    (s : RuleId → τ) (event : Event) (rules : List Rule) (a : Aftermath τ) : Prop :=
  Conduct o settings clock 1 s ((Delivery.listing event).resume settings (clock 0) registry (Except.ok rules)).registry
    ((Delivery.listing event).resume settings (clock 0) registry (Except.ok rules)).progress a

section
variable {τ : Type}

@[simp] theorem putAt_self (s : RuleId → τ) (id : RuleId) (t : τ) : putAt s id t id = t := if_pos rfl

theorem putAt_of_ne (s : RuleId → τ) {id other : RuleId} (t : τ) (apart : other ≠ id) : putAt s id t other = s other :=
  if_neg apart

@[simp] theorem putAt_same (s : RuleId → τ) (id : RuleId) : putAt s id (s id) = s := by
  funext other
  unfold putAt
  split
  · rename_i same
    rw [same]
  · rfl

@[simp] theorem putAt_putAt (s : RuleId → τ) (id : RuleId) (t t' : τ) :
    putAt (putAt s id t) id t' = putAt s id t' := by
  funext other
  unfold putAt
  split <;> rfl

end

/-! ## One rule after the other -/

namespace Conduct
variable {τ : Type} {o : Outside τ} {settings : EngineSettings} {clock : Nat → Moment}

/-- A delivery goes on with the next rules when the dispatch under way has run its course. -/
theorem of_course {n : Nat} {t : τ} {d : Dispatch} {v : Verdict τ} (course : d.Course o settings clock n t v)
    {s : RuleId → τ} (here : s d.rule.id = t) (registry : Registry) (rest : List Rule) (first? : Option Fault)
    (a : Aftermath τ) :
    Conduct o settings clock n s registry (.waiting (.dispatching d rest first?)) a ↔
      ∃ a', a = { a' with calls := v.calls ++ a'.calls } ∧
        Conduct o settings clock v.time (putAt s d.rule.id v.after)
          (Delivery.proceed (registry.leave v.kept d.claim) d.event (Delivery.joined first? v.result) rest).registry
          (Delivery.proceed (registry.leave v.kept d.claim) d.event (Delivery.joined first? v.result) rest).progress
          a' := by
  induction course generalizing s registry a with
  | @ended n t d kept result finishes =>
    subst here
    have step : (Delivery.dispatching d rest first?).resume settings (clock n) registry (o.answer (s d.rule.id) d).1 =
        Delivery.proceed (registry.leave kept d.claim) d.event (Delivery.joined first? result) rest := by
      change Delivery.withDispatch d.event rest first? (d.resume settings (clock n) registry _) = _
      rw [finishes]
      rfl
    constructor
    · intro conduct
      cases conduct with
      | goes went onward =>
        cases step.symm.trans went
        exact ⟨_,rfl,onward⟩
    · rintro ⟨a',rfl,onward⟩
      exact .goes step onward
  | @goes n t d d' v goes _ ih =>
    subst here
    have step : (Delivery.dispatching d rest first?).resume settings (clock n) registry (o.answer (s d.rule.id) d).1 =
        { registry, progress := .waiting (.dispatching d' rest first?) } := by
      change Delivery.withDispatch d.event rest first? (d.resume settings (clock n) registry _) = _
      rw [goes]
      rfl
    obtain ⟨_,goesOn⟩ := Dispatch.resume_waiting (goes registry)
    have claim : d'.claim = d.claim := by simp only [Dispatch.claim,goesOn.rule,goesOn.event]
    have here : putAt s d.rule.id (o.answer (s d.rule.id) d).2 d'.rule.id = (o.answer (s d.rule.id) d).2 := by
      rw [goesOn.rule,putAt_self]
    have onward := ih here registry
    simp only [goesOn.rule,goesOn.event,claim,putAt_putAt] at onward
    constructor
    · intro conduct
      cases conduct with
      | goes went later =>
        cases step.symm.trans went
        obtain ⟨a',rfl,rest⟩ := (onward _).mp later
        exact ⟨a',by rw [List.append_assoc],rest⟩
    · rintro ⟨a',rfl,rest⟩
      have conduct := Conduct.goes step ((onward _).mpr ⟨a',rfl,rest⟩)
      rw [← List.append_assoc] at conduct
      exact conduct

end Conduct

/-- Whether a rule is passed over for an event: it does not answer it, or the execution is recorded or claimed. -/
def Rule.Passes (rule : Rule) (event : Event) (claims : List ClaimKey) : Prop :=
  rule.answers event = false ∨ rule.hasExecuted event.object.identity event.kind = true ∨
    Dispatch.claimFor rule event ∈ claims

namespace Delivery

theorem proceed_passed {registry : Registry} {event : Event} {rule : Rule} (passes : rule.Passes event registry.claims)
    (first? : Option Fault) (rest : List Rule) :
    proceed registry event first? (rule :: rest) = proceed registry event first? rest := by
  rw [proceed]
  split
  · rfl
  · rename_i answers
    have started : Dispatch.start registry rule event = (registry,.finished (.ok ())) := by
      unfold Dispatch.start
      rcases passes with ignored | executed | claimed
      · simp [ignored] at answers
      · rw [if_pos executed]
      · split
        · rfl
        · simp [Registry.claim,claimed]
    rw [started]
    rfl

theorem proceed_dispatched {registry : Registry} {event : Event} {rule : Rule}
    (passes : ¬rule.Passes event registry.claims) (first? : Option Fault) (rest : List Rule) :
    proceed registry event first? (rule :: rest) =
      { registry := { registry with claims := registry.claims ++ [Dispatch.claimFor rule event] },
        progress := .waiting (.dispatching { rule, event } rest first?) } := by
  simp only [Rule.Passes,not_or,Bool.not_eq_false,Bool.not_eq_true] at passes
  obtain ⟨answers,new,free⟩ := passes
  rw [proceed]
  simp [answers,Dispatch.start,new,Registry.claim,free]

end Delivery

/-- What comes of a rule with its own site, when its turn comes at some time: nothing, or a dispatch runs its course. -/
inductive Handles {τ : Type} (o : Outside τ) (settings : EngineSettings) (clock : Nat → Moment) (event : Event)
    (claims : List ClaimKey) (t : τ) (rule : Rule) : Verdict τ → Prop where
  | passed {n : Nat} (passes : rule.Passes event claims) :
      Handles o settings clock event claims t rule ⟨n, t, [], false, .ok ()⟩
  | dispatched {n : Nat} {v : Verdict τ} (passes : ¬rule.Passes event claims)
      (course : Dispatch.Course o settings clock n t { rule, event } v) :
      Handles o settings clock event claims t rule v

namespace Handles
variable {τ : Type} {o : Outside τ} {Same : τ → τ → Prop} {settings : EngineSettings} {clock clock' : Nat → Moment}
variable {event : Event} {claims : List ClaimKey} {t : τ} {rule : Rule} {v v' : Verdict τ}

/-- What comes of a rule does not depend on when its turn comes. -/
theorem alike (timeless : o.Timeless Same) (handles : Handles o settings clock event claims t rule v)
    (handles' : Handles o settings clock' event claims t rule v') : v.Alike Same v' := by
  cases handles with
  | passed passes =>
    cases handles' with
    | passed _ => exact ⟨timeless.refl t,rfl,rfl,rfl⟩
    | dispatched other _ => exact (other passes).elim
  | dispatched passes course =>
    cases handles' with
    | passed other => exact (passes other).elim
    | dispatched _ course' => exact course.alike timeless course' ⟨rfl,rfl,.same _⟩ (timeless.refl t)

/-- A rule that does not answer, or whose ledger has the record, keeps its stored copy. -/
theorem unchanged (steadfast : o.Steadfast) (handles : Handles o settings clock event claims t rule v)
    (quiet : rule.answers event = false ∨ rule.hasExecuted event.object.identity event.kind = true ∨
      ∃ stored, o.stored? t = some stored ∧ stored.hasExecuted event.object.identity event.kind = true) :
    o.stored? v.after = o.stored? t := by
  cases handles with
  | passed _ => rfl
  | dispatched passes course =>
    rcases quiet with ignored | executed | ⟨stored,now,executed⟩
    · exact (passes (.inl ignored)).elim
    · exact (passes (.inr (.inl executed))).elim
    · exact course.unchanged steadfast now executed

end Handles

/-! ## All rules together -/

/-- The fault of a result. -/
def faultOf : Except Fault Unit → Option Fault
  | .ok () => none
  | .error fault => some fault

theorem joined_eq (first? : Option Fault) (result : Except Fault Unit) :
    Delivery.joined first? result = first?.or (faultOf result) := by
  cases result with
  | ok _ => simp [Delivery.joined,faultOf]
  | error fault => rfl

/-- What comes of a delivery is put together from what comes of each rule. -/
structure Aftermath.Sums {τ : Type} (a : Aftermath τ) (registry : Registry) (s : RuleId → τ) (event : Event)
    (first? : Option Fault) (rules : List Rule) (v : RuleId → Verdict τ) : Prop where
  registry : a.registry = { registry with
    claims := registry.claims ++ (rules.filter fun r => (v r.id).kept).map (Dispatch.claimFor · event) }
  site : ∀ rule ∈ rules, a.site rule.id = (v rule.id).after
  others : ∀ id, id ∉ rules.map Rule.id → a.site id = s id
  calls : a.calls = (rules.map fun r => (v r.id).calls).flatten
  result : a.result = Delivery.result (first?.or ((rules.map fun r => (v r.id).result).findSome? faultOf))

namespace Aftermath.Sums
variable {τ : Type} {a : Aftermath τ} {registry : Registry} {s : RuleId → τ} {event : Event} {first? : Option Fault}
variable {rule : Rule} {rest : List Rule} {v : RuleId → Verdict τ}

theorem nothing (registry : Registry) (s : RuleId → τ) (event : Event) (first? : Option Fault)
    (v : RuleId → Verdict τ) : Sums ⟨registry,s,[],Delivery.result first?⟩ registry s event first? [] v :=
  ⟨by simp,fun _ member => (by cases member),fun _ _ => rfl,rfl,by simp⟩

/-- One rule, and then the others. -/
theorem cons (apart : rule.id ∉ rest.map Rule.id) (first : Verdict τ)
    (sums : a.Sums
      { registry with claims := registry.claims ++ if first.kept then [Dispatch.claimFor rule event] else [] }
      (putAt s rule.id first.after) event (first?.or (faultOf first.result)) rest v) :
    Sums { a with calls := first.calls ++ a.calls } registry s event first? (rule :: rest) (putAt v rule.id first) := by
  have ne : ∀ r ∈ rest, r.id ≠ rule.id := fun r member same => apart (List.mem_map.mpr ⟨r,member,same⟩)
  have same : ∀ r ∈ rest, putAt v rule.id first r.id = v r.id := fun r member => putAt_of_ne v first (ne r member)
  refine ⟨?_,?_,?_,?_,?_⟩
  · have kept : (rest.filter fun r => (putAt v rule.id first r.id).kept) = rest.filter fun r => (v r.id).kept :=
      List.filter_congr fun r member => by rw [same r member]
    rw [sums.registry,List.filter_cons,putAt_self,kept]
    split <;> simp
  · intro r member
    rcases List.mem_cons.mp member with rfl | member
    · rw [putAt_self,sums.others _ apart,putAt_self]
    · rw [same r member]
      exact sums.site r member
  · intro id absent
    simp only [List.map_cons,List.mem_cons,not_or] at absent
    rw [sums.others id absent.2]
    exact putAt_of_ne s _ absent.1
  · have calls : (rest.map fun r => (putAt v rule.id first r.id).calls) = rest.map fun r => (v r.id).calls :=
      List.map_congr_left fun r member => by rw [same r member]
    rw [List.map_cons,List.flatten_cons,putAt_self,calls,← sums.calls]
  · have results : (rest.map fun r => (putAt v rule.id first r.id).result) = rest.map fun r => (v r.id).result :=
      List.map_congr_left fun r member => by rw [same r member]
    rw [sums.result,List.map_cons,List.findSome?_cons,putAt_self,results]
    cases faultOf first.result <;> simp

end Aftermath.Sums

namespace Conduct
variable {τ : Type} {o : Outside τ} {settings : EngineSettings} {clock : Nat → Moment}

/-- A dispatch leaves its claim or takes it back. -/
theorem leave_claimed (registry : Registry) {key : ClaimKey} (free : key ∉ registry.claims) (kept : Bool) :
    ({ registry with claims := registry.claims ++ [key] } : Registry).leave kept key =
      { registry with claims := registry.claims ++ if kept then [key] else [] } := by
  cases kept with
  | true => rfl
  | false =>
    have others : ∀ other ∈ registry.claims, other ≠ key := fun other member same => free (by rw [← same]; exact member)
    simpa [Registry.leave,Registry.release] using others

/-- What comes of a delivery to rules with names and identifiers of their own is put together from what comes of
each. -/
theorem sums {rules : List Rule} (ids : (rules.map Rule.id).Nodup) (uids : (rules.map Rule.incarnation).Nodup)
    {n : Nat} {s : RuleId → τ} {registry : Registry} {event : Event} {first? : Option Fault} {a : Aftermath τ}
    (conduct : Conduct o settings clock n s (Delivery.proceed registry event first? rules).registry
      (Delivery.proceed registry event first? rules).progress a)
    {claims : List ClaimKey}
    (held : ∀ rule ∈ rules, Dispatch.claimFor rule event ∈ registry.claims ↔ Dispatch.claimFor rule event ∈ claims) :
    ∃ v : RuleId → Verdict τ,
      (∀ rule ∈ rules, Handles o settings clock event claims (s rule.id) rule (v rule.id)) ∧
        a.Sums registry s event first? rules v := by
  induction rules generalizing n s registry first? a with
  | nil =>
    cases conduct
    exact ⟨fun id => ⟨0,s id,[],false,.ok ()⟩,fun _ member => (by cases member),.nothing registry s event first? _⟩
  | cons rule rest ih =>
    obtain ⟨apart,ids⟩ := List.nodup_cons.mp ids
    obtain ⟨alone,uids⟩ := List.nodup_cons.mp uids
    obtain ⟨own,held⟩ := List.forall_mem_cons.mp held
    have passes_iff : rule.Passes event registry.claims ↔ rule.Passes event claims := by
      rw [Rule.Passes,own,← Rule.Passes]
    -- what comes of the first rule and of the others, joined
    have joins {v : RuleId → Verdict τ} (first : Verdict τ)
        (handles : Handles o settings clock event claims (s rule.id) rule first)
        (others : ∀ r ∈ rest, Handles o settings clock event claims (putAt s rule.id first.after r.id) r (v r.id)) :
        ∀ r ∈ rule :: rest, Handles o settings clock event claims (s r.id) r (putAt v rule.id first r.id) := by
      refine List.forall_mem_cons.mpr ⟨by rw [putAt_self]; exact handles,fun r member => ?_⟩
      have ne : r.id ≠ rule.id := fun same => apart (List.mem_map.mpr ⟨r,member,same⟩)
      have handles := others r member
      rw [putAt_of_ne s _ ne] at handles
      rw [putAt_of_ne v _ ne]
      exact handles
    by_cases passes : rule.Passes event registry.claims
    · rw [Delivery.proceed_passed passes] at conduct
      obtain ⟨v,handles,sums⟩ := ih ids uids conduct held
      refine ⟨putAt v rule.id ⟨n,s rule.id,[],false,.ok ()⟩,joins _ (.passed (passes_iff.mp passes)) ?_,?_⟩
      · rw [putAt_same]
        exact handles
      · refine Aftermath.Sums.cons (a := a) apart ⟨n,s rule.id,[],false,.ok ()⟩ ?_
        simpa [faultOf] using sums
    · rw [Delivery.proceed_dispatched passes] at conduct
      obtain ⟨v₀,course⟩ := Dispatch.terminates o settings clock rule event n (s rule.id)
      obtain ⟨a',rfl,onward⟩ := (of_course course rfl _ rest first? a).mp conduct
      have free : Dispatch.claimFor rule event ∉ registry.claims := fun claimed => passes (.inr (.inr claimed))
      simp only [Dispatch.claim,leave_claimed registry free,joined_eq] at onward
      obtain ⟨v,handles,sums⟩ := ih ids uids onward (by
        intro r member
        rw [← held r member]
        have ne : Dispatch.claimFor r event ≠ Dispatch.claimFor rule event := fun same =>
          alone (List.mem_map.mpr ⟨r,member,congrArg ClaimKey.rule same⟩)
        cases v₀.kept <;> simp [ne])
      exact ⟨putAt v rule.id v₀,joins _ (.dispatched (fun other => passes (passes_iff.mpr other)) course) handles,
        sums.cons apart⟩

end Conduct

/-- An event can be delivered to any rules, and the delivery comes to an end. -/
theorem Delivers.exists {τ : Type} (o : Outside τ) (settings : EngineSettings) (clock : Nat → Moment)
    (registry : Registry) (s : RuleId → τ) (event : Event) (rules : List Rule) :
    ∃ a, Delivers o settings clock registry s event rules a := by
  have proceeds : ∀ (rules : List Rule) (n : Nat) (s : RuleId → τ) (registry : Registry) (first? : Option Fault),
      ∃ a, Conduct o settings clock n s (Delivery.proceed registry event first? rules).registry
        (Delivery.proceed registry event first? rules).progress a := by
    intro rules
    induction rules with
    | nil => exact fun n s registry first? => ⟨_,.ended⟩
    | cons rule rest ih =>
      intro n s registry first?
      by_cases passes : rule.Passes event registry.claims
      · rw [Delivery.proceed_passed passes]
        exact ih n s registry first?
      · rw [Delivery.proceed_dispatched passes]
        obtain ⟨v,course⟩ := Dispatch.terminates o settings clock rule event n (s rule.id)
        obtain ⟨a,onward⟩ := ih v.time (putAt s rule.id v.after) _ _
        exact ⟨_,(Conduct.of_course course rfl _ rest first? _).mpr ⟨a,rfl,onward⟩⟩
  exact proceeds rules 1 s _ none

/-! ## The keys of tasks that are armed -/

/-- Whether a rule has an interval action for an event that gets a task with a key. -/
def Rule.Schedules (rule : Rule) (event : Event) (key : TaskKey) : Prop :=
  rule.answers event = true ∧ ∃ entry ∈ rule.spec.actions.zipIdx, key = Arming.keyFor rule event entry.2 ∧
    ∃ raw period, Arming.schedule? entry.1 = some raw ∧ readDuration "schedule" raw = .ok period

namespace Arming

theorem action_armed {rule : Rule} {event : Event} {a : Arming} {entry : Action × Nat} {task : IntervalTask}
    (member : task ∈ (action rule event a entry).armed) :
    task ∈ a.armed ∨ task.key = keyFor rule event entry.2 ∧
      ∃ raw period, schedule? entry.1 = some raw ∧ readDuration "schedule" raw = .ok period := by
  unfold action at member
  split at member
  · exact .inl member
  · rename_i raw given
    dsimp only at member
    split at member
    · exact .inl member
    · rename_i free
      split at member
      · exact .inl member
      · rename_i period valid
        rw [register_of_free (by simpa using free)] at member
        rcases List.mem_append.mp member with old | new
        · exact .inl old
        · cases List.mem_singleton.mp new
          exact .inr ⟨rfl,raw,period,given,valid⟩

end Arming

namespace Registry

/-- The tasks that are armed have keys of their own, which none had before. -/
theorem arm_fresh (r : Registry) (event : Event) (rules : List Rule) :
    ((r.arm event rules).armed.map (·.key)).Nodup ∧ ∀ task ∈ (r.arm event rules).armed, r.hasTask task.key = false := by
  let Fresh (a : Arming) : Prop := a.registry.tasks = r.tasks ++ a.armed.map IntervalTask.entry ∧
    (a.armed.map (·.key)).Nodup ∧ ∀ task ∈ a.armed, r.hasTask task.key = false
  suffices fresh : Fresh (r.arm event rules) from fresh.2
  refine Arming.arm_induction (motive := Fresh) ⟨by simp,List.nodup_nil,fun _ member => (by cases member)⟩ ?_
  intro a holds rule _ _ entry _
  refine Arming.action_cases (motive := Fresh) rule event a entry holds (fun _ => holds) ?_
  intro period free
  obtain ⟨tasks,distinct,unheld⟩ := holds
  have absent : Arming.keyFor rule event entry.2 ∉ a.registry.tasks.map (·.1) := fun inside => by
    simp [(a.registry.hasTask_iff _).mpr inside] at free
  rw [tasks,List.map_append,List.mem_append,not_or,List.map_map] at absent
  rw [Arming.register_of_free free]
  refine ⟨?_,?_,?_⟩
  · simp [Arming.enrolled,tasks,IntervalTask.entry]
  · rw [List.map_append]
    exact (List.perm_append_singleton _ _).nodup_iff.mpr (List.nodup_cons.mpr ⟨absent.2,distinct⟩)
  · intro task member
    rcases List.mem_append.mp member with old | new
    · exact unheld task old
    · cases List.mem_singleton.mp new
      exact Bool.eq_false_iff.mpr fun held => absent.1 ((r.hasTask_iff _).mp held)

/-- The keys that get a task: those of all rules that have none yet. -/
theorem mem_arm_keys (r : Registry) (event : Event) (rules : List Rule) (key : TaskKey) :
    key ∈ (r.arm event rules).armed.map (·.key) ↔
      r.started = true ∧ r.hasTask key = false ∧ ∃ rule ∈ rules, rule.Schedules event key := by
  constructor
  · intro member
    obtain ⟨task,armed,rfl⟩ := List.mem_map.mp member
    refine ⟨?_,(r.arm_fresh event rules).2 task armed,?_⟩
    · refine Classical.byContradiction fun idle => ?_
      rw [arm,if_neg idle] at armed
      cases armed
    · let Scheduled (a : Arming) : Prop := ∀ task ∈ a.armed, ∃ rule ∈ rules, rule.Schedules event task.key
      suffices scheduled : Scheduled (r.arm event rules) from scheduled task armed
      refine Arming.arm_induction (motive := Scheduled) (fun _ member => (by cases member)) ?_
      intro a holds rule listed answers entry inside task member
      rcases Arming.action_armed member with old | ⟨keyed,readable⟩
      · exact holds task old
      · exact ⟨rule,listed,answers,entry,inside,keyed,readable⟩
  · rintro ⟨started,free,rule,listed,answers,⟨action,index⟩,inside,rfl,raw,period,given,valid⟩
    have place := List.mk_mem_zipIdx_iff_getElem?.mp inside
    have held := (hasTask_iff _ _).mp (hasTask_arm started listed answers place given valid)
    rw [arm_tasks,List.map_append,List.map_map,List.mem_append] at held
    rcases held with old | new
    · cases ((r.hasTask_iff _).mpr old).symm.trans free
    · exact new

/-- Which keys get a task does not depend on the order of the rules. -/
theorem arm_keys_perm (r : Registry) (event : Event) {rules rules' : List Rule} (perm : rules.Perm rules') :
    ((r.arm event rules).registry.tasks.map (·.1)).Perm ((r.arm event rules').registry.tasks.map (·.1)) := by
  have armed : ((r.arm event rules).armed.map (·.key)).Perm ((r.arm event rules').armed.map (·.key)) := by
    refine (List.perm_ext_iff_of_nodup (r.arm_fresh event rules).1 (r.arm_fresh event rules').1).mpr fun key => ?_
    rw [mem_arm_keys,mem_arm_keys]
    simp only [perm.mem_iff]
  rw [arm_tasks,arm_tasks,List.map_append,List.map_append,List.map_map,List.map_map]
  exact armed.append_left _

end Registry

/-! ## Deliveries in two orders -/

/-- What comes of two deliveries is the same, but for times and orders. -/
structure Aftermath.Alike {τ : Type} (o : Outside τ) (a a' : Aftermath τ) : Prop where
  stored : ∀ id, (o.stored? (a.site id)).map Rule.timeless = (o.stored? (a'.site id)).map Rule.timeless
  claims : a.registry.claims.Perm a'.registry.claims
  tasks : (a.registry.tasks.map (·.1)).Perm (a'.registry.tasks.map (·.1))
  calls : a.calls.Perm a'.calls
  ok : a.result.isOk = a'.result.isOk

theorem isOk_result (fault? : Option Fault) : (Delivery.result fault?).isOk = fault?.isNone := by
  cases fault? <;> rfl

section
variable {τ : Type} {o : Outside τ} {Same : τ → τ → Prop} {settings : EngineSettings} {clock clock' : Nat → Moment}
variable {registry : Registry} {s : RuleId → τ} {event : Event} {rules rules' : List Rule} {a a' : Aftermath τ}

theorem Delivers.sums (delivers : Delivers o settings clock registry s event rules a)
    (ids : (rules.map Rule.id).Nodup) (uids : (rules.map Rule.incarnation).Nodup) :
    ∃ v : RuleId → Verdict τ,
      (∀ rule ∈ rules, Handles o settings clock event registry.claims (s rule.id) rule (v rule.id)) ∧
        a.Sums (registry.arm event rules).registry s event none rules v := by
  obtain ⟨tasks,tokens,same⟩ := registry.arm_frame event rules
  have claims : (registry.arm event rules).registry.claims = registry.claims := by rw [same]
  exact Conduct.sums ids uids delivers fun rule _ => by rw [claims]

/-- The verdicts of the same rules give the same aftermath, but for times and orders. -/
theorem Aftermath.Sums.alike (timeless : o.Timeless Same) (perm : rules.Perm rules') {v v' : RuleId → Verdict τ}
    (verdicts : ∀ rule ∈ rules, (v rule.id).Alike Same (v' rule.id))
    (sums : a.Sums (registry.arm event rules).registry s event none rules v)
    (sums' : a'.Sums (registry.arm event rules').registry s event none rules' v') : a.Alike o a' := by
  have claims (rules : List Rule) : (registry.arm event rules).registry.claims = registry.claims := by
    obtain ⟨tasks,tokens,same⟩ := registry.arm_frame event rules
    rw [same]
  refine ⟨?_,?_,?_,?_,?_⟩
  · intro id
    by_cases listed : id ∈ rules.map Rule.id
    · obtain ⟨rule,member,rfl⟩ := List.mem_map.mp listed
      rw [sums.site rule member,sums'.site rule (perm.mem_iff.mp member)]
      exact timeless.stored (verdicts rule member).after
    · rw [sums.others id listed,sums'.others id (fun inside => listed ((perm.map _).mem_iff.mpr inside))]
  · have kept : (rules.filter fun r => (v r.id).kept) = rules.filter fun r => (v' r.id).kept :=
      List.filter_congr fun rule member => by rw [(verdicts rule member).kept]
    rw [sums.registry,sums'.registry]
    simp only [claims,kept]
    exact ((perm.filter _).map _).append_left _
  · rw [sums.registry,sums'.registry]
    exact registry.arm_keys_perm event perm
  · have calls : (rules.map fun r => (v r.id).calls) = rules.map fun r => (v' r.id).calls :=
      List.map_congr_left fun rule member => (verdicts rule member).calls
    rw [sums.calls,sums'.calls,calls]
    exact (perm.map _).flatten
  · have results : (rules.map fun r => (v r.id).result) = rules.map fun r => (v' r.id).result :=
      List.map_congr_left fun rule member => (verdicts rule member).result
    rw [sums.result,sums'.result,results,isOk_result,isOk_result,Bool.eq_iff_iff]
    simp only [Option.none_or,Option.isNone_iff_eq_none,List.findSome?_eq_none_iff]
    exact ⟨fun none x inside => none x ((perm.map _).mem_iff.mpr inside),
      fun none x inside => none x ((perm.map _).mem_iff.mp inside)⟩

/-- The claim of a rule is held after a delivery if it was before, or is kept. -/
theorem Aftermath.Sums.claim_iff {first? : Option Fault} {v : RuleId → Verdict τ}
    (sums : a.Sums registry s event first? rules v) (uids : (rules.map Rule.incarnation).Nodup) {rule : Rule}
    (member : rule ∈ rules) :
    Dispatch.claimFor rule event ∈ a.registry.claims ↔
      Dispatch.claimFor rule event ∈ registry.claims ∨ (v rule.id).kept = true := by
  rw [sums.registry,List.mem_append]
  refine or_congr_right ⟨fun inside => ?_,fun kept => ?_⟩
  · obtain ⟨other,kept,same⟩ := List.mem_map.mp inside
    obtain ⟨listed,kept⟩ := List.mem_filter.mp kept
    cases eq_of_nodup_map uids listed member (congrArg ClaimKey.rule same)
    exact kept
  · exact List.mem_map.mpr ⟨rule,List.mem_filter.mpr ⟨member,kept⟩,rfl⟩

/-- What comes of a rule among others is what comes of it alone. -/
theorem Delivers.alone (timeless : o.Timeless Same) {rule : Rule} {alone : Aftermath τ}
    (delivers : Delivers o settings clock registry s event [rule] alone) {v : Verdict τ}
    (handles : Handles o settings clock' event registry.claims (s rule.id) rule v) :
    Same v.after (alone.site rule.id) ∧ alone.calls = v.calls ∧ alone.result = v.result ∧
      (Dispatch.claimFor rule event ∈ alone.registry.claims ↔
        Dispatch.claimFor rule event ∈ registry.claims ∨ v.kept = true) := by
  obtain ⟨w,others,sums⟩ := delivers.sums (by simp) (by simp)
  have same := handles.alike timeless (others rule List.mem_cons_self)
  obtain ⟨tasks,tokens,framed⟩ := registry.arm_frame event [rule]
  refine ⟨?_,?_,?_,?_⟩
  · rw [sums.site rule List.mem_cons_self]
    exact same.after
  · rw [sums.calls,same.calls]
    simp
  · rw [sums.result,same.result]
    simp only [List.map_cons,List.map_nil,List.findSome?_cons,List.findSome?_nil,Option.none_or]
    cases (w rule.id).result <;> rfl
  · rw [sums.claim_iff (by simp) List.mem_cons_self,same.kept,framed]

/-- For every event, two orders of rules with names and identifiers of their own, any clocks, and stores, secrets and
executors that answer for each rule apart from the others: the delivery comes to an end, and in both orders to the same
stored rules but for times, the same claims, the same keys of tasks, the same calls, and a fault in both or in none.
A rule that does not answer, or has the record, keeps its stored copy as it is, and what is not listed stays as it is.
What comes of a rule, also its claim and its calls, is what comes of it when the event is delivered to it alone,
whatever comes of the others, and the result is the fault of the first rule that fails. -/
theorem Delivers.independent (timeless : o.Timeless Same) (steadfast : o.Steadfast) (perm : rules.Perm rules')
    (ids : (rules.map Rule.id).Nodup) (uids : (rules.map Rule.incarnation).Nodup) (settings : EngineSettings)
    (registry : Registry) (s : RuleId → τ) (event : Event) :
    (∀ clock rules, ∃ a, Delivers o settings clock registry s event rules a) ∧
      (∀ clock clock' a a', Delivers o settings clock registry s event rules a →
        Delivers o settings clock' registry s event rules' a' → a.Alike o a') ∧
      ∀ clock a, Delivers o settings clock registry s event rules a →
        (∀ rule ∈ rules, (rule.answers event = false ∨
            rule.hasExecuted event.object.identity event.kind = true ∨ ∃ stored, o.stored? (s rule.id) = some stored ∧
              stored.hasExecuted event.object.identity event.kind = true) →
          o.stored? (a.site rule.id) = o.stored? (s rule.id)) ∧
        (∀ id, id ∉ rules.map Rule.id → a.site id = s id) ∧
        ∀ clock' (alone : Rule → Aftermath τ),
          (∀ rule ∈ rules, Delivers o settings clock' registry s event [rule] (alone rule)) →
          (∀ rule ∈ rules,
            (o.stored? (a.site rule.id)).map Rule.timeless =
              (o.stored? ((alone rule).site rule.id)).map Rule.timeless ∧
            (Dispatch.claimFor rule event ∈ a.registry.claims ↔
              Dispatch.claimFor rule event ∈ (alone rule).registry.claims)) ∧
          a.calls = (rules.map fun rule => (alone rule).calls).flatten ∧
          a.result = Delivery.result ((rules.map fun rule => (alone rule).result).findSome? faultOf) := by
  refine ⟨fun clock rules => Delivers.exists o settings clock registry s event rules,?_,?_⟩
  · intro clock clock' a a' delivers delivers'
    obtain ⟨v,handles,sums⟩ := delivers.sums ids uids
    obtain ⟨v',handles',sums'⟩ :=
      delivers'.sums ((perm.map _).nodup_iff.mp ids) ((perm.map _).nodup_iff.mp uids)
    exact sums.alike timeless perm
      (fun rule member => (handles rule member).alike timeless (handles' rule (perm.mem_iff.mp member))) sums'
  · intro clock a delivers
    obtain ⟨v,handles,sums⟩ := delivers.sums ids uids
    refine ⟨?_,sums.others,?_⟩
    · intro rule member quiet
      rw [sums.site rule member]
      exact (handles rule member).unchanged steadfast quiet
    · intro clock' alone delivered
      have same (rule : Rule) (member : rule ∈ rules) :=
        (delivered rule member).alone timeless (handles rule member)
      refine ⟨fun rule member => ?_,?_,?_⟩
      · obtain ⟨after,_,_,claim⟩ := same rule member
        obtain ⟨tasks,tokens,framed⟩ := registry.arm_frame event rules
        rw [sums.site rule member,claim,sums.claim_iff uids member,framed]
        exact ⟨timeless.stored after,.rfl⟩
      · have calls : (rules.map fun rule => (alone rule).calls) = rules.map fun rule => (v rule.id).calls :=
          List.map_congr_left fun rule member => (same rule member).2.1
        rw [calls]
        exact sums.calls
      · have results : (rules.map fun rule => (alone rule).result) = rules.map fun rule => (v rule.id).result :=
          List.map_congr_left fun rule member => (same rule member).2.2.1
        rw [results,sums.result,Option.none_or]

end

namespace Sample

/-- A store that keeps a rule, without secrets, and an executor that cannot reach one address. -/
def bench : Outside Rule where
  stored? := some
  read t := (.ok t,t)
  store given t :=
    if given.metadata.version? = t.metadata.version? then
      (.ok (),{ given with metadata := { given.metadata with version? := given.metadata.version?.map (· ++ "+") } })
    else (.error (.conflict "changed"),t)
  secret _ name t := (.error (.notFound name),t)
  run call t := if call.action.url = "http://hook/down" then (.error (.status 500 ""),t) else (.ok (),t)

theorem bench_timeless : bench.Timeless fun t t' => t.timeless = t'.timeless := by
  refine ⟨fun _ => rfl,?_,?_,?_,?_,?_⟩
  · intro t t' same
    exact congrArg some same
  · intro t t' same
    exact ⟨congrArg Except.ok same,same⟩
  · intro given given' t t' same states
    have metadata : given.metadata = given'.metadata := congrArg (·.metadata) same
    have held : t.metadata = t'.metadata := congrArg (·.metadata) states
    simp only [bench,metadata,held]
    split
    · have spec : given.spec = given'.spec := congrArg (·.spec) same
      have status : given.status?.map RuleStatus.timeless = given'.status?.map RuleStatus.timeless :=
        congrArg (·.status?) same
      exact ⟨rfl,by simp only [Rule.timeless,spec,status]⟩
    · exact ⟨rfl,states⟩
  · exact fun space name t t' same => ⟨rfl,same⟩
  · intro call t t' same
    simp only [bench]
    split <;> exact ⟨rfl,same⟩

theorem bench_steadfast : bench.Steadfast := by
  refine ⟨fun t rule read => ?_,fun _ => rfl⟩
  cases read
  rfl

/-- A rule with an action whose address cannot be reached. -/
def lame : Rule where
  metadata := { name? := some "lame", space? := some "default", version? := some "1", uid? := some "uid-2" }
  spec := { onceRule.spec with actions := [{ url := "http://hook/down" }] }

def sites (id : RuleId) : Rule := if id = lame.id then lame else onceRule

/-- An event is delivered to two rules in both orders, at different times. One of them fails, and the other one runs its
action all the same. -/
theorem independent_of_lame : ∃ a a',
    Delivers bench {} (fun _ => moment) {} sites event [lame,onceRule] a ∧
      Delivers bench {} (fun n => ⟨n,⟨19724,n,0⟩⟩) {} sites event [onceRule,lame] a' ∧ a.Alike bench a' ∧
      (a.calls.map (·.action.url)) = ["http://hook/down","http://hook/once"] ∧ a.result = .error (.status 500 "") := by
  have perm : [lame,onceRule].Perm [onceRule,lame] := .swap _ _ []
  obtain ⟨ends,orders,each⟩ :=
    Delivers.independent bench_timeless bench_steadfast perm (by decide) (by decide) {} {} sites event
  obtain ⟨a,delivers⟩ := ends (fun _ => moment) [lame,onceRule]
  obtain ⟨a',delivers'⟩ := ends (fun n => ⟨n,⟨19724,n,0⟩⟩) [onceRule,lame]
  obtain ⟨first,lamed,down,fault⟩ : ∃ a, Delivers bench {} (fun _ => moment) {} sites event [lame] a ∧
      a.calls.map (·.action.url) = ["http://hook/down"] ∧ a.result = .error (.status 500 "") :=
    ⟨_,.goes rfl (.goes rfl (.goes rfl (.goes rfl .ended))),rfl,rfl⟩
  obtain ⟨second,ran,once,well⟩ : ∃ a, Delivers bench {} (fun _ => moment) {} sites event [onceRule] a ∧
      a.calls.map (·.action.url) = ["http://hook/once"] ∧ a.result = .ok () :=
    ⟨_,.goes rfl (.goes rfl (.goes rfl (.goes rfl .ended))),rfl,rfl⟩
  obtain ⟨_,_,whole⟩ := each _ a delivers
  obtain ⟨_,calls,result⟩ := whole (fun _ => moment) (fun rule => if rule.id = lame.id then first else second) (by
    intro rule member
    rcases List.mem_cons.mp member with rfl | member
    · exact lamed
    · cases List.mem_singleton.mp member
      exact ran)
  refine ⟨a,a',delivers,delivers',orders _ _ a a' delivers delivers',?_,?_⟩
  · rw [calls]
    change (first.calls ++ (second.calls ++ [])).map _ = _
    rw [List.append_nil,List.map_append,down,once]
    rfl
  · rw [result]
    change Delivery.result ([first.result,second.result].findSome? faultOf) = _
    rw [fault,well]
    rfl

end Sample
end Callout
