import Callout.Proofs.Teardown

/-!
Which tasks are registered: exactly those that run (`Run.enrolled`). No two have a key or a token in common, so a run
that ends takes out its own entry and no other. A token is that of one run for as long as the process lives; once the
run has ended, none has it again (`Onward.gone`).
-/
namespace Callout

/-! ## Entries -/

/-- What is registered of a task. -/
def IntervalTask.entry (task : IntervalTask) : TaskKey × Token := (task.key, task.token)

namespace Registry

theorem hasTask_iff (r : Registry) (key : TaskKey) : r.hasTask key = true ↔ key ∈ r.tasks.map (·.1) := by
  rw [hasTask,Option.isSome_iff_ne_none,ne_eq,List.lookup_eq_none_iff]
  simp

theorem hasTask_removeTask (r : Registry) (key : TaskKey) : (r.removeTask key).1.hasTask key = false := by
  rw [Bool.eq_false_iff,ne_eq,hasTask_iff]
  simp [removeTask]

/-- Registered tasks have keys and tokens of their own. -/
structure Distinct (r : Registry) : Prop where
  keys : (r.tasks.map (·.1)).Nodup
  tokens : (r.tasks.map (·.2)).Nodup
  held : ∀ entry ∈ r.tasks, r.tokens.Has entry.2

theorem Distinct.enrolled {r : Registry} (distinct : r.Distinct) {key : TaskKey} (free : r.hasTask key = false)
    (type : ResourceType) : (Arming.enrolled r key type).Distinct := by
  have fresh := TokenTree.not_has_new r.tokens (r.parentFor type)
  have absent : key ∉ r.tasks.map (·.1) := fun inside => by simp [(r.hasTask_iff key).mpr inside] at free
  refine ⟨?_,?_,?_⟩
  · simp only [Arming.enrolled,List.map_append,List.map_cons,List.map_nil]
    exact (List.perm_append_singleton _ _).nodup_iff.mpr (List.nodup_cons.mpr ⟨absent,distinct.keys⟩)
  · simp only [Arming.enrolled,List.map_append,List.map_cons,List.map_nil]
    refine (List.perm_append_singleton _ _).nodup_iff.mpr (List.nodup_cons.mpr ⟨fun inside => fresh ?_,distinct.tokens⟩)
    obtain ⟨entry,held,same⟩ := List.mem_map.mp inside
    rw [← same]
    exact distinct.held entry held
  · intro entry member
    rcases List.mem_append.mp member with old | new
    · exact TokenTree.has_child (distinct.held entry old)
    · cases List.mem_singleton.mp new
      exact TokenTree.has_new _ _

theorem Distinct.arm {r : Registry} (distinct : r.Distinct) (event : Event) (rules : List Rule) :
    (r.arm event rules).registry.Distinct := by
  refine Arming.arm_induction (motive := fun a => a.registry.Distinct) distinct ?_
  intro a holds rule _ _ entry _
  refine Arming.action_cases (motive := fun a => a.registry.Distinct) rule event a entry holds (fun _ => holds) ?_
  intro period free
  rw [Arming.register_of_free free]
  exact holds.enrolled free event.type

theorem Distinct.effect {r r' : Registry} {tasks : List IntervalTask} {sessions : List Session}
    (distinct : r.Distinct) (effect : r.Effect r' tasks sessions) : r'.Distinct := by
  cases effect with
  | claimed claims => exact ⟨distinct.keys,distinct.tokens,distinct.held⟩
  | removed key =>
    exact ⟨distinct.keys.sublist (List.filter_sublist.map _),distinct.tokens.sublist (List.filter_sublist.map _),
      fun entry member => distinct.held entry (List.mem_filter.mp member).1⟩
  | released type id =>
    unfold releaseSession
    split
    · exact ⟨distinct.keys,distinct.tokens,distinct.held⟩
    · exact distinct
  | opened opens =>
    cases opens with
    | same => exact distinct
    | opened type target free =>
      exact ⟨distinct.keys,distinct.tokens,fun entry member => TokenTree.has_child (distinct.held entry member)⟩
  | armed event rules claims =>
    obtain ⟨keys,tokens,held⟩ := distinct.arm event rules
    exact ⟨keys,tokens,held⟩

theorem Distinct.cancel {r : Registry} (distinct : r.Distinct) (t : Token) : (r.cancel t).Distinct :=
  ⟨distinct.keys,distinct.tokens,fun entry member => TokenTree.has_cancel.mpr (distinct.held entry member)⟩

/-- Arming registers the tasks that are armed. -/
theorem arm_tasks (r : Registry) (event : Event) (rules : List Rule) :
    (r.arm event rules).registry.tasks = r.tasks ++ (r.arm event rules).armed.map IntervalTask.entry := by
  let Registered (a : Arming) : Prop := a.registry.tasks = r.tasks ++ a.armed.map IntervalTask.entry
  refine Arming.arm_induction (motive := Registered) (by simp [Registered]) ?_
  intro a holds rule _ _ entry _
  refine Arming.action_cases (motive := Registered) rule event a entry holds (fun _ => holds) ?_
  intro period free
  rw [Arming.register_of_free free]
  change a.registry.tasks ++ _ = _
  rw [holds]
  simp [IntervalTask.entry]

end Registry

/-! ## What activities register -/

/-- Nobody but the run of a task takes an entry out; others only add those of the tasks that they arm. -/
def Registry.Enrolls (r r' : Registry) (armed : List IntervalTask) : Prop :=
  r'.tasks = r.tasks ++ armed.map IntervalTask.entry

theorem Registry.Opens.enrolls {r r' : Registry} {sessions : List Session} (opens : r.Opens r' sessions) :
    r.Enrolls r' [] := by
  cases opens <;> exact Eq.symm (List.append_nil _)

theorem Delivery.resume_enrolls (settings : EngineSettings) (now : Moment) (registry : Registry) (d : Delivery)
    (answer : d.demand.Answer) :
    registry.Enrolls (d.resume settings now registry answer).registry
      (d.resume settings now registry answer).armed := by
  cases d with
  | listing event =>
    change Except Fault (List Rule) at answer
    change registry.Enrolls (afterListing registry event answer).registry (afterListing registry event answer).armed
    cases answer with
    | error fault => simp [afterListing,Registry.Enrolls]
    | ok rules =>
      obtain ⟨⟨claims,same⟩,_⟩ := proceed_frame (registry.arm event rules).registry event none rules
      simp only [afterListing,same]
      exact registry.arm_tasks event rules
  | dispatching dispatch rest first? =>
    change registry.Enrolls
      (withDispatch dispatch.event rest first? (dispatch.resume settings now registry answer)).registry
      (withDispatch dispatch.event rest first? (dispatch.resume settings now registry answer)).armed
    obtain ⟨claims,same⟩ := dispatch.resume_frame settings now registry answer
    cases step : dispatch.resume settings now registry answer with
    | mk between progress =>
      rw [step] at same
      subst same
      cases progress with
      | waiting dispatch' => simp [withDispatch,Registry.Enrolls]
      | finished result =>
        obtain ⟨⟨later,kept⟩,none⟩ :=
          proceed_frame { registry with claims } dispatch.event (joined first? result) rest
        simp [withDispatch,none,kept,Registry.Enrolls]

theorem WatchRun.resume_enrolls (settings : EngineSettings) (now : Moment) (registry : Registry) (w : WatchRun)
    (answer : w.demand.Answer) :
    registry.Enrolls (w.resume settings now registry answer).registry
      (w.resume settings now registry answer).armed := by
  have idle : registry.Enrolls registry [] := by simp [Registry.Enrolls]
  obtain ⟨session,tracker,stage⟩ := w
  cases stage with
  | idle =>
    change Item at answer
    change registry.Enrolls (afterItem _ registry answer).registry (afterItem _ registry answer).armed
    cases answer with
    | cancelled => exact idle
    | ended =>
      simp only [afterItem,Registry.releaseSession]
      split
      · exact idle
      · exact idle
    | next item =>
      cases item with
      | error fault => exact idle
      | ok notification =>
        obtain ⟨same,none⟩ := deliver_frame ⟨session,(tracker.push notification).1,.idle⟩ registry
          (tracker.push notification).2
        simp only [afterItem]
        rw [same,none]
        exact idle
  | delivering delivery rest =>
    change registry.Enrolls (withDelivery _ rest (delivery.resume settings now registry answer)).registry
      (withDelivery _ rest (delivery.resume settings now registry answer)).armed
    have enrolls := delivery.resume_enrolls settings now registry answer
    unfold withDelivery
    split
    · exact enrolls
    · rw [(deliver_frame _ _ _).1]
      exact enrolls

theorem Activity.resume_enrolls (settings : EngineSettings) (now : Moment) (registry : Registry) (activity : Activity)
    (other : ∀ run, activity ≠ .task run) (answer : activity.demand.Answer) :
    registry.Enrolls (activity.resume settings now registry answer).registry
      (activity.resume settings now registry answer).armed := by
  cases activity with
  | task run => exact (other run rfl).elim
  | watch run => exact run.resume_enrolls settings now registry answer
  | delivery delivery => exact delivery.resume_enrolls settings now registry answer
  | arming event =>
    change Except Fault (List Rule) at answer
    cases answer with
    | error fault => exact Eq.symm (List.append_nil _)
    | ok rules => exact registry.arm_tasks event rules
  | unopened type => exact Eq.symm (List.append_nil _)
  | opening opening => exact (opening.resume_opens registry answer).enrolls
  | reconciling reconciling => exact (reconciling.resume_opens registry answer).enrolls
  | reconciler reconciler => exact (reconciler.resume_opens now registry answer).enrolls

/-! ## Runs of tasks -/

/-- The run of a task that an activity is. -/
def Pending.run? : Pending → Option IntervalRun
  | ⟨.task run, _⟩ => some run
  | ⟨.watch _, _⟩ | ⟨.delivery _, _⟩ | ⟨.arming _, _⟩ | ⟨.unopened _, _⟩ | ⟨.opening _, _⟩ | ⟨.reconciling _, _⟩
  | ⟨.reconciler _, _⟩ => none

/-- The tasks that run. -/
def World.runs (w : World) : List IntervalRun := w.pending.filterMap Pending.run?

namespace Happening

/-- The tasks that a step armed. -/
def armed : Happening → List IntervalTask
  | .resumed _ _ _ outcome => outcome.armed
  | .requested _ | .served _ _ _ _ | .stopped _ _ | .shutDown | .changed | .restarted => []

/-- The run of a task that takes a step. -/
def mover? : Happening → Option IntervalRun
  | .resumed _ (.task run) _ _ => some run
  | _ => none

/-- The task that begins to run its action. -/
def call? : Happening → Option IntervalTask
  | .resumed _ (.task run) _ ⟨_, _, _, .waiting (.task ⟨_, _, .running _⟩)⟩ => some run.task
  | _ => none

end Happening

/-- Only a step of its run begins the action of a task. -/
theorem Happening.call?_of_mover? {happening : Happening} (others : happening.mover? = none) :
    happening.call? = none := by
  cases happening with
  | resumed registry activity answer outcome =>
    cases activity with
    | task run => cases others
    | watch | delivery | arming | unopened | opening | reconciling | reconciler => rfl
  | requested | served | stopped | shutDown | changed | restarted => rfl

/-- The action of a task begins when its run goes on so that it is running. -/
theorem Happening.call?_task (registry registry' : Registry) (run run' : IntervalRun) (answer : run.demand.Answer) :
    (Happening.resumed registry (.task run) answer ⟨registry',[],[],.waiting (.task run')⟩).call? = some run.task ∧
        (∃ call, run'.stage = .running call) ∨
      (Happening.resumed registry (.task run) answer ⟨registry',[],[],.waiting (.task run')⟩).call? = none ∧
        ∀ call, run'.stage ≠ .running call := by
  obtain ⟨task,ticker,stage⟩ := run'
  cases stage with
  | running call => exact .inl ⟨rfl,call,rfl⟩
  | waiting | looking | reading | lost => exact .inr ⟨rfl,fun _ same => by cases same⟩

/-- The tasks whose actions began to run, once for each time, latest first. -/
def calls (history : List Happening) : List IntervalTask := history.filterMap Happening.call?

/-- What a step is to the runs of tasks: one of them goes on or ends, or others begin beside them. -/
inductive Shift (w w' : World) : Happening → Prop where
  | beside {happening : Happening} (now : Moment)
      (runs : w'.runs.Perm (w.runs ++ happening.armed.map fun task => .start task now))
      (enrolls : w.registry.Enrolls w'.registry happening.armed) (others : happening.mover? = none)
      (alive : happening ≠ .restarted) : Shift w w' happening
  | goesOn {before after : List IntervalRun} {run run' : IntervalRun} {answer? : Option run.demand.Answer}
      {answer : run.demand.Answer} {now : Moment} (place : w.runs = before ++ run :: after)
      (waits : ⟨.task run, answer?⟩ ∈ w.pending) (taken : Pending.Takes ⟨.task run, answer?⟩ w.registry answer)
      (went : run.resume now w.registry answer = (w.registry, .waiting run')) (task : run'.task = run.task)
      (registry : w'.registry = w.registry) (runs : w'.runs = before ++ run' :: after) :
      Shift w w' (.resumed w.registry (.task run) answer ⟨w.registry, [], [], .waiting (.task run')⟩)
  | ended {before after : List IntervalRun} {run : IntervalRun} {answer? : Option run.demand.Answer}
      {answer : run.demand.Answer} {now : Moment} (place : w.runs = before ++ run :: after)
      (waits : ⟨.task run, answer?⟩ ∈ w.pending) (taken : Pending.Takes ⟨.task run, answer?⟩ w.registry answer)
      (went : run.resume now w.registry answer = run.finish w.registry)
      (registry : w'.registry = (w.registry.removeTask run.task.key).1) (runs : w'.runs = before ++ after) :
      Shift w w'
        (.resumed w.registry (.task run) answer
          ⟨(w.registry.removeTask run.task.key).1, [], [], .finished .none⟩)
  | restarted (runs : w'.runs = []) (registry : w'.registry = {}) : Shift w w' .restarted

theorem Activity.Outcome.runs_pending (o : Activity.Outcome) (now : Moment) :
    (o.pending now).filterMap Pending.run? =
      o.next.filterMap Pending.run? ++ o.armed.map fun task => .start task now := by
  simp [o.filterMap_pending,Pending.run?]

/-- An activity that goes on stays one of its kind. -/
theorem Activity.Outcome.of_mem_next {σ α : Type} {registry : Registry} {armed : List IntervalTask}
    {sessions : List Session} {progress : Progress σ α} {stage : σ → Activity} {result : α → Activity.Result}
    {p : Pending} (member : p ∈ (Activity.Outcome.mk registry armed sessions (progress.map stage result)).next) :
    ∃ s, progress = .waiting s ∧ p = ⟨stage s,none⟩ := by
  cases progress with
  | finished result => cases member
  | waiting s => exact ⟨s,rfl,List.mem_singleton.mp member⟩

/-- What is not a task does not become one. -/
theorem Activity.resume_runs (settings : EngineSettings) (now : Moment) (registry : Registry) (activity : Activity)
    (other : ∀ run, activity ≠ .task run) (answer : activity.demand.Answer) :
    (activity.resume settings now registry answer).next.filterMap Pending.run? = [] := by
  refine List.filterMap_eq_nil_iff.mpr fun p member => ?_
  cases activity with
  | task run => exact (other run rfl).elim
  | arming event =>
    change Except Fault (List Rule) at answer
    cases answer <;> cases member
  | watch | delivery | unopened | opening | reconciling | reconciler =>
    obtain ⟨_,_,rfl⟩ := Activity.Outcome.of_mem_next member
    rfl

/-- What the engine may be asked for is not a task. -/
theorem Activity.run?_of_isRequest {activity : Activity} (asked : activity.IsRequest) :
    Pending.run? ⟨activity,none⟩ = none := by
  cases activity with
  | task run => exact asked.elim
  | watch | delivery | arming | unopened | opening | reconciling | reconciler => rfl

/-- Only tasks are runs of tasks. -/
theorem Activity.task_cases (activity : Activity) :
    (∃ run, activity = .task run) ∨
      (∀ run, activity ≠ .task run) ∧ (∀ answer?, Pending.run? ⟨activity,answer?⟩ = none) ∧
        ∀ registry answer outcome, (Happening.resumed registry activity answer outcome).mover? = none := by
  cases activity with
  | task run => exact .inl ⟨run,rfl⟩
  | watch | delivery | arming | unopened | opening | reconciling | reconciler =>
    exact .inr ⟨fun _ same => (by cases same),fun _ => rfl,fun _ _ _ => rfl⟩

theorem Step.shift {settings : EngineSettings} {w w' : World} {happening : Happening}
    (step : Step settings w happening w') : Shift w w' happening := by
  have same : w.registry.Enrolls w.registry [] := Eq.symm (List.append_nil _)
  cases step with
  | request activity asked =>
    refine .beside default ?_ same rfl (by simp)
    simp [World.runs,Happening.armed,activity.run?_of_isRequest asked]
  | @serve before after activity place answer stored? served =>
    refine .beside default ?_ same rfl (by simp)
    have kept : Pending.run? ⟨activity,some answer⟩ = Pending.run? ⟨activity,none⟩ := by
      cases activity <;> rfl
    simp [World.runs,place,Happening.armed,List.filterMap_cons,kept]
  | @resume before after p answer o now place taken went =>
    subst went
    obtain ⟨activity,answer?⟩ := p
    rcases activity.task_cases with ⟨run,rfl⟩ | ⟨other,none,others⟩
    · have waits : ⟨.task run,answer?⟩ ∈ w.pending := mem_of_place place
      have runs : w.runs = before.filterMap Pending.run? ++ run :: after.filterMap Pending.run? := by
        simp [World.runs,place,Pending.run?]
      rcases run.resume_cases now w.registry answer with ended | ⟨run',task,went⟩
      · have outcome : Activity.resume settings now w.registry (.task run) answer =
            ⟨(w.registry.removeTask run.task.key).1,[],[],.finished .none⟩ := by
          simp only [Activity.resume]
          rw [ended]
          rfl
        dsimp only
        rw [outcome]
        exact .ended runs waits taken ended rfl (by simp [World.runs,Activity.Outcome.pending,Activity.Outcome.next])
      · have outcome : Activity.resume settings now w.registry (.task run) answer =
            ⟨w.registry,[],[],.waiting (.task run')⟩ := by
          simp only [Activity.resume]
          rw [went]
          rfl
        dsimp only
        rw [outcome]
        exact .goesOn runs waits taken went task rfl
          (by simp [World.runs,Activity.Outcome.pending,Activity.Outcome.next,Pending.run?])
    · refine .beside now ?_ (activity.resume_enrolls settings now w.registry other answer) (others _ _ _) (by simp)
      simp only [World.runs,place,List.filterMap_append,List.filterMap_cons,none,
        Activity.Outcome.runs_pending,activity.resume_runs settings now w.registry other answer,List.nil_append]
      rw [List.append_assoc,List.append_assoc]
      exact List.perm_append_comm.append_left _
  | stop type =>
    refine .beside default (by simp [Happening.armed,World.runs]) ?_ rfl (by simp)
    unfold Registry.stopWatching Registry.removeSession
    cases w.registry.session? type <;> exact same
  | shutDown => exact .beside default (by simp [Happening.armed,World.runs]) same rfl (by simp)
  | change changed => exact .beside default (by simp [Happening.armed,World.runs]) same rfl (by simp)
  | restart => exact .restarted rfl rfl

namespace Shift
variable {w w' : World} {happening : Happening} {task : IntervalTask}

/-- A task that runs after a step ran before or was armed by it. -/
theorem task_cases (shift : Shift w w' happening) (member : task ∈ w'.runs.map (·.task)) :
    task ∈ w.runs.map (·.task) ∨ task ∈ happening.armed := by
  cases shift with
  | beside now runs enrolls others alive =>
    rw [(runs.map (·.task)).mem_iff,List.map_append,List.map_map] at member
    refine (List.mem_append.mp member).imp_right fun begun => ?_
    obtain ⟨armed,inside,rfl⟩ := List.mem_map.mp begun
    exact inside
  | goesOn place waits taken went same registry runs =>
    have kept : w'.runs.map (·.task) = w.runs.map (·.task) := by simp [runs,place,same]
    exact .inl (by rw [← kept]; exact member)
  | ended place waits taken went registry runs =>
    rw [runs] at member
    obtain ⟨run,inside,rfl⟩ := List.mem_map.mp member
    exact .inl (List.mem_map.mpr ⟨run,mem_beside place inside,rfl⟩)
  | restarted runs registry => simp [runs] at member

/-- A task whose action begins runs. -/
theorem runs_of_call? (shift : Shift w w' happening) (began : happening.call? = some task) :
    task ∈ w.runs.map (·.task) := by
  cases shift with
  | beside now runs enrolls others alive => cases (Happening.call?_of_mover? others).symm.trans began
  | @goesOn before after run run' answer? answer now place waits taken went same registry runs =>
    rcases Happening.call?_task w.registry w.registry run run' answer with ⟨called,_⟩ | ⟨quiet,_⟩
    · cases called.symm.trans began
      exact List.mem_map.mpr ⟨run,by simp [place],rfl⟩
    · cases quiet.symm.trans began
  | ended => cases began
  | restarted => cases began

end Shift

theorem calls_of_quiet {happening : Happening} (quiet : happening.call? = none) (history : List Happening) :
    calls (happening :: history) = calls history := by
  simp [calls,quiet]

theorem calls_of_began {happening : Happening} {task : IntervalTask} (began : happening.call? = some task)
    (history : List Happening) : calls (happening :: history) = task :: calls history := by
  simp [calls,began]

theorem mem_calls_cons {happening : Happening} {history : List Happening} {task : IntervalTask} :
    task ∈ calls (happening :: history) ↔ happening.call? = some task ∨ task ∈ calls history := by
  simp [calls,List.mem_filterMap]

/-! ## Registered tasks are those that run -/

/-- The registered tasks are those that run, with keys and tokens of their own. -/
structure World.Enrolled (w : World) : Prop where
  registered : (w.runs.map (·.task.entry)).Perm w.registry.tasks
  distinct : w.registry.Distinct

namespace World.Enrolled
variable {w w' : World} {happening : Happening}

theorem keys (enrolled : w.Enrolled) : (w.runs.map (·.task.key)).Nodup := by
  have keys := (enrolled.registered.map (·.1)).nodup_iff.mpr enrolled.distinct.keys
  rwa [List.map_map] at keys

theorem tokens (enrolled : w.Enrolled) : (w.runs.map (·.task.token)).Nodup := by
  have tokens := (enrolled.registered.map (·.2)).nodup_iff.mpr enrolled.distinct.tokens
  rwa [List.map_map] at tokens

/-- No other run has the token of one. -/
theorem apart (enrolled : w.Enrolled) {before after : List IntervalRun} {run other : IntervalRun}
    (place : w.runs = before ++ run :: after) (member : other ∈ before ++ after) :
    other.task.token ≠ run.task.token := by
  have tokens := enrolled.tokens
  rw [place] at tokens
  exact ne_of_nodup_middle (f := fun run : IntervalRun => run.task.token) tokens member

theorem apart_pending (enrolled : w.Enrolled) {before after : List Pending} {p other : Pending}
    {run run' : IntervalRun} (place : w.pending = before ++ p :: after) (member : other ∈ before ++ after)
    (named : p.run? = some run) (named' : other.run? = some run') : run'.task.token ≠ run.task.token := by
  have runs : w.runs = before.filterMap Pending.run? ++ run :: after.filterMap Pending.run? := by
    simp [World.runs,place,named]
  refine enrolled.apart runs ?_
  rw [← List.filterMap_append]
  exact List.mem_filterMap.mpr ⟨other,member,named'⟩

theorem has (enrolled : w.Enrolled) {run : IntervalRun} (member : run ∈ w.runs) :
    w.registry.tokens.Has run.task.token :=
  enrolled.distinct.held run.task.entry (enrolled.registered.subset (List.mem_map.mpr ⟨run,member,rfl⟩))

theorem shift (enrolled : w.Enrolled) (shift : Shift w w' happening) (distinct : w'.registry.Distinct) :
    w'.Enrolled := by
  refine ⟨?_,distinct⟩
  cases shift with
  | beside now runs enrolls others alive =>
    have grown := runs.map (·.task.entry)
    rw [List.map_append,List.map_map] at grown
    rw [enrolls]
    exact grown.trans (enrolled.registered.append_right _)
  | goesOn place waits taken went task registry runs =>
    rw [registry,runs]
    have registered := enrolled.registered
    rw [place] at registered
    simpa only [List.map_append,List.map_cons,task] using registered
  | @ended before after run answer? answer now place waits taken went registry runs =>
    rw [registry,runs]
    have registered := enrolled.registered
    have keys := enrolled.keys
    rw [place] at registered keys
    -- no other run has the key, so nothing else is taken out
    have others : ∀ other ∈ before ++ after, other.task.key ≠ run.task.key := fun _ => ne_of_nodup_middle keys
    have kept : ((before ++ run :: after).map (·.task.entry)).filter (·.1 ≠ run.task.key) =
        (before ++ after).map (·.task.entry) := by
      rw [List.filter_map,List.filter_append,List.filter_cons_of_neg (by simp [IntervalTask.entry]),
        ← List.filter_append,
        List.filter_eq_self.mpr fun other member => by simpa [IntervalTask.entry] using others other member]
    rw [← kept]
    exact registered.filter _
  | restarted runs registry => simp [runs,registry]

end World.Enrolled

theorem Step.distinct {settings : EngineSettings} {w w' : World} {happening : Happening}
    (step : Step settings w happening w') (distinct : w.registry.Distinct) : w'.registry.Distinct := by
  cases step with
  | request activity asked => exact distinct
  | serve before place answer stored? served => exact distinct
  | resume before now place taken went =>
    subst went
    exact distinct.effect (Activity.resume_effect _ _ _ _ _)
  | stop type =>
    have dropped : (w.registry.dropSession type).Distinct := ⟨distinct.keys,distinct.tokens,distinct.held⟩
    unfold Registry.stopWatching Registry.removeSession
    cases w.registry.session? type with
    | none => exact dropped
    | some session => exact dropped.cancel session.token
  | shutDown => exact distinct.cancel Registry.root
  | change changed => exact distinct
  | restart => exact ⟨List.nodup_nil,List.nodup_nil,fun entry member => by cases member⟩

/-- In every state, the registered tasks are those that run. -/
theorem Run.enrolled {settings : EngineSettings} {history : List Happening} {w : World}
    (run : Run settings history w) : w.Enrolled := by
  induction run with
  | start => exact ⟨.nil,List.nodup_nil,List.nodup_nil,fun entry member => by cases member⟩
  | step _ step ih => exact ih.shift step.shift (step.distinct ih.distinct)

/-- The tasks armed in a step, among those armed in the process. -/
theorem tasksArmed_cons {happening : Happening} (alive : happening ≠ .restarted) (history : List Happening) :
    (tasksArmed (happening :: history)).map (·.2) = happening.armed ++ (tasksArmed history).map (·.2) := by
  cases happening with
  | resumed registry activity answer outcome =>
    simp [tasksArmed,armedFrom,Happening.armed,Function.comp_def]
  | requested | served | stopped | shutDown | changed => rfl
  | restarted => exact (alive rfl).elim

/-- What runs was armed. -/
theorem Run.armed_of_run {settings : EngineSettings} {history : List Happening} {w : World}
    (run : Run settings history w) {task : IntervalTask} (member : task ∈ w.runs.map (·.task)) :
    task ∈ (tasksArmed history).map (·.2) := by
  induction run with
  | start => cases member
  | @step history w w' happening _ step ih =>
    by_cases alive : happening = .restarted
    · subst alive
      cases step
      cases member
    · rw [tasksArmed_cons alive]
      rcases step.shift.task_cases member with before | armed
      · exact List.mem_append_right _ (ih before)
      · exact List.mem_append_left _ armed

/-! ## What follows in the same process -/

/-- What may follow a state before the process is replaced, with what happened in it, latest first. -/
inductive Onward (settings : EngineSettings) (w : World) : List Happening → World → Prop where
  | here : Onward settings w [] w
  | step {later : List Happening} {w' w'' : World} {happening : Happening} :
      Onward settings w later w' → Step settings w' happening w'' → happening ≠ .restarted →
        Onward settings w (happening :: later) w''

theorem Run.onward {settings : EngineSettings} {earlier later : List Happening} {w w' : World}
    (run : Run settings earlier w) (onward : Onward settings w later w') : Run settings (later ++ earlier) w' := by
  induction onward with
  | here => exact run
  | step _ step _ ih => exact ih.step step

section
variable {settings : EngineSettings} {w : World} {later : List Happening} {registry : Registry} {activity : Activity}
  {rest : List Pending} {archive : Archive}

theorem Onward.told (onward : Onward settings w later ⟨registry,⟨activity,none⟩ :: rest,archive⟩)
    (answer : activity.demand.Answer) {stored? : Option Rule}
    (served : archive.Serves stored? activity.demand answer) :
    Onward settings w (.served archive activity answer stored? :: later)
      ⟨registry,⟨activity,some answer⟩ :: rest,archive.putIfSome stored?⟩ :=
  onward.step (.serve [] rfl answer stored? served) (by simp)

theorem Onward.goes {answer : activity.demand.Answer}
    (onward : Onward settings w later ⟨registry,⟨activity,some answer⟩ :: rest,archive⟩) (now : Moment)
    {o : Activity.Outcome} (went : activity.resume settings now registry answer = o) :
    Onward settings w (.resumed registry activity answer o :: later)
      ⟨o.registry,o.pending now ++ rest,archive⟩ :=
  onward.step (@Step.resume _ _ [] rest ⟨activity,some answer⟩ answer o now rfl (.inl rfl) went) (by simp)

theorem Onward.decides (onward : Onward settings w later ⟨registry,⟨activity,none⟩ :: rest,archive⟩) (now : Moment)
    (answer : activity.demand.Answer) (decided : registry.Decides activity.demand answer)
    {o : Activity.Outcome} (went : activity.resume settings now registry answer = o) :
    Onward settings w (.resumed registry activity answer o :: later)
      ⟨o.registry,o.pending now ++ rest,archive⟩ :=
  onward.step (@Step.resume _ _ [] rest ⟨activity,none⟩ answer o now rfl (.inr ⟨rfl,decided⟩) went) (by simp)

end

/-- A registry with more tokens, of which none is cancelled no longer. -/
structure Registry.Ages (r r' : Registry) : Prop where
  has : ∀ t, r.tokens.Has t → r'.tokens.Has t
  cancelled : ∀ t, r.tokens.Has t → r.isCancelled t = true → r'.isCancelled t = true

namespace Registry.Ages
variable {r r' r'' : Registry}

theorem refl (r : Registry) : r.Ages r := ⟨fun _ has => has,fun _ _ cancelled => cancelled⟩

theorem trans (ages : r.Ages r') (more : r'.Ages r'') : r.Ages r'' :=
  ⟨fun t has => more.has t (ages.has t has),
    fun t has cancelled => more.cancelled t (ages.has t has) (ages.cancelled t has cancelled)⟩

theorem of_extends (more : r.tokens.Extends r'.tokens) : r.Ages r' :=
  ⟨more.has,fun t has cancelled => (more.isCancelled t has).trans cancelled⟩

theorem cancel (grown : r.tokens.Grown) (t : Token) : r.Ages (r.cancel t) :=
  ⟨fun _ => TokenTree.has_cancel.mpr,
    fun _ has cancelled => (TokenTree.isCancelled_cancel grown has).mpr (.inl cancelled)⟩

end Registry.Ages

/-- The tokens of the tasks are new. -/
def Registry.Mints (r r' : Registry) (tasks : List IntervalTask) : Prop :=
  ∀ task ∈ tasks, ¬r.tokens.Has task.token ∧ r'.tokens.Has task.token

theorem Registry.mints_nil (r r' : Registry) : r.Mints r' [] := fun task member => by cases member

/-- The tasks that a step arms get new tokens. -/
theorem Registry.Effect.ages {opened stopped : List Session} {armed : List ArmedTask} {r r' : Registry}
    {tasks : List IntervalTask} {sessions : List Session} (traced : Traced opened stopped armed r)
    (effect : r.Effect r' tasks sessions) : r.Ages r' ∧ r.Mints r' tasks := by
  cases effect with
  | claimed claims => exact ⟨.of_extends (.refl _),mints_nil _ _⟩
  | removed key => exact ⟨.of_extends (.refl _),mints_nil _ _⟩
  | released type id =>
    refine ⟨?_,mints_nil _ _⟩
    unfold releaseSession
    split <;> exact .of_extends (.refl _)
  | opened opens =>
    refine ⟨?_,mints_nil _ _⟩
    cases opens with
    | same => exact .refl r
    | opened type target free => exact .of_extends ((TokenTree.Extends.refl _).child _)
  | armed event rules claims =>
    have all : ∀ s ∈ r.session? event.type, s ∈ opened := fun s found => traced.opened_of_session? found
    have grows := Registry.arm_grows traced.grown (traced.has_above all) rules
    refine ⟨.of_extends grows.more,fun task member => ?_⟩
    obtain ⟨_,has,fresh,_⟩ := grows.new task member
    exact ⟨fresh,has⟩

theorem Run.ages {settings : EngineSettings} {history : List Happening} {w w' : World} {happening : Happening}
    (run : Run settings history w) (step : Step settings w happening w') (alive : happening ≠ .restarted) :
    w.registry.Ages w'.registry ∧ w.registry.Mints w'.registry happening.armed := by
  have none := w.registry.mints_nil w'.registry
  have grown := run.traced.grown
  cases step with
  | request activity asked => exact ⟨.refl _,none⟩
  | serve before place answer stored? served => exact ⟨.refl _,none⟩
  | resume before now place taken went =>
    subst went
    exact Registry.Effect.ages run.traced (Activity.resume_effect _ _ _ _ _)
  | stop type =>
    refine ⟨?_,none⟩
    have dropped : w.registry.Ages (w.registry.dropSession type) := .of_extends (.refl _)
    unfold Registry.stopWatching Registry.removeSession
    cases w.registry.session? type with
    | none => exact dropped
    | some session => exact dropped.trans (Registry.Ages.cancel (r := w.registry.dropSession type) grown session.token)
  | shutDown => exact ⟨.cancel grown Registry.root,none⟩
  | change changed => exact ⟨.refl _,none⟩
  | restart => exact (alive rfl).elim

theorem Onward.ages {settings : EngineSettings} {earlier later : List Happening} {w w' : World}
    (onward : Onward settings w later w') (run : Run settings earlier w) : w.registry.Ages w'.registry := by
  induction onward with
  | here => exact .refl _
  | step onward step alive ih => exact ih.trans ((run.onward onward).ages step alive).1

/-- The tasks that are armed from a state on have tokens that were none in it. -/
theorem Onward.armed_new {settings : EngineSettings} {earlier later : List Happening} {w w' : World}
    (onward : Onward settings w later w') (run : Run settings earlier w) :
    ∀ task ∈ (tasksArmed later).map (·.2), ¬w.registry.tokens.Has task.token := by
  induction onward with
  | here => exact fun task member => by cases member
  | @step later w' w'' happening onward step alive ih =>
    intro task member
    rw [tasksArmed_cons alive] at member
    rcases List.mem_append.mp member with now | before
    · exact fun held => (((run.onward onward).ages step alive).2 task now).1 ((onward.ages run).has _ held)
    · exact ih task before

/-- The runs of tasks in a state that follows, and those whose actions began since, are of tasks that ran before or
were armed since. -/
theorem Onward.run_cases {settings : EngineSettings} {later : List Happening} {w w' : World}
    (onward : Onward settings w later w') {task : IntervalTask}
    (member : task ∈ w'.runs.map (·.task) ∨ task ∈ calls later) :
    task ∈ w.runs.map (·.task) ∨ task ∈ (tasksArmed later).map (·.2) := by
  induction onward with
  | here =>
    rcases member with member | member
    · exact .inl member
    · cases member
  | @step later w' w'' happening onward step alive ih =>
    have old (member : task ∈ w'.runs.map (·.task) ∨ task ∈ calls later) :
        task ∈ w.runs.map (·.task) ∨ task ∈ (tasksArmed (happening :: later)).map (·.2) := by
      rw [tasksArmed_cons alive]
      exact (ih member).imp_right (List.mem_append_right _)
    rcases member with member | member
    · rcases step.shift.task_cases member with before | armed
      · exact old (.inl before)
      · rw [tasksArmed_cons alive]
        exact .inr (List.mem_append_left _ armed)
    · rcases mem_calls_cons.mp member with now | before
      · exact old (.inl (step.shift.runs_of_call? now))
      · exact old (.inr before)

/-- Once a run ended, its token is that of no other run. -/
theorem Onward.gone {settings : EngineSettings} {earlier later : List Happening} {w w' : World}
    (onward : Onward settings w later w') (run : Run settings earlier w) {token : Token}
    (held : w.registry.tokens.Has token) (gone : ∀ task ∈ w.runs.map (·.task), task.token ≠ token)
    {task : IntervalTask} (member : task ∈ w'.runs.map (·.task) ∨ task ∈ calls later) : task.token ≠ token := by
  rcases onward.run_cases member with before | armed
  · exact gone task before
  · intro same
    refine onward.armed_new run task armed ?_
    rw [same]
    exact held

namespace Sample

/-- A task that waits for its first tick, beside the session of its type. -/
def resting : World where
  registry := Arming.enrolled (Registry.opened {} type target) beatKey type
  pending := [⟨.task (.start (beatTask ⟨2⟩) moment), none⟩, ⟨.watch (.start (nextSession {})), none⟩]
  archive := Archive.put {} beatRule

theorem rests : ∃ history, Run {} history resting := by
  obtain ⟨_,run,_⟩ := watches ((Run.start : Run {} [] {}).step (.change (created beatRule))) rfl
  replace run := run.step (.request (.delivery (.listing event)) trivial)
  exact ⟨_,(run.told (Except.ok [beatRule]) ⟨rfl,fun _ member => member⟩).goes moment
    (resume_listing beat_schedule schedule_read rfl rfl)⟩

end Sample
end Callout
