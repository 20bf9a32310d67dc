import Callout.Proofs.Enrollment
import Callout.Proofs.Recreation

/-!
Which rule an interval task runs for. A task looks its rule up by name at every tick, so it runs as long as there is
some rule under that name (`Run.task_follows_name`). That is the rule that the task was armed for exactly if that one
was not deleted since it was listed; a rule that is deleted and created anew between two ticks is not told apart.
-/
namespace Callout

/-! ## The rules that tasks are armed for -/

/-- The rules that an answer tells. -/
def Demand.told : (d : Demand) → d.Answer → List Rule
  | .rules, answer => listed (some answer)
  | .rule _, _ | .update _, _ | .secret _ _, _ | .run _, _ | .resolve _, _ | .pause _, _ | .tick _ _, _
  | .notification _, _ | .news _, _ => []

/-- A task for an action of a rule that answers its event. -/
structure IntervalTask.IsFor (task : IntervalTask) (rule : Rule) : Prop where
  named : task.key.rule = rule.id
  answers : rule.answers task.event = true
  action : rule.spec.actions[task.key.action]? = some task.action

theorem Registry.arm_isFor {r : Registry} {event : Event} {rules : List Rule} {task : IntervalTask}
    (armed : task ∈ (r.arm event rules).armed) : ∃ rule ∈ rules, task.IsFor rule := by
  let Suited (a : Arming) : Prop := ∀ task ∈ a.armed, ∃ rule ∈ rules, task.IsFor rule
  suffices suited : Suited (r.arm event rules) from suited task armed
  refine Arming.arm_induction (motive := Suited) (fun task member => by cases member) ?_
  intro a holds rule listed answers entry inside
  refine Arming.action_cases (motive := Suited) rule event a entry holds (fun _ => holds) ?_
  intro period free task member
  rw [Arming.register_of_free free] at member
  rcases List.mem_append.mp member with before | new
  · exact holds task before
  · cases List.mem_singleton.mp new
    exact ⟨rule,listed,rfl,answers,List.mk_mem_zipIdx_iff_getElem?.mp inside⟩

theorem Delivery.resume_isFor {settings : EngineSettings} {now : Moment} {registry : Registry} {d : Delivery}
    {answer : d.demand.Answer} {task : IntervalTask}
    (armed : task ∈ (d.resume settings now registry answer).armed) :
    ∃ rule ∈ d.demand.told answer, task.IsFor rule := by
  cases d with
  | listing event =>
    change Except Fault (List Rule) at answer
    change task ∈ (afterListing registry event answer).armed at armed
    cases answer with
    | error fault => cases armed
    | ok rules => exact Registry.arm_isFor armed
  | dispatching dispatch rest first? =>
    change task ∈ (withDispatch _ rest first? (dispatch.resume settings now registry answer)).armed at armed
    unfold withDispatch at armed
    split at armed
    · cases armed
    · rw [(proceed_frame _ _ _ _).2] at armed
      cases armed

theorem WatchRun.resume_isFor {settings : EngineSettings} {now : Moment} {registry : Registry} {w : WatchRun}
    {answer : w.demand.Answer} {task : IntervalTask}
    (armed : task ∈ (w.resume settings now registry answer).armed) :
    ∃ rule ∈ w.demand.told answer, task.IsFor rule := by
  obtain ⟨session,tracker,stage⟩ := w
  cases stage with
  | idle =>
    change Item at answer
    change task ∈ (afterItem ⟨session,tracker,.idle⟩ registry answer).armed at armed
    cases answer with
    | cancelled => cases armed
    | ended => cases armed
    | next item =>
      cases item with
      | error fault => cases armed
      | ok notification =>
        simp only [afterItem,(deliver_frame _ _ _).2] at armed
        cases armed
  | delivering delivery rest =>
    change task ∈ (withDelivery _ rest (delivery.resume settings now registry answer)).armed at armed
    unfold withDelivery at armed
    split at armed
    · exact Delivery.resume_isFor armed
    · exact Delivery.resume_isFor armed

/-- Whatever is armed is for a rule that was just told. -/
theorem Activity.resume_isFor {settings : EngineSettings} {now : Moment} {registry : Registry} {activity : Activity}
    {answer : activity.demand.Answer} {task : IntervalTask}
    (armed : task ∈ (activity.resume settings now registry answer).armed) :
    ∃ rule ∈ activity.demand.told answer, task.IsFor rule := by
  cases activity with
  | watch run => exact WatchRun.resume_isFor armed
  | delivery delivery => exact Delivery.resume_isFor armed
  | arming event =>
    change Except Fault (List Rule) at answer
    cases answer with
    | error fault => cases armed
    | ok rules => exact Registry.arm_isFor armed
  | task | unopened | opening | reconciling | reconciler => cases armed

/-! ## What is told was stored -/

theorem Archive.Serves.told {archive : Archive} {stored? : Option Rule} {d : Demand} {answer : d.Answer}
    (served : archive.Serves stored? d answer) {rule : Rule} (member : rule ∈ d.told answer) :
    rule ∈ archive.versions := by
  cases d with
  | rules =>
    change Except Fault (List Rule) at answer
    cases answer with
    | error fault => cases member
    | ok rules => exact served.2 rule member
  | rule | update | secret | run | resolve | pause | tick | notification | news => cases member
  | never => exact answer.elim

/-- No state that was stored is forgotten. -/
theorem Step.mem_versions {settings : EngineSettings} {w w' : World} {happening : Happening}
    (step : Step settings w happening w') {rule : Rule} (member : rule ∈ w.archive.versions) :
    rule ∈ w'.archive.versions := by
  cases step with
  | serve before place answer stored? served => exact Archive.mem_versions_putIfSome stored? member
  | change changed => exact changed.mem_versions member
  | request | resume | stop | shutDown | restart => exact member

/-- Whatever an activity is being told of rules was stored once. -/
def World.Told (w : World) : Prop :=
  ∀ p ∈ w.pending, ∀ answer ∈ p.answer?, ∀ rule ∈ p.activity.demand.told answer, rule ∈ w.archive.versions

theorem Run.told_known {settings : EngineSettings} {history : List Happening} {w : World}
    (run : Run settings history w) : w.Told := by
  induction run with
  | start => exact fun p member => by cases member
  | @step history w w' happening run step ih =>
    cases step with
    | request activity asked =>
      intro p member answer held
      rcases List.mem_cons.mp member with rfl | member
      · cases held
      · exact ih p member answer held
    | @serve before after activity place answer stored? served =>
      intro p member told held rule inside
      refine Archive.mem_versions_putIfSome stored? ?_
      rcases mem_middle.mp member with rfl | member
      · cases held
        exact served.told inside
      · exact ih p (mem_beside place member) told held rule inside
    | @resume before after q answer o now place taken went =>
      intro p member told held
      simp only [List.mem_append] at member
      rcases member with (member | member) | member
      · exact ih p (mem_beside place (by simp [member])) told held
      · rw [Activity.Outcome.unanswered member] at held
        cases held
      · exact ih p (mem_beside place (by simp [member])) told held
    | stop type => exact ih
    | shutDown => exact ih
    | change changed =>
      exact fun p member answer held rule inside => changed.mem_versions (ih p member answer held rule inside)
    | restart => exact fun p member => by cases member

/-- What is decided in the moment tells no rules. -/
theorem Registry.not_told_of_decides {r : Registry} {d : Demand} {answer : d.Answer} (decided : r.Decides d answer)
    {rule : Rule} : rule ∉ d.told answer := by
  cases d with
  | rules => exact decided.elim
  | rule | update | secret | run | resolve | pause | tick | notification | news => exact List.not_mem_nil
  | never => exact answer.elim

theorem Pending.Takes.told_known {w : World} (known : w.Told) {p : Pending} (member : p ∈ w.pending)
    {answer : p.activity.demand.Answer} (taken : p.Takes w.registry answer) {rule : Rule}
    (inside : rule ∈ p.activity.demand.told answer) : rule ∈ w.archive.versions := by
  rcases taken with held | ⟨_,decided⟩
  · exact known p member answer held rule inside
  · exact (Registry.not_told_of_decides decided inside).elim

/-- A task was armed for a state of a rule that had just been told. -/
def IntervalTask.ArmedFor (task : IntervalTask) (rule : Rule) (history : List Happening) : Prop :=
  ∃ registry activity answer outcome, .resumed registry activity answer outcome ∈ history ∧ task ∈ outcome.armed ∧
    rule ∈ activity.demand.told answer ∧ task.IsFor rule

theorem IntervalTask.ArmedFor.later {task : IntervalTask} {rule : Rule} {history : List Happening}
    (armed : task.ArmedFor rule history) (happening : Happening) : task.ArmedFor rule (happening :: history) := by
  obtain ⟨registry,activity,answer,outcome,member,rest⟩ := armed
  exact ⟨registry,activity,answer,outcome,.tail _ member,rest⟩

/-- A rule that a task was armed for was stored once. -/
theorem Run.armed_for_known {settings : EngineSettings} {history : List Happening} {w : World}
    (run : Run settings history w) {task : IntervalTask} {rule : Rule} (armed : task.ArmedFor rule history) :
    rule ∈ w.archive.versions := by
  obtain ⟨registry,activity,answer,outcome,member,_,told,_⟩ := armed
  induction run with
  | start => cases member
  | @step history w w' happening run step ih =>
    rcases List.mem_cons.mp member with now | before
    · cases step with
      | @resume _ _ p _ _ _ place taken went =>
        cases now
        exact taken.told_known run.told_known (mem_of_place place) told
      | request | serve | stop | shutDown | change | restart => cases now
    · exact step.mem_versions (ih before)

/-- Every task was armed for some rule. -/
theorem Run.armed_for {settings : EngineSettings} {history : List Happening} {w : World}
    (run : Run settings history w) {task : IntervalTask} (armed : task ∈ (tasksArmed history).map (·.2)) :
    ∃ rule, task.ArmedFor rule history := by
  induction run with
  | start => cases armed
  | @step history w w' happening run step ih =>
    by_cases alive : happening = .restarted
    · subst alive
      cases armed
    · rw [tasksArmed_cons alive] at armed
      rcases List.mem_append.mp armed with now | before
      · cases step with
        | @resume _ _ p answer o _ place taken went =>
          subst went
          obtain ⟨rule,told,isFor⟩ := Activity.resume_isFor now
          exact ⟨rule,_,_,_,_,.head _,now,told,isFor⟩
        | request | serve | stop | shutDown | change | restart => cases now
      · obtain ⟨rule,armed⟩ := ih before
        exact ⟨rule,armed.later _⟩

/-! ## Lookups -/

/-- Since its last tick, the lookup of a task found a rule under the name of the one that the task was armed for. It
is that one exactly if that one was not deleted in between. -/
def IntervalTask.Finds (task : IntervalTask) (history : List Happening) (found : Rule) : Prop :=
  ∃ newer archive ticker stored? older,
    history = newer ++ .served archive (.task ⟨task, ticker, .looking⟩) (Except.ok found) stored? :: older ∧
    (∀ happening ∈ newer, ¬happening.Ticks task.token ∧ happening ≠ .restarted) ∧
    archive.current? task.key.rule = some found ∧ (∃ rule, task.ArmedFor rule older) ∧
    ∀ rule, task.ArmedFor rule older → (found.metadata.uid? = rule.metadata.uid? ↔ ¬archive.DeletedSince rule)

theorem IntervalTask.Finds.later {task : IntervalTask} {history : List Happening} {found : Rule}
    (finds : task.Finds history found) {happening : Happening} (unticked : ¬happening.Ticks task.token)
    (alive : happening ≠ .restarted) : task.Finds (happening :: history) found := by
  obtain ⟨newer,archive,ticker,stored?,older,same,since,rest⟩ := finds
  exact ⟨happening :: newer,archive,ticker,stored?,older,by rw [same,List.cons_append],
    List.forall_mem_cons.mpr ⟨⟨unticked,alive⟩,since⟩,rest⟩

/-- What a lookup finds. -/
theorem Run.finds {settings : EngineSettings} {history : List Happening} {w : World} (run : Run settings history w)
    {task : IntervalTask} {ticker : Ticker} {answer? : Option (Except Fault Rule)}
    (waits : ⟨.task ⟨task,ticker,.looking⟩,answer?⟩ ∈ w.pending) {found : Rule}
    (current : w.archive.current? task.key.rule = some found) (stored? : Option Rule) :
    task.Finds (.served w.archive (.task ⟨task,ticker,.looking⟩) (Except.ok found) stored? :: history) found := by
  have runs : (⟨task,ticker,.looking⟩ : IntervalRun) ∈ w.runs := List.mem_filterMap.mpr ⟨_,waits,rfl⟩
  refine ⟨[],w.archive,ticker,stored?,history,rfl,(fun _ member => by cases member),current,?_,?_⟩
  · exact run.armed_for (run.armed_of_run (List.mem_map.mpr ⟨_,runs,rfl⟩))
  · intro rule armed
    obtain ⟨_,_,_,_,_,_,_,isFor⟩ := id armed
    refine run.desk_and_listed.1.steady rule (run.armed_for_known armed) found ?_
    rw [← isFor.named]
    exact current

/-- What the run of a task knows of its rule: what it is being told, and what it was told before it reads secrets. -/
def IntervalRun.Knows (history : List Happening) : (r : IntervalRun) → Option r.demand.Answer → Prop
  | ⟨task, _, .looking⟩, answer? => ∀ found, answer? = some (Except.ok found) → task.Finds history found
  | ⟨task, _, .reading _ _ _⟩, _ => task.event.kind ≠ .delete → ∃ found, task.Finds history found
  | ⟨_, _, .waiting⟩, _ | ⟨_, _, .running _⟩, _ | ⟨_, _, .lost⟩, _ => True

/-- A run that begins knows nothing yet. -/
theorem IntervalRun.Knows.start (task : IntervalTask) (now : Moment) (history : List Happening) :
    (IntervalRun.start task now).Knows history none := by
  simp only [IntervalRun.start]
  cases Ticker.start? now.nanos task.period <;> trivial

/-- Whether a run performs its action: it resolves headers, or the action runs. -/
def IntervalRun.Performs (r : IntervalRun) : Prop :=
  match r.stage with
  | .reading _ _ _ | .running _ => True
  | .waiting | .looking | .lost => False

/-- A run performs its action after it found its rule, unless its object was deleted. -/
theorem IntervalRun.Knows.finds {history : List Happening} {r r' : IntervalRun} {answer : r.demand.Answer}
    (knows : r.Knows history (some answer)) {now : Moment} {registry registry' : Registry}
    (went : r.resume now registry answer = (registry',.waiting r')) (performs : r'.Performs)
    (kept : r.task.event.kind ≠ .delete) : r.stage ≠ .waiting ∧ ∃ found, r.task.Finds history found := by
  cases advances_of_waiting went with
  | performs deletion => exact (kept deletion).elim
  | looks | passed | ran => exact performs.elim
  | found rule => exact ⟨fun no => (by cases no),rule,knows rule rfl⟩
  | read => exact ⟨fun no => (by cases no),knows kept⟩

theorem IntervalRun.Knows.later {history : List Happening} {r : IntervalRun} {answer? : Option r.demand.Answer}
    (knows : r.Knows history answer?) {happening : Happening} (unticked : ¬happening.Ticks r.task.token)
    (alive : happening ≠ .restarted) : r.Knows (happening :: history) answer? := by
  obtain ⟨task,ticker,stage⟩ := r
  cases stage with
  | waiting => trivial
  | running call => trivial
  | lost => trivial
  | looking => exact fun found told => (knows found told).later unticked alive
  | reading space name next =>
    intro kept
    obtain ⟨found,finds⟩ := knows kept
    exact ⟨found,finds.later unticked alive⟩

/-- Only a run that waits takes a tick. -/
theorem Happening.Ticks.waiting {registry : Registry} {activity : Activity} {answer : activity.demand.Answer}
    {outcome : Activity.Outcome} {token : Token}
    (ticks : (Happening.resumed registry activity answer outcome).Ticks token) :
    ∃ r : IntervalRun, activity = .task r ∧ r.stage = .waiting ∧ r.task.token = token := by
  cases activity with
  | watch | delivery | arming | unopened | opening | reconciling | reconciler => exact ticks.elim
  | task r =>
    obtain ⟨task,ticker,stage⟩ := r
    cases stage with
    | waiting => exact ⟨_,rfl,rfl,ticks.1⟩
    | looking | reading | running => exact ticks.elim
    | lost => exact answer.elim

/-- The tick of a task is none of another one. -/
theorem Run.unticked {settings : EngineSettings} {history : List Happening} {w : World}
    (run : Run settings history w) {before after : List Pending} {q : Pending}
    (place : w.pending = before ++ q :: after) {r : IntervalRun} {answer? : Option r.demand.Answer}
    (member : ⟨.task r,answer?⟩ ∈ before ++ after) {registry : Registry} {answer : q.activity.demand.Answer}
    {outcome : Activity.Outcome} : ¬(Happening.resumed registry q.activity answer outcome).Ticks r.task.token := by
  intro ticks
  obtain ⟨r',own,_,same⟩ := ticks.waiting
  obtain ⟨activity,given?⟩ := q
  change activity = .task r' at own
  subst own
  exact run.enrolled.apart_pending place member rfl rfl same.symm

/-- What a run takes is what it was told, or a decision about its tick. -/
theorem Pending.Takes.known {history : List Happening} {registry : Registry} {r : IntervalRun}
    {answer? : Option r.demand.Answer} {answer : r.demand.Answer}
    (taken : Pending.Takes ⟨.task r,answer?⟩ registry answer) (known : r.Knows history answer?) :
    r.Knows history (some answer) := by
  rcases taken with held | ⟨_,decided⟩
  · change answer? = some answer at held
    rw [← held]
    exact known
  · obtain ⟨task,ticker,stage⟩ := r
    cases stage with
    | waiting => trivial
    | looking | reading | running => exact decided.elim
    | lost => exact answer.elim

/-- What a run knows when it goes on. -/
theorem IntervalRun.Knows.goes {history : List Happening} {r r' : IntervalRun} {answer : r.demand.Answer}
    (knows : r.Knows history (some answer)) {now : Moment} {registry : Registry}
    (went : r.resume now registry answer = (registry,.waiting r')) (task : r'.task = r.task)
    (outcome : Activity.Outcome) : r'.Knows (.resumed registry (.task r) answer outcome :: history) none := by
  have finds (performs : r'.Performs) (kept : r'.task.event.kind ≠ .delete) :
      ∃ found, r'.task.Finds (.resumed registry (.task r) answer outcome :: history) found := by
    rw [task] at kept ⊢
    obtain ⟨unticked,found,finds⟩ := knows.finds went performs kept
    refine ⟨found,finds.later (fun ticks => ?_) (by simp)⟩
    obtain ⟨_,own,waiting,_⟩ := ticks.waiting
    cases own
    exact unticked waiting
  obtain ⟨task,ticker,stage⟩ := r'
  cases stage with
  | waiting => trivial
  | running call => trivial
  | lost => trivial
  | looking => exact fun found told => by cases told
  | reading space name next => exact finds trivial

/-- What runs know is so. -/
theorem Run.knows {settings : EngineSettings} {history : List Happening} {w : World}
    (run : Run settings history w) {r : IntervalRun} {answer? : Option r.demand.Answer}
    (waits : ⟨.task r,answer?⟩ ∈ w.pending) : r.Knows history answer? := by
  -- a run learns only from the lookup that is served to it, and forgets only at its own ticks
  induction run generalizing r with
  | start => cases waits
  | @step history w w' happening run step ih =>
    cases step with
    | request activity asked =>
      rcases List.mem_cons.mp waits with same | member
      · cases same
        exact asked.elim
      · exact (ih member).later (fun no => no) (by simp)
    | @serve before after activity place answer stored? served =>
      rcases mem_middle.mp waits with same | member
      · cases same
        have asking := mem_of_place place
        obtain ⟨task,ticker,stage⟩ := r
        cases stage with
        | waiting => trivial
        | running call => trivial
        | lost => trivial
        | reading space name next => exact (ih asking).later (fun no => no) (by simp)
        | looking =>
          intro found told
          cases told
          exact run.finds asking served.2 stored?
      · exact (ih (mem_beside place member)).later (fun no => no) (by simp)
    | @resume before after q answer o now place taken went =>
      subst went
      have alive : Happening.resumed w.registry q.activity answer
          (q.activity.resume settings now w.registry answer) ≠ .restarted := by simp
      have other (member : ⟨.task r,answer?⟩ ∈ before ++ after) :=
        (ih (mem_beside place member)).later (run.unticked place member) alive
      simp only [List.mem_append,Activity.Outcome.pending,List.mem_map] at waits
      rcases waits with (member | (member | ⟨task,_,begun⟩) | ⟨session,_,begun⟩) | member
      · exact other (List.mem_append_left _ member)
      · obtain ⟨activity,given?⟩ := q
        have waited := mem_of_place place
        rcases activity.task_cases with ⟨r₀,rfl⟩ | ⟨others,_⟩
        · change r₀.demand.Answer at answer
          rcases r₀.resume_cases now w.registry answer with ended | ⟨r',task,went⟩
          · obtain ⟨_,goes,_⟩ := Activity.Outcome.of_mem_next member
            cases (congrArg Prod.snd ended).symm.trans goes
          · obtain ⟨_,goes,same⟩ := Activity.Outcome.of_mem_next member
            cases (congrArg Prod.snd went).symm.trans goes
            cases same
            exact (taken.known (ih waited)).goes went task _
        · have runs := activity.resume_runs settings now w.registry others answer
          cases List.filterMap_eq_nil_iff.mp runs _ member
      · cases begun
        exact .start task now _
      · cases begun
      · exact other (List.mem_append_right _ member)
    | stop type => exact (ih waits).later (fun no => no) (by simp)
    | shutDown => exact (ih waits).later (fun no => no) (by simp)
    | change changed => exact (ih waits).later (fun no => no) (by simp)
    | restart => cases waits

/-! ## What becomes of a task -/

/-- What ends a task: it is told that there is no rule under the name. -/
def IntervalTask.EndedBy : Except Fault Rule → Prop
  | .ok _ => False
  | .error fault => fault.isNotFound = true

/-- A task takes an answer to its lookup. -/
def Happening.Takes (task : IntervalTask) (answer : Except Fault Rule) : Happening → Prop
  | .resumed _ (.task ⟨task', _, .looking⟩) given _ => task' = task ∧ given = answer
  | _ => False

theorem Happening.Takes.looking {registry : Registry} {r : IntervalRun} {given : r.demand.Answer}
    {outcome : Activity.Outcome} {task : IntervalTask} {answer : Except Fault Rule}
    (takes : (Happening.resumed registry (.task r) given outcome).Takes task answer) :
    r.task = task ∧ (IntervalTask.EndedBy answer → ∀ now, r.resume now registry given = r.finish registry) ∧
      (¬IntervalTask.EndedBy answer → ∀ now, ∃ r', r.resume now registry given = (registry,.waiting r')) := by
  obtain ⟨task',ticker,stage⟩ := r
  cases stage with
  | waiting | reading | running => exact takes.elim
  | lost => exact given.elim
  | looking =>
    change Except Fault Rule at given
    obtain ⟨rfl,rfl⟩ : task' = task ∧ given = answer := takes
    refine ⟨rfl,fun ended now => ?_,fun goes now => ?_⟩
    · cases given with
      | ok found => exact ended.elim
      | error fault => exact if_pos ended
    · cases given with
      | ok found => exact ⟨_,rfl⟩
      | error fault => exact ⟨_,if_neg goes⟩

/-- The action of a task begins after its lookup. -/
theorem Run.finds_of_call? {settings : EngineSettings} {history : List Happening} {w w' : World}
    {happening : Happening} (run : Run settings history w) (step : Step settings w happening w')
    {task : IntervalTask} (began : happening.call? = some task) (kept : task.event.kind ≠ .delete) :
    ∃ found, task.Finds history found := by
  cases step.shift with
  | beside now runs enrolls others alive => cases (Happening.call?_of_mover? others).symm.trans began
  | @goesOn before after r r' answer? answer now place waits taken went same registry runs =>
    rcases Happening.call?_task w.registry w.registry r r' answer with ⟨called,call,running⟩ | ⟨quiet,_⟩
    · cases called.symm.trans began
      have performs : r'.Performs := by simp [IntervalRun.Performs,running]
      exact ((taken.known (run.knows waits)).finds went performs kept).2
    · cases quiet.symm.trans began
  | ended => cases began
  | restarted => cases began

/-- A task that is told that there is no rule ends for good, and no other answer ends it. -/
theorem Run.ends_of_takes {settings : EngineSettings} {history : List Happening} {w w' : World}
    {happening : Happening} (run : Run settings history w) (step : Step settings w happening w')
    {task : IntervalTask} {answer : Except Fault Rule} (takes : happening.Takes task answer) :
    (IntervalTask.EndedBy answer → w'.registry.hasTask task.key = false ∧ ∀ later w'', Onward settings w' later w'' →
      ∀ other, other ∈ w''.runs.map (·.task) ∨ other ∈ calls later → other.token ≠ task.token) ∧
      (¬IntervalTask.EndedBy answer → task ∈ w'.runs.map (·.task)) := by
  have next := run.step step
  cases step.shift with
  | beside now runs enrolls others alive =>
    cases happening with
    | resumed registry activity given outcome =>
      cases activity with
      | task r => cases others
      | watch | delivery | arming | unopened | opening | reconciling | reconciler => exact takes.elim
    | requested | served | stopped | shutDown | changed | restarted => exact takes.elim
  | @goesOn before after r r' answer? given now place waits taken went same registry runs =>
    obtain ⟨rfl,ends,goes⟩ := takes.looking
    refine ⟨fun ended => ?_,fun _ => ?_⟩
    · cases congrArg Prod.snd (went.symm.trans (ends ended now))
    · exact List.mem_map.mpr ⟨r',by simp [runs],same⟩
  | @ended before after r answer? given now place waits taken went registry runs =>
    obtain ⟨rfl,ends,goes⟩ := takes.looking
    refine ⟨fun _ => ⟨?_,fun later w'' onward other member => ?_⟩,fun kept => ?_⟩
    · rw [registry]
      exact w.registry.hasTask_removeTask r.task.key
    · refine onward.gone next ?_ (fun task inside => ?_) member
      · rw [registry]
        exact run.enrolled.has (mem_of_place place)
      · rw [runs] at inside
        obtain ⟨r',beside,rfl⟩ := List.mem_map.mp inside
        exact run.enrolled.apart place beside
    · obtain ⟨r',went'⟩ := goes kept now
      cases congrArg Prod.snd (went.symm.trans went')
  | restarted => exact takes.elim

/-- The action of a task begins only if its lookup, since its last tick, found some rule under the name of the one
that the task was armed for. A task that is told that there is none takes its key out and ends for good, and no other
answer ends it. -/
theorem Run.task_follows_name {settings : EngineSettings} {history : List Happening} {happening : Happening}
    {w : World} (run : Run settings (happening :: history) w) (task : IntervalTask) :
    (happening.call? = some task → task.event.kind ≠ .delete → ∃ found, task.Finds history found) ∧
      ∀ answer, happening.Takes task answer →
        (IntervalTask.EndedBy answer → w.registry.hasTask task.key = false ∧
          ∀ later w', Onward settings w later w' →
            ∀ other, other ∈ w'.runs.map (·.task) ∨ other ∈ calls later → other.token ≠ task.token) ∧
        (¬IntervalTask.EndedBy answer → task ∈ w.runs.map (·.task)) := by
  cases run with
  | step before step => exact ⟨before.finds_of_call? step,fun _ => before.ends_of_takes step⟩

namespace Sample

/-- While its rule is there, the action of a task begins. The rule is deleted, and the next tick ends the task. -/
theorem task_follows_name_of_kept : ∃ history happening w found later last w' fault,
    Run {} (happening :: history) w ∧ happening.call? = some (beatTask ⟨2⟩) ∧
      (beatTask ⟨2⟩).Finds history found ∧ Run {} (last :: (later ++ happening :: history)) w' ∧
      last.Takes (beatTask ⟨2⟩) (.error fault) ∧ w'.registry.hasTask beatKey = false := by
  obtain ⟨_,run⟩ := rests
  replace run := (run.decides moment Tick.due rfl rfl).told (Except.ok beatRule) ⟨rfl,rfl⟩
  replace run := run.goes moment rfl
  obtain ⟨found,finds⟩ := (run.task_follows_name (beatTask ⟨2⟩)).1 rfl (by decide)
  have ran := (run.told (Except.ok ()) rfl).goes moment rfl
  replace ran := ran.step (.change (.delete beatRule.id))
  replace ran := (ran.decides moment Tick.due rfl rfl).told (Except.error (.notFound "default/r")) ⟨rfl,trivial⟩
  replace ran := ran.goes moment rfl
  obtain ⟨free,_⟩ := ((ran.task_follows_name (beatTask ⟨2⟩)).2 _ ⟨rfl,rfl⟩).1 rfl
  exact ⟨_,_,_,found,[_,_,_,_,_],_,_,_,run,rfl,finds,ran,⟨rfl,rfl⟩,free⟩

private theorem recreated : Archive.Change ⟨[(beatRule.id,none),(beatRule.id,some beatRule)]⟩
    ⟨[(anewRule.id,some anewRule),(beatRule.id,none),(beatRule.id,some beatRule)]⟩ :=
  .create rfl (by
    intro old member
    cases List.mem_singleton.mp (show old ∈ [beatRule] from member)
    decide) (by
    intro old member id version
    cases List.mem_singleton.mp (show old ∈ [beatRule] from member)
    exact absurd version (by decide))

/-- Between two ticks, the rule of a task is deleted and another one, without the action, is created under its name.
The task finds that one, and its action begins. -/
theorem task_outlives_rule : ∃ history happening w found,
    Run {} (happening :: history) w ∧ happening.call? = some (beatTask ⟨2⟩) ∧
      (∀ rule, (beatTask ⟨2⟩).ArmedFor rule history → rule.metadata.uid? = some "uid-1") ∧
      (beatTask ⟨2⟩).Finds history found ∧ found.metadata.uid? = some "uid-2" ∧
      w.registry.hasTask beatKey = true := by
  obtain ⟨_,run⟩ := rests
  replace run := (run.step (.change (.delete beatRule.id))).step (.change recreated)
  replace run := run.decides moment Tick.due rfl rfl
  have finds := run.finds (.head _) rfl none
  replace run := run.told (Except.ok anewRule) ⟨rfl,rfl⟩
  refine ⟨_,_,_,anewRule,run.goes moment rfl,rfl,?_,finds,rfl,by decide⟩
  intro rule armed
  have known : rule ∈ [anewRule,beatRule] := run.armed_for_known armed
  obtain ⟨_,_,_,_,_,_,_,isFor⟩ := armed
  rcases List.mem_cons.mp known with rfl | old
  · exact absurd isFor.action (by decide)
  · cases List.mem_singleton.mp old
    rfl

end Sample
end Callout
