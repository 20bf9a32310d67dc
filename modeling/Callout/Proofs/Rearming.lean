import Callout.Proofs.Teardown

/-!
Which tasks a match leaves. After arming, every action with a readable schedule has a task, and the task is live
unless its key still belongs to an earlier one, armed under a session that was stopped since
(`Run.armed_cancelled_iff`). Such a task stays registered until its work in progress ends, and arming takes it for
one that runs.
-/
namespace Callout

theorem Registry.Effect.started {r r' : Registry} {tasks : List IntervalTask} {sessions : List Session}
    (effect : r.Effect r' tasks sessions) (started : ∀ entry ∈ r.sessions, r.started = true) :
    ∀ entry ∈ r'.sessions, r'.started = true := by
  cases effect with
  | claimed claims => exact started
  | removed key => exact started
  | released type id =>
    unfold releaseSession
    split
    · exact fun entry member => started entry (List.mem_filter.mp member).1
    · exact started
  | opened opens =>
    cases opens with
    | same => exact started
    | opened type target free => exact fun _ _ => rfl
  | armed event rules claims =>
    obtain ⟨tasks,tokens,frame⟩ := r.arm_frame event rules
    rw [frame]
    exact started

/-- A type only has a session once the first one was registered. -/
theorem Run.started {settings : EngineSettings} {history : List Happening} {w : World}
    (run : Run settings history w) : ∀ entry ∈ w.registry.sessions, w.registry.started = true := by
  induction run with
  | start => exact fun entry member => by cases member
  | @step history w _ _ _ step ih =>
    cases step with
    | request activity asked => exact ih
    | serve before place answer stored? served => exact ih
    | resume before now place taken went =>
      subst went
      exact (Activity.resume_effect _ _ _ _ _).started ih
    | stop type =>
      unfold Registry.stopWatching Registry.removeSession
      cases w.registry.session? type with
      | none => exact fun entry member => ih entry (List.mem_filter.mp member).1
      | some s => exact fun entry member => ih entry (List.mem_filter.mp member).1
    | shutDown => exact ih
    | change changed => exact ih
    | restart => exact fun entry member => by cases member

theorem Run.started_of_session? {settings : EngineSettings} {history : List Happening} {w : World}
    (run : Run settings history w) {type : ResourceType} {session : Session}
    (watched : w.registry.session? type = some session) : w.registry.started = true := by
  obtain ⟨before,after,same,_⟩ := List.lookup_eq_some_iff.mp watched
  exact run.started (type,session) (by rw [same]; simp)

/-- The task of a key, before and after arming: the one that was there, or one that is armed. -/
theorem Arming.Grows.lookup {r : Registry} {event : Event} {a : Arming} (grows : Grows r event a) {key : TaskKey}
    {token : Token} (found : a.registry.tasks.lookup key = some token) :
    r.tasks.lookup key = some token ∨
      r.tasks.lookup key = none ∧ ∃ task ∈ a.armed, task.key = key ∧ task.token = token := by
  rw [grows.tasks,List.lookup_append] at found
  cases before : r.tasks.lookup key with
  | some old =>
    rw [before] at found
    exact .inl found
  | none =>
    rw [before,Option.none_or] at found
    obtain ⟨earlier,later,same,_⟩ := List.lookup_eq_some_iff.mp found
    have member : (key,token) ∈ a.armed.map fun task => (task.key,task.token) := by
      rw [same]
      simp
    obtain ⟨task,inside,named⟩ := List.mem_map.mp member
    cases named
    exact .inr ⟨rfl,task,inside,rfl,rfl⟩

/-- A task of a key that is still registered although the session under which it was armed was stopped. -/
def World.Lingers (w : World) (history : List Happening) (key : TaskKey) : Prop :=
  ∃ session task, (some session,task) ∈ tasksArmed history ∧ session ∈ sessionsStopped history ∧
    w.registry.tasks.lookup key = some task.token

/-- While the type of an event has a session that is not cancelled, arming leaves a task for every action with a
readable schedule, of every rule that answers. The task is cancelled exactly if it is an earlier one that lingers
after its session was stopped. -/
theorem Run.armed_cancelled_iff {settings : EngineSettings} {history : List Happening} {w : World}
    (run : Run settings history w) {event : Event} {session : Session}
    (watched : w.registry.session? event.type = some session)
    (live : w.registry.isCancelled session.token = false) {rules : List Rule} {rule : Rule} (listed : rule ∈ rules)
    (answers : rule.answers event = true) {action : Action} {index : Nat}
    (place : rule.spec.actions[index]? = some action) {raw : String} (given : Arming.schedule? action = some raw)
    {period : Span} (valid : readDuration "schedule" raw = .ok period) :
    ∃ token, (w.registry.arm event rules).registry.tasks.lookup (Arming.keyFor rule event index) = some token ∧
      ((w.registry.arm event rules).registry.isCancelled token = true ↔
        w.Lingers history (Arming.keyFor rule event index)) := by
  have traced := run.traced
  have all : ∀ s ∈ w.registry.session? event.type, s ∈ sessionsOpened history :=
    fun s found => traced.opened_of_session? found
  have grows := Registry.arm_grows traced.grown (traced.has_above all) rules
  have above : w.registry.parentFor event.type = session.token := by
    simp [Registry.parentFor,Session.above,watched]
  have rooted : ¬w.registry.isCancelled Registry.root = true := fun cancelled => by
    rw [(traced.session session (all session watched)).2.mpr (.inl cancelled)] at live
    cases live
  obtain ⟨token,found⟩ := Option.isSome_iff_exists.mp
    (hasTask_arm (run.started_of_session? watched) listed answers place given valid)
  refine ⟨token,found,?_⟩
  rcases grows.lookup found with old | ⟨free,task,armed,_,rfl⟩
  · -- the key was registered: what arming leaves is the task that was there
    obtain ⟨before,after,same,_⟩ := List.lookup_eq_some_iff.mp old
    obtain ⟨⟨session?,task⟩,member,named⟩ := traced.enrolled (Arming.keyFor rule event index,token) (by simp [same])
    obtain rfl : token = task.token := congrArg Prod.snd named
    have kept : (w.registry.arm event rules).registry.isCancelled task.token = w.registry.isCancelled task.token :=
      grows.more.isCancelled _ (traced.has_task member)
    rw [kept]
    constructor
    · intro cancelled
      obtain ⟨s,rfl,stopped⟩ := ((traced.cancelled_iff member).mp cancelled).resolve_left rooted
      exact ⟨s,task,member,stopped,old⟩
    · rintro ⟨s,other,inside,stopped,registered⟩
      have same : other.token = task.token := Option.some.inj (registered.symm.trans old)
      rw [← same]
      exact (traced.cancelled_iff inside).mpr (.inr ⟨s,rfl,stopped⟩)
  · -- the key was free: the task is new, and hangs below the session
    obtain ⟨_,_,_,_,cancelled⟩ := grows.new task armed
    rw [cancelled,above,live]
    constructor
    · intro no
      cases no
    · rintro ⟨s,other,_,_,registered⟩
      cases free.symm.trans registered

namespace Sample

/-- A task that runs is left alone. -/
theorem armed_cancelled_iff_of_running : ∃ history w session token,
    Run {} history w ∧ w.registry.session? event.type = some session ∧
      w.registry.tasks.lookup beatKey = some ⟨2⟩ ∧
      (w.registry.arm event [beatRule]).registry.tasks.lookup beatKey = some token ∧
      (w.registry.arm event [beatRule]).registry.isCancelled token = false := by
  obtain ⟨_,run,_,none⟩ := watches ((Run.start : Run {} [] {}).step (.change (created beatRule))) rfl
  obtain ⟨history,_,run,_,same⟩ := notifies run rfl rfl rfl (.head _)
  have watched : (Arming.enrolled (Registry.opened {} type target) beatKey type).session? event.type =
      some (nextSession {}) := rfl
  have place : beatRule.spec.actions[0]? = some beat := rfl
  obtain ⟨token,found,cancelled⟩ :=
    run.armed_cancelled_iff watched rfl (List.mem_singleton_self beatRule) (by decide) place (by decide) schedule_read
  refine ⟨_,_,nextSession {},token,run,rfl,rfl,found,?_⟩
  rw [Bool.eq_false_iff]
  intro lingers
  obtain ⟨s,task,_,stopped,_⟩ := cancelled.mp lingers
  rw [same,none] at stopped
  cases stopped

/-- The action of a task still runs when its type is watched anew, and the match of the new session arms nothing. -/
theorem lingering_task_blocks_rearming : ∃ history w session token,
    Run {} history w ∧ w.registry.isCancelled Registry.root = false ∧
      w.registry.session? event.type = some session ∧ w.registry.isCancelled session.token = false ∧
      (∃ ticker call, ⟨.task ⟨beatTask token,ticker,.running call⟩,none⟩ ∈ w.pending) ∧
      beatRule.answers event = true ∧ Arming.schedule? beat = some "10s" ∧
      (w.registry.arm event [beatRule]).registry.tasks.lookup (Arming.keyFor beatRule event 0) = some token ∧
      (w.registry.arm event [beatRule]).registry.isCancelled token = true := by
  obtain ⟨_,run,_⟩ := watches ((Run.start : Run {} [] {}).step (.change (created beatRule))) rfl
  obtain ⟨_,_,run,_⟩ := notifies run rfl rfl rfl (.head _)
  -- the task takes a tick, and its action runs
  replace run := run.step
    (@Step.resume {} _ [_] [] ⟨.task (.start (beatTask ⟨2⟩) moment),none⟩ Tick.due _ moment rfl (.inr ⟨rfl,rfl⟩) rfl)
  replace run := run.step
    (@Step.serve {} _ [_] [] (.task ⟨beatTask ⟨2⟩,_,.looking⟩) rfl (Except.ok beatRule) none ⟨rfl,rfl⟩)
  replace run := run.step
    (@Step.resume {} _ [_] [] ⟨.task ⟨beatTask ⟨2⟩,_,.looking⟩,some (Except.ok beatRule)⟩ (Except.ok beatRule) _
      moment rfl (.inl rfl) rfl)
  -- meanwhile the type is watched anew
  replace run := run.step (.stop type)
  obtain ⟨_,run,_⟩ := watches run rfl
  refine ⟨_,_,_,⟨2⟩,run,rfl,rfl,rfl,⟨_,_,.tail _ (.tail _ (.head _))⟩,by decide,by decide,?_,?_⟩
  · rfl
  · rfl

end Sample
end Callout
