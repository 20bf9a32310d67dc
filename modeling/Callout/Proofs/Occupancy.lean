import Callout.Proofs.Enrollment

/-!
Who holds a key. Every task that was armed in a process either runs or has ended (`Run.armed_balance`), and a key is
registered exactly while one task with it runs. A task that runs is left alone by every step but its own, so arming
its key again changes nothing about it. Its run ends when its tick is cancelled or its rule is gone, and takes out
its own entry and no other (`Run.key_held_by_one`).
-/
namespace Callout

/-! ## Ends of tasks -/

/-- Whether the run of a task ends with an answer: its tick is cancelled, or its rule is gone. -/
def IntervalRun.Stops : (r : IntervalRun) → r.demand.Answer → Prop
  | ⟨_, _, .waiting⟩, answer => answer = Tick.cancelled
  | ⟨_, _, .looking⟩, answer => ∃ fault, answer = Except.error fault ∧ fault.isNotFound = true
  | ⟨_, _, .reading _ _ _⟩, _ | ⟨_, _, .running _⟩, _ => False

/-- The task whose run ends at a step. -/
def Happening.ended? : Happening → Option IntervalTask
  | .resumed _ (.task run) _ ⟨_, _, _, .finished _⟩ => some run.task
  | _ => none

/-- The tasks that ended in the process that runs, latest first. -/
def tasksEnded : List Happening → List IntervalTask
  | .restarted :: _ | [] => []
  | happening :: rest => happening.ended?.toList ++ tasksEnded rest

theorem tasksEnded_cons {happening : Happening} (alive : happening ≠ .restarted) (history : List Happening) :
    tasksEnded (happening :: history) = happening.ended?.toList ++ tasksEnded history := by
  cases happening with
  | requested | served | resumed | stopped | shutDown | changed => rfl
  | restarted => exact (alive rfl).elim

/-- Only a step of its run ends a task. -/
theorem Happening.ended?_of_mover? {happening : Happening} (others : happening.mover? = none) :
    happening.ended? = none := by
  cases happening with
  | resumed registry activity answer outcome =>
    cases activity with
    | task run => cases others
    | watch | delivery | arming | unopened | opening | reconciling | reconciler => rfl
  | requested | served | stopped | shutDown | changed | restarted => rfl

namespace IntervalRun

theorem Advances.stops_iff {now : Moment} {r : IntervalRun} {answer : r.demand.Answer} {next? : Option IntervalRun}
    (advances : r.Advances now answer next?) : r.Stops answer ↔ next? = none := by
  cases advances with
  | cancelled => exact iff_of_true rfl rfl
  | gone gone => exact iff_of_true ⟨_,rfl,gone⟩ rfl
  | performs | looks => exact iff_of_false (fun stops => by cases stops) (Option.some_ne_none _)
  | found => exact iff_of_false (by rintro ⟨_,⟨⟩,_⟩) (Option.some_ne_none _)
  | passed present =>
    refine iff_of_false ?_ (Option.some_ne_none _)
    rintro ⟨_,⟨⟩,gone⟩
    cases present.symm.trans gone
  | read | ran => exact iff_of_false id (Option.some_ne_none _)

/-- A run ends with those answers and no others. -/
theorem resume_finish_iff (now : Moment) (registry : Registry) (r : IntervalRun) (answer : r.demand.Answer) :
    r.resume now registry answer = r.finish registry ↔ r.Stops answer := by
  rcases r.resume_advances now registry answer with ⟨advances,ended⟩ | ⟨r',advances,went⟩
  · exact iff_of_true ended (advances.stops_iff.mpr rfl)
  · refine iff_of_false (went ▸ finish_ne_waiting _ _ _ _) fun stops => ?_
    cases advances.stops_iff.mp stops

end IntervalRun

theorem Activity.ended?_task (settings : EngineSettings) (now : Moment) (registry : Registry) (r : IntervalRun)
    (answer : r.demand.Answer) :
    (Happening.resumed registry (.task r) answer
      (Activity.resume settings now registry (.task r) answer)).ended? = some r.task ↔ r.Stops answer := by
  rw [← r.resume_finish_iff now registry answer]
  rcases r.resume_cases now registry answer with ended | ⟨r',_,went⟩
  · refine iff_of_true ?_ ended
    simp only [Activity.resume,ended]
    rfl
  · refine iff_of_false ?_ (by rw [went]; exact IntervalRun.finish_ne_waiting _ _ _ _)
    simp only [Activity.resume,went]
    intro same
    cases same

/-! ## Entries of the registry -/

namespace Registry

/-- A task that is removed takes out what is registered under its key, and nothing else. -/
theorem lookup_removeTask (r : Registry) {key other : TaskKey} (apart : other ≠ key) :
    (r.removeTask key).1.tasks.lookup other = r.tasks.lookup other := by
  simp only [removeTask]
  induction r.tasks with
  | nil => rfl
  | cons entry rest ih =>
    obtain ⟨held,token⟩ := entry
    by_cases same : held = key
    · subst same
      have passed : (other == held) = false := by simpa using apart
      simpa [List.lookup_cons,passed] using ih
    · by_cases sought : other = held
      · simp [same,sought]
      · have passed : (other == held) = false := by simpa using sought
        simpa [same,List.lookup_cons,passed] using ih

end Registry

/-- What is registered under the key of a task that runs is its own token. -/
theorem World.Enrolled.lookup {w : World} (enrolled : w.Enrolled) {r : IntervalRun} (member : r ∈ w.runs) :
    w.registry.tasks.lookup r.task.key = some r.task.token := by
  have inside : r.task.entry ∈ w.registry.tasks :=
    enrolled.registered.subset (List.mem_map.mpr ⟨r,member,rfl⟩)
  obtain ⟨before,after,place⟩ := List.append_of_mem inside
  refine List.lookup_eq_some_iff.mpr ⟨before,after,place,fun other earlier => ?_⟩
  have keys := enrolled.distinct.keys
  rw [place] at keys
  have apart := ne_of_nodup_middle keys (List.mem_append_left after earlier)
  simpa [IntervalTask.entry] using apart.symm

/-- A key is registered exactly if one task with it runs. -/
theorem World.Enrolled.hasTask_iff {w : World} (enrolled : w.Enrolled) (key : TaskKey) :
    w.registry.hasTask key = true ↔ (w.runs.map (·.task.key)).count key = 1 := by
  have keys : (w.runs.map (·.task.key)).Perm (w.registry.tasks.map (·.1)) := by
    have entries := enrolled.registered.map (·.1)
    rwa [List.map_map] at entries
  rw [Registry.hasTask_iff,← keys.mem_iff,← List.count_pos_iff]
  have once : (w.runs.map (·.task.key)).count key ≤ 1 := List.nodup_iff_count.mp enrolled.keys key
  omega

/-! ## What was armed either runs or has ended -/

namespace Shift
variable {w w' : World} {happening : Happening}

/-- At a step tasks begin to run that are armed, and one may end. -/
theorem balance (shift : Shift w w' happening) (alive : happening ≠ .restarted) :
    (happening.armed ++ w.runs.map (·.task)).Perm (happening.ended?.toList ++ w'.runs.map (·.task)) := by
  cases shift with
  | beside now runs enrolls others _ =>
    have begun := runs.map (·.task)
    rw [List.map_append,List.map_map] at begun
    rw [Happening.ended?_of_mover? others,Option.toList_none,List.nil_append]
    refine List.perm_append_comm.trans (.trans ?_ begun.symm)
    exact .of_eq (by simp [Function.comp_def,IntervalRun.start])
  | goesOn place waits taken went task registry runs =>
    simp [Happening.armed,Happening.ended?,place,runs,task]
  | ended place waits taken went registry runs =>
    simp only [Happening.armed,Happening.ended?,place,runs,List.map_append,List.map_cons,List.nil_append]
    exact List.perm_middle
  | restarted => exact (alive rfl).elim

/-- What runs and does not take the step runs on as it was, and no task is armed with its key. -/
theorem undisturbed (shift : Shift w w' happening) (alive : happening ≠ .restarted) (after : w'.Enrolled)
    {r : IntervalRun} (member : r ∈ w.runs) (other : happening.mover? ≠ some r) :
    r ∈ w'.runs ∧ ∀ task ∈ happening.armed, task.key ≠ r.task.key := by
  cases shift with
  | beside now runs enrolls others _ =>
    refine ⟨runs.mem_iff.mpr (List.mem_append_left _ member),fun task armed same => ?_⟩
    have keys := ((runs.map (·.task.key)).nodup_iff.mp after.keys)
    rw [List.map_append] at keys
    refine (List.nodup_append.mp keys).2.2 r.task.key (List.mem_map.mpr ⟨r,member,rfl⟩) task.key ?_ same.symm
    exact List.mem_map.mpr ⟨.start task now,List.mem_map.mpr ⟨task,armed,rfl⟩,rfl⟩
  | @goesOn before later run run' answer? answer now place waits taken went task registry runs =>
    refine ⟨?_,fun task armed => by cases armed⟩
    rw [place] at member
    rcases mem_middle.mp member with rfl | beside
    · exact (other rfl).elim
    · exact mem_beside runs beside
  | ended place waits taken went registry runs =>
    refine ⟨?_,fun task armed => by cases armed⟩
    rw [place] at member
    rcases mem_middle.mp member with rfl | beside
    · exact (other rfl).elim
    · rwa [runs]
  | restarted => exact (alive rfl).elim

/-- A task that ends takes out its own entry. -/
theorem takes_out (shift : Shift w w' happening) (enrolled : w.Enrolled) {task : IntervalTask}
    (ended : happening.ended? = some task) :
    w.registry.tasks.lookup task.key = some task.token ∧ w'.registry = (w.registry.removeTask task.key).1 := by
  cases shift with
  | beside now runs enrolls others _ => cases (Happening.ended?_of_mover? others).symm.trans ended
  | goesOn => cases ended
  | ended place waits taken went registry runs =>
    cases ended
    exact ⟨enrolled.lookup (mem_of_place place),registry⟩
  | restarted => cases ended

end Shift

/-- In every state, the tasks that were armed are those that ended and those that run. -/
theorem Run.armed_balance {settings : EngineSettings} {history : List Happening} {w : World}
    (run : Run settings history w) :
    ((tasksArmed history).map (·.2)).Perm (tasksEnded history ++ w.runs.map (·.task)) := by
  induction run with
  | start => exact .nil
  | @step history w w' happening _ step ih =>
    by_cases alive : happening = .restarted
    · subst alive
      cases step
      exact .nil
    · rw [tasksArmed_cons alive,tasksEnded_cons alive]
      refine (ih.append_left happening.armed).trans ?_
      refine (List.perm_append_comm_assoc _ _ _).trans ?_
      refine ((step.shift.balance alive).append_left (tasksEnded history)).trans ?_
      rw [List.append_assoc]
      exact List.perm_append_comm_assoc _ _ _

/-- No two tasks that were armed have a token in common. -/
theorem Run.armed_tokens {settings : EngineSettings} {history : List Happening} {w : World}
    (run : Run settings history w) : (((tasksArmed history).map (·.2)).map (·.token)).Nodup := by
  induction run with
  | start => exact List.nodup_nil
  | @step history w w' happening run step ih =>
    by_cases alive : happening = .restarted
    · subst alive
      exact List.nodup_nil
    · rw [tasksArmed_cons alive,List.map_append]
      refine List.nodup_append.mpr ⟨?_,ih,?_⟩
      · have distinct := (step.distinct run.enrolled.distinct).tokens
        cases step.shift with
        | beside now runs enrolls others _ =>
          rw [enrolls,List.map_append,List.map_map] at distinct
          exact (List.nodup_append.mp distinct).2.1
        | goesOn | ended => exact List.nodup_nil
        | restarted => exact (alive rfl).elim
      · -- a token that a task gets is new, and those before have theirs already
        intro token new _ old
        obtain ⟨task,armed,rfl⟩ := List.mem_map.mp new
        rintro rfl
        obtain ⟨earlier,inside,same⟩ := List.mem_map.mp old
        obtain ⟨entry,member,rfl⟩ := List.mem_map.mp inside
        refine ((run.ages step alive).2 task armed).1 ?_
        rw [← same]
        exact run.traced.has_task member

/-- In every state, what was armed has ended or runs; a task that was lost at its start counts as one that runs. A key
is registered exactly if one task with it runs, and no two tasks run with one key. No task ends twice, and none that
ended has an entry. At every step a task that runs and does not go on itself stays as it is, with its entry and its next
tick, also if its key is to be armed. A task ends exactly when its tick is cancelled or its rule is gone. It takes out
the entry that is its own, and leaves all others. -/
theorem Run.key_held_by_one {settings : EngineSettings} {history : List Happening} {w : World}
    (run : Run settings history w) :
    ((tasksArmed history).map (·.2)).Perm (tasksEnded history ++ w.runs.map (·.task)) ∧
      (∀ key, w.registry.hasTask key = true ↔ (w.runs.map (·.task.key)).count key = 1) ∧
      (w.runs.map (·.task.key)).Nodup ∧
      (((tasksEnded history).map (·.token)).Nodup ∧
        ∀ task ∈ tasksEnded history, ∀ entry ∈ w.registry.tasks, entry.2 ≠ task.token) ∧
      ∀ happening w', Step settings w happening w' → happening ≠ .restarted →
        (∀ r ∈ w.runs, happening.mover? ≠ some r → r ∈ w'.runs ∧
          w'.registry.tasks.lookup r.task.key = some r.task.token ∧
          ∀ task ∈ happening.armed, task.key ≠ r.task.key) ∧
        (∀ registry r answer outcome, happening = .resumed registry (.task r) answer outcome →
          (happening.ended? = some r.task ↔ r.Stops answer)) ∧
        ∀ task, happening.ended? = some task →
          w.registry.tasks.lookup task.key = some task.token ∧ w'.registry.hasTask task.key = false ∧
          ∀ key, key ≠ task.key → w'.registry.tasks.lookup key = w.registry.tasks.lookup key := by
  have enrolled := run.enrolled
  have balance := run.armed_balance
  have tokens := (balance.map (·.token)).nodup_iff.mp run.armed_tokens
  rw [List.map_append] at tokens
  obtain ⟨once,_,apart⟩ := List.nodup_append.mp tokens
  refine ⟨balance,enrolled.hasTask_iff,enrolled.keys,⟨once,?_⟩,?_⟩
  · intro task ended entry registered same
    obtain ⟨r,member,rfl⟩ := List.mem_map.mp (enrolled.registered.mem_iff.mpr registered)
    refine apart task.token (List.mem_map.mpr ⟨task,ended,rfl⟩) r.task.token ?_ same.symm
    exact List.mem_map.mpr ⟨r.task,List.mem_map.mpr ⟨r,member,rfl⟩,rfl⟩
  · intro happening w' step alive
    have after := (run.step step).enrolled
    refine ⟨?_,?_,?_⟩
    · intro r member other
      obtain ⟨stays,free⟩ := step.shift.undisturbed alive after member other
      exact ⟨stays,after.lookup stays,free⟩
    · rintro registry r answer outcome same
      cases step with
      | @resume before after p answer o now place taken went =>
        obtain ⟨activity,answer?⟩ := p
        cases same
        rw [← went]
        exact Activity.ended?_task settings now w.registry r answer
      | request | serve | stop | shutDown | change | restart => cases same
    · intro task ended
      obtain ⟨own,registry⟩ := step.shift.takes_out enrolled ended
      rw [registry]
      exact ⟨own,w.registry.hasTask_removeTask task.key,fun key other => w.registry.lookup_removeTask other⟩

namespace Sample

/-- A task is stopped with its session and ends. The type is watched anew, and a new task takes its key. -/
theorem key_held_by_one_rearmed : ∃ history w, Run {} history w ∧
    (tasksArmed history).map (·.2) = [beatTask ⟨4⟩,beatTask ⟨2⟩] ∧ w.runs.map (·.task) = [beatTask ⟨4⟩] ∧
    tasksEnded history = [beatTask ⟨2⟩] ∧ w.registry.hasTask beatKey = true := by
  obtain ⟨_,run,none,_⟩ := watches ((Run.start : Run {} [] {}).step (.change (created beatRule))) rfl
  obtain ⟨earlier,_,run,first,_⟩ := notifies run rfl rfl rfl (.head _)
  replace run := run.step (.stop type)
  replace run := run.step
    (@Step.resume {} _ [_] [] ⟨.task (.start (beatTask ⟨2⟩) moment),Option.none⟩ Tick.cancelled _ moment rfl
      (.inr ⟨rfl,rfl⟩) rfl)
  obtain ⟨_,run,same,_⟩ := watches run rfl
  obtain ⟨history,_,run,second,_⟩ := notifies run rfl rfl rfl (.head _)
  have armed : (tasksArmed history).map (·.2) = [beatTask ⟨4⟩,beatTask ⟨2⟩] := by
    rw [second,same]
    change beatTask ⟨4⟩ :: (tasksArmed earlier).map (·.2) = _
    rw [first,none]
    rfl
  obtain ⟨balance,held,_⟩ := run.key_held_by_one
  refine ⟨history,_,run,armed,rfl,?_,(held beatKey).mpr rfl⟩
  rw [armed] at balance
  have left : (tasksEnded history ++ [beatTask ⟨4⟩]).Perm ([beatTask ⟨2⟩] ++ [beatTask ⟨4⟩]) :=
    balance.symm.trans (.swap _ _ [])
  exact List.perm_singleton.mp ((List.perm_append_right_iff _).mp left)

end Sample
end Callout
