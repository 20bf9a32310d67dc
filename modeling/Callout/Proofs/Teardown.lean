import Callout.Proofs.Effect
import Callout.Proofs.World

/-!
Which tasks end when a type is watched no longer. A task hangs below the session that its type had when it was armed,
and only a stop cancels a session, the one that the type has then (`Traced`). So a task is cancelled exactly if the
engine was shut down or that session was ended by a stop (`Run.cancelled_iff_stopped`). A session whose stream ended
is out of reach of a stop, and so are its tasks.
-/
namespace Callout

deriving instance ReflBEq, LawfulBEq for ResourceType

/-! ## Sessions and tasks of a process -/

/-- The sessions that began in the process that runs. -/
def sessionsOpened : List Happening → List Session
  | .resumed _ _ _ outcome :: rest => outcome.sessions ++ sessionsOpened rest
  | .requested _ :: rest | .served _ _ _ _ :: rest | .stopped _ _ :: rest | .shutDown :: rest | .changed :: rest =>
    sessionsOpened rest
  | .restarted :: _ | [] => []

/-- The sessions that were ended by a stop in the process that runs. -/
def sessionsStopped : List Happening → List Session
  | .stopped _ session? :: rest => session?.toList ++ sessionsStopped rest
  | .requested _ :: rest | .served _ _ _ _ :: rest | .resumed _ _ _ _ :: rest | .shutDown :: rest
  | .changed :: rest => sessionsStopped rest
  | .restarted :: _ | [] => []

/-- A task, and the session that its type had when it was armed. -/
abbrev ArmedTask := Option Session × IntervalTask

/-- The tasks that a step armed. -/
def armedFrom (registry : Registry) (tasks : List IntervalTask) : List ArmedTask :=
  tasks.map fun task => (registry.session? task.event.type, task)

/-- The tasks that were armed in the process that runs. -/
def tasksArmed : List Happening → List ArmedTask
  | .resumed registry _ _ outcome :: rest => armedFrom registry outcome.armed ++ tasksArmed rest
  | .requested _ :: rest | .served _ _ _ _ :: rest | .stopped _ _ :: rest | .shutDown :: rest | .changed :: rest =>
    tasksArmed rest
  | .restarted :: _ | [] => []

/-! ## Tokens of sessions and tasks -/

/-- What holds of every registry, after some sessions were opened and stopped and some tasks were armed. -/
structure Traced (opened stopped : List Session) (armed : List ArmedTask) (r : Registry) : Prop where
  grown : r.tokens.Grown
  registered : ∀ entry ∈ r.sessions, entry.2 ∈ opened
  begun : ∀ s ∈ stopped, s ∈ opened
  /-- Every session hangs below the root. It is cancelled by a stop of its own, or with the root. -/
  session : ∀ s ∈ opened, r.tokens.parent? s.token = some Registry.root ∧
    (r.isCancelled s.token = true ↔ r.isCancelled Registry.root = true ∨ s ∈ stopped)
  single : ∀ s ∈ opened, ∀ other ∈ opened, s.token = other.token → s = other
  /-- Every task hangs below the session that its type had, and is cancelled with it. -/
  task : ∀ entry ∈ armed, (∀ s ∈ entry.1, s ∈ opened) ∧
    r.tokens.parent? entry.2.token = some (Session.above entry.1) ∧
    (r.isCancelled entry.2.token = true ↔ r.isCancelled (Session.above entry.1) = true)
  apart : ∀ entry ∈ armed, ∀ s ∈ opened, s.token ≠ entry.2.token
  enrolled : ∀ entry ∈ r.tasks, ∃ task ∈ armed, entry = (task.2.key, task.2.token)

namespace Traced
variable {opened stopped : List Session} {armed : List ArmedTask} {r : Registry}

theorem start : Traced [] [] [] {} := by
  refine ⟨TokenTree.grown_new,?_,?_,?_,?_,?_,?_,?_⟩ <;> intro entry member <;> cases member

theorem has_session (traced : Traced opened stopped armed r) {s : Session} (member : s ∈ opened) :
    r.tokens.Has s.token :=
  TokenTree.has_of_parent? (traced.session s member).1

theorem has_task (traced : Traced opened stopped armed r) {entry : ArmedTask} (member : entry ∈ armed) :
    r.tokens.Has entry.2.token :=
  TokenTree.has_of_parent? (traced.task entry member).2.1

theorem has_above (traced : Traced opened stopped armed r) {session? : Option Session}
    (all : ∀ s ∈ session?, s ∈ opened) : r.tokens.Has (Session.above session?) := by
  cases session? with
  | none => exact traced.grown.rooted
  | some s => exact traced.has_session (all s rfl)

theorem opened_of_session? (traced : Traced opened stopped armed r) {type : ResourceType} {s : Session}
    (found : r.session? type = some s) : s ∈ opened := by
  obtain ⟨before,after,same,_⟩ := List.lookup_eq_some_iff.mp found
  exact traced.registered (type,s) (by rw [same]; simp)

/-- A task is cancelled exactly if the engine was shut down, or the session that its type had was stopped. -/
theorem cancelled_iff (traced : Traced opened stopped armed r) {entry : ArmedTask} (member : entry ∈ armed) :
    r.isCancelled entry.2.token = true ↔
      r.isCancelled Registry.root = true ∨ ∃ s, entry.1 = some s ∧ s ∈ stopped := by
  obtain ⟨all,_,with_above⟩ := traced.task entry member
  rw [with_above]
  obtain ⟨session?,task⟩ := entry
  cases session? with
  | none => simp [Session.above]
  | some s =>
    simp only [Session.above,Option.map_some,Option.getD_some,Option.some.injEq,exists_eq_left']
    exact (traced.session s (all s rfl)).2

/-! ## Steps -/

/-- A tree with more tokens, of which those of new sessions and tasks are told. -/
theorem extend (traced : Traced opened stopped armed r) {r' : Registry} (sessions : List Session)
    (tasks : List ArmedTask) (grown : r'.tokens.Grown) (more : r.tokens.Extends r'.tokens)
    (registered : ∀ entry ∈ r'.sessions, entry.2 ∈ sessions ++ opened)
    (session : ∀ s ∈ sessions, ¬r.tokens.Has s.token ∧ r'.tokens.parent? s.token = some Registry.root ∧
      r'.isCancelled s.token = r.isCancelled Registry.root)
    (alone : ∀ s ∈ sessions, ∀ other ∈ sessions, s = other)
    (task : ∀ entry ∈ tasks, (∀ s ∈ entry.1, s ∈ opened) ∧ ¬r.tokens.Has entry.2.token ∧
      r'.tokens.parent? entry.2.token = some (Session.above entry.1) ∧
      r'.isCancelled entry.2.token = r.isCancelled (Session.above entry.1))
    (apart : sessions = [] ∨ tasks = [])
    (enrolled : ∀ entry ∈ r'.tasks, ∃ task ∈ tasks ++ armed, entry = (task.2.key,task.2.token)) :
    Traced (sessions ++ opened) stopped (tasks ++ armed) r' := by
  have root : r'.isCancelled Registry.root = r.isCancelled Registry.root :=
    more.isCancelled _ traced.grown.rooted
  refine ⟨grown,registered,fun s member => by simp [traced.begun s member],?_,?_,?_,?_,enrolled⟩
  · intro s member
    rw [root]
    rcases List.mem_append.mp member with new | old
    · obtain ⟨fresh,hangs,cancelled⟩ := session s new
      have unstopped : s ∉ stopped := fun inside => fresh (traced.has_session (traced.begun s inside))
      refine ⟨hangs,?_⟩
      rw [cancelled]
      exact (or_iff_left unstopped).symm
    · obtain ⟨hangs,cancelled⟩ := traced.session s old
      have has := traced.has_session old
      refine ⟨(more.parent? _ has).trans hangs,?_⟩
      rw [← cancelled]
      exact Bool.eq_iff_iff.mp (more.isCancelled _ has)
  · intro s member other inside same
    rcases List.mem_append.mp member with new | old
    · rcases List.mem_append.mp inside with new' | old'
      · exact alone s new other new'
      · exact ((session s new).1 (by rw [same]; exact traced.has_session old')).elim
    · rcases List.mem_append.mp inside with new' | old'
      · exact ((session other new').1 (by rw [← same]; exact traced.has_session old)).elim
      · exact traced.single s old other old' same
  · intro entry member
    rcases List.mem_append.mp member with new | old
    · obtain ⟨all,_,hangs,cancelled⟩ := task entry new
      refine ⟨fun s inside => by simp [all s inside],hangs,?_⟩
      rw [cancelled]
      exact (Bool.eq_iff_iff.mp (more.isCancelled _ (traced.has_above all))).symm
    · obtain ⟨all,hangs,cancelled⟩ := traced.task entry old
      have has := traced.has_task old
      refine ⟨fun s inside => by simp [all s inside],(more.parent? _ has).trans hangs,?_⟩
      refine (Bool.eq_iff_iff.mp (more.isCancelled _ has)).trans (cancelled.trans ?_)
      exact (Bool.eq_iff_iff.mp (more.isCancelled _ (traced.has_above all))).symm
  · intro entry member s inside same
    rcases List.mem_append.mp member with new | old
    · rcases List.mem_append.mp inside with new' | old'
      · rcases apart with none | none
        · rw [none] at new'
          cases new'
        · rw [none] at new
          cases new
      · exact (task entry new).2.1 (by rw [← same]; exact traced.has_session old')
    · rcases List.mem_append.mp inside with new' | old'
      · exact (session s new').1 (by rw [same]; exact traced.has_task old)
      · exact traced.apart entry old s old' same

/-- What a step of an activity does, with the sessions and tasks that begin. -/
theorem effect (traced : Traced opened stopped armed r) {r' : Registry} {tasks : List IntervalTask}
    {sessions : List Session} (effect : r.Effect r' tasks sessions) :
    Traced (sessions ++ opened) stopped (armedFrom r tasks ++ armed) r' := by
  cases effect with
  | claimed claims =>
    exact ⟨traced.grown,traced.registered,traced.begun,traced.session,traced.single,traced.task,traced.apart,
      traced.enrolled⟩
  | removed key =>
    exact ⟨traced.grown,traced.registered,traced.begun,traced.session,traced.single,traced.task,traced.apart,
      fun entry member => traced.enrolled entry (List.mem_filter.mp member).1⟩
  | released type id =>
    unfold Registry.releaseSession
    split
    · exact ⟨traced.grown,fun entry member => traced.registered entry (List.mem_filter.mp member).1,traced.begun,
        traced.session,traced.single,traced.task,traced.apart,traced.enrolled⟩
    · exact traced
  | opened opens =>
    cases opens with
    | same => exact traced
    | opened type target free =>
      have rooted := traced.grown.rooted
      refine traced.extend [_] [] ?_ ?_ ?_ ?_ ?_ ?_ (.inr rfl) traced.enrolled
      · exact traced.grown.child rooted
      · exact (TokenTree.Extends.refl _).child _
      · intro entry member
        rcases List.mem_append.mp member with old | new
        · exact List.mem_cons_of_mem _ (traced.registered entry old)
        · cases List.mem_singleton.mp new
          exact List.mem_cons_self
      · intro s member
        cases List.mem_singleton.mp member
        exact ⟨TokenTree.not_has_new _ Registry.root,TokenTree.parent?_new _ _,TokenTree.isCancelled_new _ _⟩
      · intro s member other inside
        rw [List.mem_singleton.mp member,List.mem_singleton.mp inside]
      · exact fun entry member => by cases member
  | armed event rules claims =>
    have all : ∀ s ∈ r.session? event.type, s ∈ opened := fun s found => traced.opened_of_session? found
    have grows := Registry.arm_grows traced.grown (traced.has_above all) rules
    obtain ⟨tasks,tokens,frame⟩ := grows.frame
    refine traced.extend [] (armedFrom r (r.arm event rules).armed) grows.grown grows.more ?_ ?_ ?_ ?_ (.inl rfl) ?_
    · intro entry member
      rw [frame] at member
      exact traced.registered entry member
    · exact fun s member => by cases member
    · exact fun s member => by cases member
    · intro entry member
      obtain ⟨task,inside,rfl⟩ := List.mem_map.mp member
      obtain ⟨same,_,new,hangs,cancelled⟩ := grows.new task inside
      dsimp only
      rw [same]
      exact ⟨all,new,hangs,cancelled⟩
    · intro entry member
      change entry ∈ (r.arm event rules).registry.tasks at member
      rw [grows.tasks] at member
      rcases List.mem_append.mp member with old | new
      · obtain ⟨task,inside,same⟩ := traced.enrolled entry old
        exact ⟨task,List.mem_append.mpr (.inr inside),same⟩
      · obtain ⟨task,inside,rfl⟩ := List.mem_map.mp new
        exact ⟨_,List.mem_append.mpr (.inl (List.mem_map.mpr ⟨task,inside,rfl⟩)),rfl⟩

/-- When the root is cancelled, everything is. -/
theorem shutdown (traced : Traced opened stopped armed r) : Traced opened stopped armed r.shutdown := by
  have root : r.shutdown.isCancelled Registry.root = true :=
    (TokenTree.isCancelled_cancel traced.grown traced.grown.rooted).mpr (.inr (.inl rfl))
  have below : ∀ {t p : Token}, r.tokens.parent? t = some p → r.shutdown.isCancelled p = true →
      r.shutdown.isCancelled t = true := fun hangs cancelled =>
    (traced.grown.cancel Registry.root).closed _ _ (by rw [TokenTree.parent?_cancel]; exact hangs) cancelled
  have session : ∀ s ∈ opened, r.shutdown.isCancelled s.token = true := fun s member =>
    below (traced.session s member).1 root
  have above : ∀ session? : Option Session, (∀ s ∈ session?, s ∈ opened) →
      r.shutdown.isCancelled (Session.above session?) = true := by
    intro session? all
    cases session? with
    | none => exact root
    | some s => exact session s (all s rfl)
  refine ⟨traced.grown.cancel _,traced.registered,traced.begun,?_,traced.single,?_,traced.apart,traced.enrolled⟩
  · intro s member
    refine ⟨(TokenTree.parent?_cancel _ _ _).trans (traced.session s member).1,?_⟩
    simp [root,session s member]
  · intro entry member
    obtain ⟨all,hangs,_⟩ := traced.task entry member
    refine ⟨all,(TokenTree.parent?_cancel _ _ _).trans hangs,?_⟩
    simp [above _ all,below hangs (above _ all)]

/-- When a session is cancelled, it and its tasks are, and no others. -/
theorem cancel (traced : Traced opened stopped armed r) {stop : Session} (present : stop ∈ opened) :
    Traced opened (stop :: stopped) armed (r.cancel stop.token) := by
  have effect : ∀ {t : Token}, r.tokens.Has t → ((r.cancel stop.token).isCancelled t = true ↔ _) :=
    fun inside => TokenTree.isCancelled_cancel traced.grown inside
  have root : (r.cancel stop.token).isCancelled Registry.root = true ↔ r.isCancelled Registry.root = true := by
    have rooted : r.tokens.Has Registry.root := traced.grown.rooted
    refine (effect rooted).trans ?_
    have other : Registry.root ≠ stop.token := fun same => by
      have hangs := (traced.session stop present).1
      rw [← same] at hangs
      cases hangs.symm.trans traced.grown.top
    have top : r.tokens.parent? Registry.root = none := traced.grown.top
    simp [other,top,Registry.isCancelled]
  refine ⟨traced.grown.cancel _,traced.registered,?_,?_,traced.single,?_,traced.apart,traced.enrolled⟩
  · intro s member
    rcases List.mem_cons.mp member with rfl | member
    · exact present
    · exact traced.begun s member
  · intro s member
    obtain ⟨hangs,cancelled⟩ := traced.session s member
    refine ⟨(TokenTree.parent?_cancel _ _ _).trans hangs,?_⟩
    have same : s.token = stop.token ↔ s = stop :=
      ⟨traced.single s member stop present,fun same => by rw [same]⟩
    rw [effect (traced.has_session member),root]
    change r.isCancelled s.token = true ∨ _ ↔ _
    rw [cancelled,same,List.mem_cons]
    have above : (∃ p, r.tokens.parent? s.token = some p ∧ (r.tokens.cancel stop.token).isCancelled p = true) ↔
        r.isCancelled Registry.root = true := by
      rw [← root]
      simp [hangs,Registry.isCancelled,Registry.cancel]
    rw [above]
    grind
  · intro entry member
    obtain ⟨all,hangs,cancelled⟩ := traced.task entry member
    refine ⟨all,(TokenTree.parent?_cancel _ _ _).trans hangs,?_⟩
    have other : entry.2.token ≠ stop.token := fun same => traced.apart entry member stop present same.symm
    have kept : r.isCancelled (Session.above entry.1) = true →
        (r.cancel stop.token).isCancelled (Session.above entry.1) = true := fun before =>
      (effect (traced.has_above all)).mpr (.inl before)
    rw [effect (traced.has_task member)]
    constructor
    · rintro (before | same | ⟨p,above,after⟩)
      · exact kept (cancelled.mp before)
      · exact (other same).elim
      · cases above.symm.trans hangs
        exact after
    · exact fun after => .inr (.inr ⟨_,hangs,after⟩)

theorem stop (traced : Traced opened stopped armed r) (type : ResourceType) :
    Traced opened ((r.session? type).toList ++ stopped) armed (r.stopWatching type).1 := by
  have dropped : Traced opened stopped armed (r.dropSession type) :=
    ⟨traced.grown,fun entry member => traced.registered entry (List.mem_filter.mp member).1,traced.begun,
      traced.session,traced.single,traced.task,traced.apart,traced.enrolled⟩
  unfold Registry.stopWatching Registry.removeSession
  cases found : r.session? type with
  | none => exact dropped
  | some s => exact dropped.cancel (traced.opened_of_session? found)

end Traced

theorem Run.traced {settings : EngineSettings} {history : List Happening} {w : World}
    (run : Run settings history w) :
    Traced (sessionsOpened history) (sessionsStopped history) (tasksArmed history) w.registry := by
  induction run with
  | start => exact .start
  | step _ step ih =>
    cases step with
    | request activity asked => exact ih
    | serve before place answer stored? served => exact ih
    | resume before now place taken went =>
      subst went
      exact ih.effect (Activity.resume_effect _ _ _ _ _)
    | stop type => exact ih.stop type
    | shutDown => exact ih.shutdown
    | change changed => exact ih
    | restart => exact .start

/-! ## Ticks -/

/-- A task takes a tick, and does its work once more. -/
def Happening.Ticks (token : Token) : Happening → Prop
  | .resumed _ (.task ⟨task, _, .waiting⟩) answer _ => task.token = token ∧ answer = Tick.due
  | _ => False

/-- Answers are only on their way from outside the engine. -/
def World.Served (w : World) : Prop :=
  ∀ p ∈ w.pending, ∀ answer ∈ p.answer?, ∃ (archive : Archive) (stored? : Option Rule),
    archive.Serves stored? p.activity.demand answer

theorem Activity.Outcome.unanswered {o : Activity.Outcome} {now : Moment} {p : Pending} (member : p ∈ o.pending now) :
    p.answer? = none := by
  simp only [Outcome.pending,List.mem_append,List.mem_map] at member
  rcases member with (member | ⟨task,_,rfl⟩) | ⟨session,_,rfl⟩
  · unfold Outcome.next at member
    split at member
    · rw [List.mem_singleton.mp member]
    · cases member
  · rfl
  · rfl

theorem Run.served {settings : EngineSettings} {history : List Happening} {w : World}
    (run : Run settings history w) : w.Served := by
  have unanswered : ∀ {p : Pending}, p.answer? = none → ∀ answer ∈ p.answer?,
      ∃ (archive : Archive) (stored? : Option Rule), archive.Serves stored? p.activity.demand answer := by
    intro p none answer held
    rw [none] at held
    cases held
  induction run with
  | start => exact fun p member => by cases member
  | step _ step ih =>
    cases step with
    | request activity asked =>
      intro p member
      rcases List.mem_cons.mp member with rfl | member
      · exact unanswered rfl
      · exact ih p member
    | serve before place answer stored? served =>
      unfold World.Served at ih
      rw [place,forall_middle] at ih
      refine forall_middle.mpr ⟨?_,ih.2⟩
      intro told held
      cases held
      exact ⟨_,_,served⟩
    | resume before now place taken went =>
      unfold World.Served at ih
      rw [place,forall_middle] at ih
      intro p member
      simp only [List.mem_append] at member ih
      rcases member with (member | member) | member
      · exact ih.2 p (.inl member)
      · exact unanswered (Activity.Outcome.unanswered member)
      · exact ih.2 p (.inr member)
    | stop type => exact ih
    | shutDown => exact ih
    | change changed => exact ih
    | restart => exact fun p member => by cases member

/-- A tick is only taken while the token of the task is not cancelled. -/
theorem Run.uncancelled_of_ticks {settings : EngineSettings} {history : List Happening} {w w' : World}
    (run : Run settings history w) {happening : Happening} (step : Step settings w happening w') {token : Token}
    (ticks : happening.Ticks token) : w.registry.isCancelled token = false := by
  cases step with
  | request => exact ticks.elim
  | serve => exact ticks.elim
  | stop => exact ticks.elim
  | shutDown => exact ticks.elim
  | change => exact ticks.elim
  | restart => exact ticks.elim
  | @resume before after p answer o now place taken went =>
    obtain ⟨activity,answer?⟩ := p
    cases activity with
    | watch => exact ticks.elim
    | delivery => exact ticks.elim
    | arming => exact ticks.elim
    | unopened => exact ticks.elim
    | opening => exact ticks.elim
    | reconciling => exact ticks.elim
    | reconciler => exact ticks.elim
    | task run =>
      obtain ⟨task,ticker,stage⟩ := run
      cases stage with
      | looking => exact ticks.elim
      | reading => exact ticks.elim
      | running => exact ticks.elim
      | lost => exact answer.elim
      | waiting =>
        obtain ⟨rfl,due⟩ := ticks
        rcases taken with held | ⟨_,decided⟩
        · obtain ⟨archive,stored?,served⟩ := run.served _ (by rw [place]; simp) answer held
          exact served.elim
        · change Tick at answer
          change answer = Tick.due at due
          subst due
          exact decided

/-- A task that is not cancelled takes its tick. -/
theorem ticks_of_uncancelled {settings : EngineSettings} {w : World} (before : List Pending) {after : List Pending}
    {task : IntervalTask} {ticker : Ticker}
    (place : w.pending = before ++ ⟨.task ⟨task,ticker,.waiting⟩,none⟩ :: after)
    (live : w.registry.isCancelled task.token = false) :
    ∃ happening w', Step settings w happening w' ∧ happening.Ticks task.token :=
  ⟨_,_,@Step.resume _ _ before after ⟨.task ⟨task,ticker,.waiting⟩,none⟩ Tick.due _ default place
    (.inr ⟨rfl,live⟩) rfl,rfl,rfl⟩

/-- In every state, a task that was armed is cancelled exactly if the engine was shut down, or its type had a session
when it was armed and that session was ended by a stop. A cancelled task takes no tick. -/
theorem Run.cancelled_iff_stopped {settings : EngineSettings} {history : List Happening} {w : World}
    (run : Run settings history w) {session? : Option Session} {task : IntervalTask}
    (armed : (session?,task) ∈ tasksArmed history) :
    (w.registry.isCancelled task.token = true ↔
      w.registry.isCancelled Registry.root = true ∨
        ∃ session, session? = some session ∧ session ∈ sessionsStopped history) ∧
      (w.registry.isCancelled task.token = true →
        ∀ happening w', Step settings w happening w' → ¬happening.Ticks task.token) := by
  refine ⟨run.traced.cancelled_iff armed,fun cancelled happening w' step ticks => ?_⟩
  rw [run.uncancelled_of_ticks step ticks] at cancelled
  cases cancelled

/-! ## A session whose stream ended -/

namespace Sample

/-- An action that runs again and again. -/
def beat : Action := { url := "http://hook/beat", mode := .interval, schedule? := some "10s" }

/-- A rule with that action, of which the event is recorded. -/
def beatRule : Rule := recorded (rule beat) "1"

def beatKey : TaskKey := ⟨⟨"default","r"⟩,"uid-a",0,.create⟩

/-- The task that is armed for an action. -/
def taskOf (action : Action) (period : Span) (token : Token) : IntervalTask :=
  ⟨beatKey, period, action, "default", event, token⟩

def beatTask : Token → IntervalTask := taskOf beat ⟨10000000000⟩

def target : WatchTarget := ⟨type,"configmaps",true⟩

theorem schedule_read : readDuration "schedule" "10s" = .ok ⟨10000000000⟩ := by
  have trimmed : Text.trim "10s" = "10s" := rfl
  have read : Span.read "10s" = .ok ⟨10000000000⟩ := rfl
  simp only [readDuration,trimmed,read]
  rfl

/-- An action whose first run would be due after the end of the clock. -/
def distant : Action := { beat with schedule? := some "18446744073709551615s" }

theorem distant_read :
    readDuration "schedule" "18446744073709551615s" = .ok ⟨18446744073709551615000000000⟩ := by
  have trimmed : Text.trim "18446744073709551615s" = "18446744073709551615s" := rfl
  have read : Span.read "18446744073709551615s" = .ok ⟨18446744073709551615000000000⟩ := rfl
  simp only [readDuration,trimmed,read]
  rfl

def distantRule : Rule := recorded (rule distant) "1"

def distantTask : Token → IntervalTask := taskOf distant ⟨18446744073709551615000000000⟩

/-- The task that is armed for it is lost at once. -/
theorem distant_lost (token : Token) : (IntervalRun.start (distantTask token) moment).stage = .lost := by
  rw [IntervalRun.start_lost_iff]
  change Ticker.horizon ≤ moment.nanos + 18446744073709551615000000000
  decide +kernel

section
variable {r : Registry} {action : Action} {schedule : String} {period : Span}
  (given : Arming.schedule? action = some schedule) (read : readDuration "schedule" schedule = .ok period)
  (started : r.started = true) (free : r.hasTask beatKey = false)
include given read started free

theorem arms :
    r.arm event [recorded (rule action) "1"] =
      { registry := Arming.enrolled r beatKey type,
        armed := [taskOf action period (r.tokens.child (r.parentFor type)).2] } := by
  have keyed : Arming.keyFor (recorded (rule action) "1") event 0 = beatKey := rfl
  have answers : (recorded (rule action) "1").answers event = true := rfl
  have actions : (recorded (rule action) "1").spec.actions.zipIdx = [(action,0)] := rfl
  simp only [Registry.arm,started,if_true,List.foldl_cons,List.foldl_nil,Arming.rule,answers,actions,Arming.action,
    given,keyed,free,read,Bool.false_eq_true,if_false]
  rw [Arming.register_of_free free]
  rfl

/-- A delivery arms the task when it is told of the rule, and has nothing more to do. -/
theorem delivers :
    Delivery.afterListing r event (.ok [recorded (rule action) "1"]) =
      ⟨Arming.enrolled r beatKey type,[taskOf action period (r.tokens.child (r.parentFor type)).2],
        .finished (.ok ())⟩ := by
  simp only [Delivery.afterListing,arms given read started free]
  rfl

theorem resume_listing :
    Activity.resume {} moment r (.delivery (.listing event)) (Except.ok [recorded (rule action) "1"]) =
      ⟨Arming.enrolled r beatKey type,[taskOf action period (r.tokens.child (r.parentFor type)).2],[],
        .finished (.outcome (.ok ()))⟩ := by
  have told : Delivery.resume {} moment r (.listing event) (Except.ok [recorded (rule action) "1"]) = _ :=
    delivers given read started free
  simp only [Activity.resume,told,Progress.map]

end

theorem beat_schedule : Arming.schedule? beat = some "10s" := by decide

/-- The session that a type gets next. -/
def nextSession (r : Registry) : Session := ⟨r.lastSession + 1,target,(r.tokens.child Registry.root).2⟩

/-- The type of config maps gets a session. -/
theorem watches {history : List Happening} {r : Registry} {pending : List Pending} {archive : Archive}
    (run : Run {} history ⟨r,pending,archive⟩) (free : r.isWatching type = false) :
    ∃ history', Run {} history' ⟨r.opened type target,⟨.watch (.start (nextSession r)),none⟩ :: pending,archive⟩ ∧
      tasksArmed history' = tasksArmed history ∧ sessionsStopped history' = sessionsStopped history := by
  replace run := run.step (.request (.unopened type) trivial)
  replace run := run.told () rfl
  replace run := run.goes moment (o := ⟨r,[],[],.waiting (.opening ⟨type⟩)⟩) (by
    simp [Activity.resume,Activity.ofOpening,Opening.start,free,Progress.map])
  replace run := run.told (Except.ok target) rfl
  replace run := run.goes moment (o := ⟨r.opened type target,[],[nextSession r],.finished (.outcome (.ok ()))⟩) (by
    change Activity.ofOpening (Opening.resume r ⟨type⟩ (.ok target)) = _
    simp [Activity.ofOpening,Opening.resume,Registry.registerSession,free,Progress.map,Registry.opened,nextSession,
      Registry.markStarted])
  exact ⟨_,run,rfl,rfl⟩

/-- A session that has seen nothing is told of the config map, and a task is armed. -/
theorem notifies {history : List Happening} {r : Registry} {s : Session} {pending : List Pending}
    {archive : Archive} (run : Run {} history ⟨r,⟨.watch ⟨s,.new type,.idle⟩,none⟩ :: pending,archive⟩)
    (live : r.isCancelled s.token = false) (started : r.started = true) (free : r.hasTask beatKey = false)
    (known : beatRule ∈ archive.versions) :
    ∃ history' tracker, Run {} history' ⟨Arming.enrolled r beatKey type,
        ⟨.watch ⟨s,tracker,.idle⟩,none⟩ ::
          ⟨.task (.start (beatTask (r.tokens.child (r.parentFor type)).2) moment),none⟩ :: pending,archive⟩ ∧
      tasksArmed history' =
        (r.session? type,beatTask (r.tokens.child (r.parentFor type)).2) :: tasksArmed history ∧
      sessionsStopped history' = sessionsStopped history := by
  have pushed : (Tracker.new type).push (.applied raw) = (⟨type,Dict.empty.insert "uid-a" event.object⟩,[event]) :=
    rfl
  generalize Dict.empty.insert "uid-a" event.object = seen at pushed
  replace run := run.decides moment (Item.next (.ok (.applied raw))) live
    (o := ⟨r,[],[],.waiting (.watch ⟨s,⟨type,seen⟩,.delivering (.listing event) []⟩)⟩) (by
      change Activity.Outcome.mk _ _ _ _ = _
      simp [WatchRun.resume,WatchRun.afterItem,pushed,WatchRun.deliver,live,Progress.map])
  replace run := run.told (Except.ok [beatRule]) ⟨rfl,by simpa [Archive.Lists] using known⟩
  replace run := run.goes moment
    (o := ⟨Arming.enrolled r beatKey type,[beatTask (r.tokens.child (r.parentFor type)).2],[],
      .waiting (.watch ⟨s,⟨type,seen⟩,.idle⟩)⟩) (by
      change Activity.Outcome.mk (WatchRun.withDelivery _ _ (Delivery.afterListing r event (.ok [beatRule]))).registry
        (WatchRun.withDelivery _ _ (Delivery.afterListing r event (.ok [beatRule]))).armed []
        ((WatchRun.withDelivery _ _ (Delivery.afterListing r event (.ok [beatRule]))).progress.map _ _) = _
      rw [show Delivery.afterListing r event (.ok [beatRule]) = _ from
        delivers beat_schedule schedule_read started free]
      rfl)
  exact ⟨_,_,run,rfl,rfl⟩

/-- A session arms a task and is stopped, and the task with it. -/
theorem cancelled_iff_stopped_of_session : ∃ history w session task,
    Run {} history w ∧ (some session,task) ∈ tasksArmed history ∧ w.registry.isCancelled task.token = true ∧
      ∀ happening w', Step {} w happening w' → ¬happening.Ticks task.token := by
  obtain ⟨_,run,_⟩ := watches ((Run.start : Run {} [] {}).step (.change (created beatRule))) rfl
  obtain ⟨history,_,run,armed,_⟩ := notifies run rfl rfl rfl (.head _)
  replace run := run.step (.stop type)
  have member :
      (some (nextSession {}),beatTask ⟨2⟩) ∈ tasksArmed (.stopped type (some (nextSession {})) :: history) := by
    change _ ∈ tasksArmed history
    rw [armed]
    exact .head _
  obtain ⟨cancelled,idle⟩ := run.cancelled_iff_stopped member
  replace cancelled := cancelled.mpr (.inr ⟨nextSession {},rfl,.head _⟩)
  exact ⟨_,_,nextSession {},beatTask ⟨2⟩,run,member,cancelled,idle cancelled⟩

/-- A type is watched no longer, and a task for an object of it, armed while the type had a given session or none,
takes its next tick. -/
def Spares (session? : Option Session) : Prop :=
  ∃ history w ended task, Run {} history w ∧ .stopped type (some ended) ∈ history ∧
    w.registry.isWatching type = false ∧ w.registry.isCancelled Registry.root = false ∧
    (session?,task) ∈ tasksArmed history ∧ task.event.type = type ∧ w.registry.isCancelled task.token = false ∧
    ∃ happening w', Step {} w happening w' ∧ happening.Ticks task.token

/-- A stop spares a task that was armed under an earlier session, whose stream ended, and one that is armed after it
by a delivery that was under way. -/
theorem stop_spares_tasks : (∃ earlier, Spares (some earlier)) ∧ Spares none := by
  obtain ⟨_,watched,_⟩ := watches ((Run.start : Run {} [] {}).step (.change (created beatRule))) rfl
  constructor
  · obtain ⟨_,_,run,armed,_⟩ := notifies watched rfl rfl rfl (.head _)
    replace run := run.decides moment Item.ended rfl rfl
    obtain ⟨history,run,same,_⟩ := watches run rfl
    replace run := run.step (.stop type)
    refine ⟨nextSession {},_,_,_,beatTask ⟨2⟩,run,.head _,rfl,rfl,?_,rfl,rfl,ticks_of_uncancelled [_] rfl rfl⟩
    change _ ∈ tasksArmed history
    rw [same]
    refine List.mem_append.mpr (.inr ?_)
    rw [armed]
    exact .head _
  · have run := watched.step (.request (.delivery (.listing event)) trivial)
    replace run := run.told (Except.ok [beatRule]) ⟨rfl,fun _ member => member⟩
    replace run := run.step (.stop type)
    replace run := run.goes moment (resume_listing beat_schedule schedule_read rfl rfl)
    exact ⟨_,_,_,beatTask ⟨2⟩,run,.tail _ (.head _),rfl,rfl,.head _,rfl,rfl,ticks_of_uncancelled [] rfl rfl⟩

end Sample
end Callout
