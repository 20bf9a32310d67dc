import Callout.Proofs.Enrollment

/-!
What still happens after the engine is shut down (`Run.shutdown_is_final`). All tokens hang below the root, so every
session and task is cancelled, whether it began before or begins later. A session takes no notification and begins no
event. A task that had taken its tick may still run its action once; then it ends, after a bounded number of steps,
and takes out its own entry.
-/
namespace Callout

/-! ## Questions for secrets -/

namespace Query
variable {α β : Type}

/-- Whether a query asks at most so many questions, whatever the answers are. -/
def Within : Nat → Query α → Prop
  | _, .done _ => True
  | 0, .ask _ _ _ => False
  | n + 1, .ask _ _ next => ∀ answer, Within n (next answer)

theorem within_done (n : Nat) (a : α) : Within n (.done a) := by
  cases n <;> trivial

theorem Within.more {q : Query α} {n m : Nat} (within : q.Within n) (more : n ≤ m) : q.Within m := by
  induction q generalizing n m with
  | done a => exact within_done m a
  | ask space name next ih =>
    cases n with
    | zero => exact within.elim
    | succ n =>
      cases m with
      | zero => omega
      | succ m => exact fun answer => ih answer (within answer) (by omega)

theorem Within.bind {q : Query α} {f : α → Query β} {n m : Nat} (within : q.Within n) (next : ∀ a, (f a).Within m) :
    (q.bind f).Within (n + m) := by
  induction q generalizing n with
  | done a => exact (next a).more (by omega)
  | ask space name rest ih =>
    cases n with
    | zero => exact within.elim
    | succ n =>
      rw [Nat.succ_add]
      exact fun answer => ih answer (within answer)

/-- After a question at most as many are left. -/
theorem Within.next {space name : String} {next : Except Fault SecretData → Query α} {n : Nat}
    (within : (Query.ask space name next).Within n) (answer : Except Fault SecretData) : (next answer).Within n := by
  cases n with
  | zero => exact within.elim
  | succ n => exact (within answer).more (Nat.le_succ n)

end Query

theorem Secret.value_within (space name key : String) : (Secret.value space name key).Within 1 :=
  fun _ => Query.within_done 0 _

theorem HeaderSource.resolve_within (space header : String) (source : HeaderSource) :
    (source.resolve space header).Within 1 := by
  unfold resolve
  split
  · refine Query.Within.bind (Secret.value_within _ _ _) (m := 0) fun value => ?_
    cases value with
    | error cause => exact Query.within_done 0 _
    | ok bytes =>
      dsimp only
      split <;> exact Query.within_done 0 _
  · exact Query.within_done 1 _
  · exact Query.within_done 1 _

theorem resolveEntries_within (space : String) (entries : List (String × HeaderSource)) :
    (resolveEntries space entries).Within entries.length := by
  induction entries with
  | nil => exact Query.within_done 0 _
  | cons entry rest ih =>
    obtain ⟨name,source⟩ := entry
    rw [List.length_cons,Nat.add_comm]
    refine Query.Within.bind (source.resolve_within space name) fun value => ?_
    cases value with
    | error cause => exact Query.within_done _ _
    | ok value => exact Query.Within.bind ih (m := 0) fun _ => Query.within_done 0 _

/-- Resolving headers asks for at most one secret for each of them. -/
theorem resolveHeaders_within (space : String) (headers : Dict HeaderSource) :
    (resolveHeaders space headers).Within headers.entries.length :=
  Query.Within.bind (resolveEntries_within space headers.entries) (m := 0) fun _ => Query.within_done 0 _

/-! ## Tasks that are cancelled -/

namespace IntervalRun

/-- Whether an answer may be given to the run of a cancelled task: it waits for no tick any more. -/
def Heeds : (r : IntervalRun) → r.demand.Answer → Prop
  | ⟨_, _, .waiting⟩, answer => answer = Tick.cancelled
  | ⟨_, _, .looking⟩, _ | ⟨_, _, .reading _ _ _⟩, _ | ⟨_, _, .running _⟩, _ => True

/-- Whether a run took its tick, and its action does not run yet. -/
def HasTicked (r : IntervalRun) : Prop :=
  match r.stage with
  | .looking | .reading _ _ _ => True
  | .waiting | .running _ | .lost => False

/-- Whether the run of a cancelled task ends within so many steps, whatever it is answered. -/
def EndsWithin : Nat → IntervalRun → Prop
  | 0, _ => False
  | n + 1, r => ∀ now registry (answer : r.demand.Answer), r.Heeds answer →
      r.resume now registry answer = r.finish registry ∨
        ∃ r', r.resume now registry answer = (registry, .waiting r') ∧ EndsWithin n r'

/-- Whether a run that reads secrets reads no more of them than it has headers. -/
def Modest (r : IntervalRun) : Prop :=
  ∀ space name next, r.stage = .reading space name next →
    (Query.ask space name next).Within r.task.action.headers.entries.length

theorem EndsWithin.more {r : IntervalRun} {n m : Nat} (ends : r.EndsWithin n) (more : n ≤ m) : r.EndsWithin m := by
  induction n generalizing r m with
  | zero => exact ends.elim
  | succ n ih =>
    cases m with
    | zero => omega
    | succ m =>
      intro now registry answer heeds
      rcases ends now registry answer heeds with ended | ⟨r',went,later⟩
      · exact .inl ended
      · exact .inr ⟨r',went,ih later (by omega)⟩

theorem endsWithin_rest (r : IntervalRun) (n : Nat) : r.rest.EndsWithin (n + 1) := by
  intro now registry answer heeds
  change Tick at answer
  change answer = Tick.cancelled at heeds
  subst heeds
  exact .inl rfl

theorem endsWithin_running (task : IntervalTask) (ticker : Ticker) (call : Call) (n : Nat) :
    EndsWithin (n + 2) ⟨task,ticker,.running call⟩ :=
  fun _ _ _ _ => .inr ⟨rest ⟨task,ticker,.running call⟩,rfl,endsWithin_rest _ n⟩

/-- A run that is lost takes no step at all. -/
theorem endsWithin_lost (task : IntervalTask) (ticker : Ticker) (n : Nat) : EndsWithin (n + 1) ⟨task,ticker,.lost⟩ :=
  fun _ _ answer _ => answer.elim

/-- Resolving headers takes a step for each secret that is read. -/
theorem endsWithin_withHeaders (r : IntervalRun) {q : Query (Except Misconfiguration (Dict String))} {n : Nat}
    (within : q.Within n) : (r.withHeaders q).EndsWithin (n + 2) := by
  induction q generalizing r n with
  | done result =>
    cases result with
    | error cause => exact endsWithin_rest r (n + 1)
    | ok headers => exact endsWithin_running _ _ _ n
  | ask space name next ih =>
    cases n with
    | zero => exact within.elim
    | succ n => exact fun _ _ answer _ => .inr ⟨_,rfl,ih answer _ (within answer)⟩

/-- A cancelled task ends within a step for each of its headers and three more. -/
theorem Modest.endsWithin {r : IntervalRun} (modest : r.Modest) :
    r.EndsWithin (r.task.action.headers.entries.length + 3) := by
  have performs (r : IntervalRun) : r.perform.EndsWithin (r.task.action.headers.entries.length + 2) :=
    r.endsWithin_withHeaders (resolveHeaders_within _ _)
  obtain ⟨task,ticker,stage⟩ := r
  cases stage with
  | lost => exact endsWithin_lost task ticker _
  | waiting => exact endsWithin_rest ⟨task,ticker,.waiting⟩ _
  | running call => exact (endsWithin_running task ticker call 0).more (by simp)
  | reading space name next =>
    exact (endsWithin_withHeaders ⟨task,ticker,.waiting⟩ (modest space name next rfl)).more (by simp)
  | looking =>
    intro now registry answer _
    rcases resume_advances now registry ⟨task,ticker,.looking⟩ answer with ⟨_,ended⟩ | ⟨r',advances,went⟩
    · exact .inl ended
    · refine .inr ⟨r',went,?_⟩
      cases advances with
      | found => exact performs ⟨task,ticker,.looking⟩
      | passed => exact endsWithin_rest ⟨task,ticker,.waiting⟩ _

theorem modest_start (task : IntervalTask) (now : Moment) : (start task now).Modest := by
  intro space name next same
  rcases start_stage task now with resting | lost
  · cases same.symm.trans resting
  · cases same.symm.trans lost

theorem modest_withHeaders (r : IntervalRun) {q : Query (Except Misconfiguration (Dict String))}
    (within : q.Within r.task.action.headers.entries.length) : (r.withHeaders q).Modest := by
  cases q with
  | done result =>
    cases result with
    | error cause => exact fun _ _ _ same => by cases same
    | ok headers => exact fun _ _ _ same => by cases same
  | ask space name next =>
    intro _ _ _ same
    cases same
    exact within

theorem modest_perform (r : IntervalRun) : r.perform.Modest :=
  r.modest_withHeaders (resolveHeaders_within _ _)

/-- What a run that goes on was before. Its action runs only after its tick, and no tick comes to a cancelled task. -/
theorem goesOn_cases {r r' : IntervalRun} (modest : r.Modest) {now : Moment} {registry registry' : Registry}
    {answer : r.demand.Answer} (went : r.resume now registry answer = (registry',.waiting r')) :
    r'.Modest ∧ (r.Heeds answer → r'.HasTicked ∨ (∃ call, r'.stage = .running call) → r.HasTicked) := by
  cases advances_of_waiting went with
  | performs => exact ⟨modest_perform _,fun heeds => (by cases heeds)⟩
  | looks => exact ⟨fun _ _ _ same => (by cases same),fun heeds => (by cases heeds)⟩
  | found => exact ⟨modest_perform _,fun _ _ => trivial⟩
  | passed => exact ⟨fun _ _ _ same => (by cases same),fun _ _ => trivial⟩
  | @read task ticker space name next answer =>
    refine ⟨modest_withHeaders ⟨task,ticker,.reading space name next⟩ ?_,fun _ _ => trivial⟩
    exact Query.Within.next (modest space name next rfl) answer
  | ran =>
    refine ⟨fun _ _ _ same => (by cases same),?_⟩
    rintro - (ticked | ⟨call,same⟩)
    · exact ticked
    · cases same

theorem start_unticked (task : IntervalTask) (now : Moment) : ¬(start task now).HasTicked := by
  rcases start_stage task now with resting | lost
  · simp [HasTicked,resting]
  · simp [HasTicked,lost]

end IntervalRun

/-! ## Tasks that are lost -/

theorem IntervalRun.withHeaders_ne_lost (r : IntervalRun) (q : Query (Except Misconfiguration (Dict String))) :
    (r.withHeaders q).stage ≠ .lost := by
  cases q with
  | ask space name next => exact fun same => by cases same
  | done result => cases result <;> exact fun same => by cases same

/-- A run is lost at its start or never. -/
theorem IntervalRun.resume_ne_lost {now : Moment} {registry registry' : Registry} {r r' : IntervalRun}
    {answer : r.demand.Answer} (went : r.resume now registry answer = (registry',.waiting r')) :
    r'.stage ≠ .lost := by
  cases advances_of_waiting went with
  | performs | found => exact withHeaders_ne_lost _ _
  | read => exact withHeaders_ne_lost _ _
  | looks | passed | ran => exact fun same => by cases same

/-- A run that is lost is as it was at its start, for whose first tick the clock has no time. -/
theorem Run.lost_start {settings : EngineSettings} {history : List Happening} {w : World}
    (run : Run settings history w) {r : IntervalRun} (member : r ∈ w.runs) (lost : r.stage = .lost) :
    ∃ now : Moment, r = .start r.task now ∧ Ticker.horizon ≤ now.nanos + r.task.period.nanos := by
  induction run generalizing r with
  | start => cases member
  | step _ step ih =>
    cases step.shift with
    | beside now runs enrolls others alive =>
      rcases List.mem_append.mp (runs.mem_iff.mp member) with before | begun
      · exact ih before lost
      · obtain ⟨task,_,rfl⟩ := List.mem_map.mp begun
        exact ⟨now,rfl,IntervalRun.start_lost_iff.mp lost⟩
    | goesOn place waits taken went task registry runs =>
      rw [runs] at member
      rcases mem_middle.mp member with rfl | member
      · exact (IntervalRun.resume_ne_lost went lost).elim
      · exact ih (mem_beside place member) lost
    | ended place waits taken went registry runs =>
      rw [runs] at member
      exact ih (mem_beside place member) lost
    | restarted runs registry =>
      rw [runs] at member
      cases member

/-- A run that is lost stays as long as the process runs, and its key with it. -/
theorem Onward.keeps_lost {settings : EngineSettings} {later : List Happening} {w w' : World}
    (onward : Onward settings w later w') {r : IntervalRun} (member : r ∈ w.runs) (lost : r.stage = .lost) :
    r ∈ w'.runs := by
  induction onward with
  | here => exact member
  | step onward step alive ih =>
    have idle : ∀ {run : IntervalRun}, run.demand.Answer → r ≠ run := by
      rintro ⟨task,ticker,stage⟩ answer rfl
      change stage = .lost at lost
      subst lost
      exact answer.elim
    cases step.shift with
    | beside now runs enrolls others alive => exact runs.mem_iff.mpr (List.mem_append_left _ ih)
    | @goesOn before after run run' answer? answer now place waits taken went task registry runs =>
      rw [place] at ih
      exact mem_beside runs ((mem_middle.mp ih).resolve_left (idle answer))
    | @ended before after run answer? answer now place waits taken went registry runs =>
      rw [place] at ih
      rw [runs]
      exact (mem_middle.mp ih).resolve_left (idle answer)
    | restarted => exact (alive rfl).elim

/-! ## Runs of sessions -/

/-- The session whose run an activity is. -/
def Pending.session? : Pending → Option Session
  | ⟨.watch run, _⟩ => some run.session
  | ⟨.task _, _⟩ | ⟨.delivery _, _⟩ | ⟨.arming _, _⟩ | ⟨.unopened _, _⟩ | ⟨.opening _, _⟩ | ⟨.reconciling _, _⟩
  | ⟨.reconciler _, _⟩ => none

theorem Pending.session?_eq (activity : Activity) (answer? answer?' : Option activity.demand.Answer) :
    Pending.session? ⟨activity,answer?⟩ = Pending.session? ⟨activity,answer?'⟩ := by
  cases activity <;> rfl

theorem WatchRun.deliver_session {w w' : WatchRun} {registry : Registry} {events : List Event}
    (went : (deliver w registry events).progress = .waiting w') : w'.session = w.session := by
  cases events with
  | nil =>
    cases went
    rfl
  | cons event rest =>
    rw [deliver] at went
    split at went
    · cases went
    · cases went
      rfl

/-- A run stays that of its session. -/
theorem WatchRun.resume_session {settings : EngineSettings} {now : Moment} {registry : Registry} {w w' : WatchRun}
    {answer : w.demand.Answer} (went : (w.resume settings now registry answer).progress = .waiting w') :
    w'.session = w.session := by
  obtain ⟨session,tracker,stage⟩ := w
  cases stage with
  | idle =>
    change Item at answer
    change (afterItem ⟨session,tracker,.idle⟩ registry answer).progress = _ at went
    cases answer with
    | cancelled => cases went
    | ended => cases went
    | next item =>
      cases item with
      | error fault =>
        cases went
        rfl
      | ok notification =>
        have same := deliver_session went
        exact same
  | delivering delivery rest =>
    change (withDelivery _ rest (delivery.resume settings now registry answer)).progress = _ at went
    unfold withDelivery at went
    split at went
    · cases went
      rfl
    · exact deliver_session went

/-- What goes on as the run of a session was one before. -/
theorem Activity.resume_session? {settings : EngineSettings} {now : Moment} {registry : Registry}
    {activity : Activity} {answer : activity.demand.Answer} {p : Pending}
    (member : p ∈ (activity.resume settings now registry answer).next) {session : Session}
    (named : p.session? = some session) : Pending.session? ⟨activity,none⟩ = some session := by
  cases activity with
  | watch run =>
    obtain ⟨run',went,rfl⟩ := Activity.Outcome.of_mem_next member
    have same := WatchRun.resume_session went
    rw [← named]
    exact congrArg some same.symm
  | arming event =>
    change Except Fault (List Rule) at answer
    cases answer <;> cases member
  | task | delivery | unopened | opening | reconciling | reconciler =>
    obtain ⟨_,_,rfl⟩ := Activity.Outcome.of_mem_next member
    cases named

/-- The sessions whose runs are under way began in the process. -/
theorem Run.opened_of_pending {settings : EngineSettings} {history : List Happening} {w : World}
    (run : Run settings history w) {p : Pending} (member : p ∈ w.pending) {session : Session}
    (named : p.session? = some session) : session ∈ sessionsOpened history := by
  induction run generalizing p with
  | start => cases member
  | step _ step ih =>
    cases step with
    | request activity asked =>
      rcases List.mem_cons.mp member with rfl | member
      · cases activity <;> first | exact asked.elim | cases named
      · exact ih member named
    | @serve before after activity place answer stored? served =>
      rcases mem_middle.mp member with rfl | member
      · exact ih (mem_of_place place) ((Pending.session?_eq _ _ _).trans named)
      · exact ih (mem_beside place member) named
    | @resume before after q answer o now place taken went =>
      subst went
      simp only [List.mem_append,Activity.Outcome.pending,List.mem_map] at member
      rcases member with (member | (member | ⟨task,_,rfl⟩) | ⟨opened,inside,rfl⟩) | member
      · exact List.mem_append_right _ (ih (mem_beside place (by simp [member])) named)
      · have before := Activity.resume_session? member named
        exact List.mem_append_right _ (ih (mem_of_place place) ((Pending.session?_eq _ _ _).trans before))
      · cases named
      · cases named
        exact List.mem_append_left _ inside
      · exact List.mem_append_right _ (ih (mem_beside place (by simp [member])) named)
    | stop type => exact ih member named
    | shutDown => exact ih member named
    | change changed => exact ih member named
    | restart => cases member

/-! ## Beginning an event -/

/-- What a delivery waits for after its first step is a dispatch. -/
theorem Delivery.proceed_dispatching {registry : Registry} {event : Event} {first? : Option Fault} {rules : List Rule}
    {d : Delivery} (went : (proceed registry event first? rules).progress = .waiting d) :
    ∃ dispatch rest first?, d = .dispatching dispatch rest first? := by
  induction rules generalizing registry first? with
  | nil => cases went
  | cons rule rest ih =>
    rw [proceed] at went
    split at went
    · exact ih went
    · split at went
      · cases went
        exact ⟨_,_,_,rfl⟩
      · exact ih went

theorem Delivery.resume_dispatching {settings : EngineSettings} {now : Moment} {registry : Registry} {d d' : Delivery}
    {answer : d.demand.Answer} (went : (d.resume settings now registry answer).progress = .waiting d') :
    ∃ dispatch rest first?, d' = .dispatching dispatch rest first? := by
  cases d with
  | listing event =>
    change Except Fault (List Rule) at answer
    change (afterListing registry event answer).progress = _ at went
    cases answer with
    | error fault => cases went
    | ok rules => exact proceed_dispatching went
  | dispatching dispatch rest first? =>
    change (withDispatch dispatch.event rest first? (dispatch.resume settings now registry answer)).progress = _ at went
    unfold withDispatch at went
    split at went
    · cases went
      exact ⟨_,_,_,rfl⟩
    · exact proceed_dispatching went

namespace WatchRun

/-- A run that begins to deliver an event. -/
def Begins (w : WatchRun) : Prop := ∃ event rest, w.stage = .delivering (.listing event) rest

theorem deliver_begins {w w' : WatchRun} {registry : Registry} {events : List Event}
    (went : (deliver w registry events).progress = .waiting w') (begins : w'.Begins) :
    registry.isCancelled w.session.token = false := by
  obtain ⟨event,left,stage⟩ := begins
  cases events with
  | nil =>
    cases went
    cases stage
  | cons event rest =>
    rw [deliver] at went
    split at went
    · cases went
    · rename_i live
      exact Bool.eq_false_iff.mpr live

/-- A session whose token is cancelled begins no event. -/
theorem resume_begins {settings : EngineSettings} {now : Moment} {registry : Registry} {w w' : WatchRun}
    {answer : w.demand.Answer} (went : (w.resume settings now registry answer).progress = .waiting w')
    (begins : w'.Begins) : (w.resume settings now registry answer).registry.isCancelled w.session.token = false := by
  obtain ⟨session,tracker,stage⟩ := w
  cases stage with
  | idle =>
    change Item at answer
    change (afterItem ⟨session,tracker,.idle⟩ registry answer).progress = _ at went
    change (afterItem ⟨session,tracker,.idle⟩ registry answer).registry.isCancelled session.token = false
    cases answer with
    | cancelled => cases went
    | ended => cases went
    | next item =>
      cases item with
      | error fault =>
        cases went
        obtain ⟨event,left,stage⟩ := begins
        cases stage
      | ok notification =>
        have live := deliver_begins went begins
        simp only [afterItem]
        rw [(deliver_frame _ _ _).1]
        exact live
  | delivering delivery rest =>
    change (withDelivery _ rest (delivery.resume settings now registry answer)).progress = _ at went
    change (withDelivery _ rest (delivery.resume settings now registry answer)).registry.isCancelled _ = false
    cases ended : (delivery.resume settings now registry answer).progress with
    | waiting delivery' =>
      simp only [withDelivery,ended] at went
      cases went
      obtain ⟨event,left,stage⟩ := begins
      obtain ⟨_,_,_,rfl⟩ := Delivery.resume_dispatching ended
      cases stage
    | finished result =>
      simp only [withDelivery,ended] at went ⊢
      rw [(deliver_frame _ _ _).1]
      exact deliver_begins went begins

end WatchRun

/-! ## After the root is cancelled -/

theorem Run.modest {settings : EngineSettings} {history : List Happening} {w : World}
    (run : Run settings history w) : ∀ r ∈ w.runs, r.Modest := by
  induction run with
  | start => exact fun r member => by cases member
  | step _ step ih =>
    intro r member
    cases step.shift with
    | beside now runs enrolls others alive =>
      rcases List.mem_append.mp (runs.mem_iff.mp member) with before | begun
      · exact ih r before
      · obtain ⟨task,_,rfl⟩ := List.mem_map.mp begun
        exact IntervalRun.modest_start task now
    | goesOn place waits taken went task registry runs =>
      rw [place,forall_middle] at ih
      rw [runs] at member
      rcases mem_middle.mp member with rfl | member
      · exact (IntervalRun.goesOn_cases ih.1 went).1
      · exact ih.2 r member
    | ended place waits taken went registry runs =>
      rw [runs] at member
      exact ih r (mem_beside place member)
    | restarted runs registry =>
      rw [runs] at member
      cases member

/-- When the root is cancelled, every session is, and every task. -/
structure World.Stopped (w : World) : Prop where
  sessions : ∀ p ∈ w.pending, ∀ session, p.session? = some session → w.registry.isCancelled session.token = true
  tasks : ∀ r ∈ w.runs, w.registry.isCancelled r.task.token = true

theorem Run.stopped {settings : EngineSettings} {history : List Happening} {w : World} (run : Run settings history w)
    (root : w.registry.isCancelled Registry.root = true) : w.Stopped := by
  refine ⟨fun p member session named => ?_,fun r member => ?_⟩
  · exact (run.traced.session session (run.opened_of_pending member named)).2.mpr (.inl root)
  · obtain ⟨entry,armed,same⟩ := List.mem_map.mp (run.armed_of_run (List.mem_map.mpr ⟨r,member,rfl⟩))
    rw [← same]
    exact (run.traced.cancelled_iff armed).mpr (.inl root)

theorem Onward.root_cancelled {settings : EngineSettings} {earlier later : List Happening} {w₀ w : World}
    (run : Run settings earlier w₀) (onward : Onward settings { w₀ with registry := w₀.registry.shutdown } later w) :
    w.registry.isCancelled Registry.root = true := by
  have grown := run.traced.grown
  have ages := onward.ages (run.step .shutDown)
  refine ages.cancelled Registry.root (TokenTree.has_cancel.mpr grown.rooted) ?_
  exact (TokenTree.isCancelled_cancel grown grown.rooted).mpr (.inr (.inl rfl))

/-- A waiting task that is cancelled gets no tick. -/
theorem Run.heeds {settings : EngineSettings} {history : List Happening} {w : World} (run : Run settings history w)
    {r : IntervalRun} {answer? : Option r.demand.Answer} (waits : ⟨.task r,answer?⟩ ∈ w.pending)
    (cancelled : w.registry.isCancelled r.task.token = true) {answer : r.demand.Answer}
    (taken : Pending.Takes ⟨.task r,answer?⟩ w.registry answer) : r.Heeds answer := by
  obtain ⟨task,ticker,stage⟩ := r
  cases stage with
  | looking => trivial
  | reading space name next => trivial
  | running call => trivial
  | lost => exact answer.elim
  | waiting =>
    rcases taken with held | ⟨_,decided⟩
    · obtain ⟨archive,stored?,served⟩ := run.served _ waits answer held
      exact served.elim
    · change Tick at answer
      change Tick.Fits (w.registry.isCancelled task.token) answer at decided
      cases answer with
      | cancelled => rfl
      | due => cases decided.symm.trans cancelled

namespace Happening

/-- A session takes a notification, or the end of its stream. -/
def Hears : Happening → Prop
  | .resumed _ (.watch ⟨_, _, .idle⟩) answer _ => answer ≠ Item.cancelled
  | _ => False

/-- A session begins to deliver an event. -/
def BeginsEvent : Happening → Prop
  | .resumed _ (.watch _) _ outcome => ∃ run, outcome.progress = .waiting (.watch run) ∧ run.Begins
  | _ => False

end Happening

/-- What takes an answer was waiting, and the answer was to be had. -/
theorem Step.taken {settings : EngineSettings} {w w' : World} {happening : Happening}
    (step : Step settings w happening w') {registry : Registry} {activity : Activity}
    {answer : activity.demand.Answer} {outcome : Activity.Outcome}
    (same : happening = .resumed registry activity answer outcome) :
    ∃ answer? now, ⟨activity,answer?⟩ ∈ w.pending ∧ Pending.Takes ⟨activity,answer?⟩ w.registry answer ∧
      activity.resume settings now w.registry answer = outcome ∧ w'.registry = outcome.registry := by
  cases step with
  | resume before now place taken went =>
    cases same
    exact ⟨_,now,mem_of_place place,taken,went,rfl⟩
  | request | serve | stop | shutDown | change | restart => cases same

/-- The run of a session whose token is cancelled takes nothing and begins nothing. -/
theorem Run.reader_idle {settings : EngineSettings} {history : List Happening} {w w' : World}
    (run : Run settings history w) {registry : Registry} {reader : WatchRun} {answer : reader.demand.Answer}
    {outcome : Activity.Outcome} (step : Step settings w (.resumed registry (.watch reader) answer outcome) w')
    (cancelled : w.registry.isCancelled reader.session.token = true) :
    ¬(Happening.resumed registry (.watch reader) answer outcome).Hears ∧
      ¬(Happening.resumed registry (.watch reader) answer outcome).BeginsEvent := by
  have ages := (run.ages step nofun).1
  obtain ⟨answer?,now,member,taken,went,same⟩ := step.taken rfl
  constructor
  · obtain ⟨session,tracker,stage⟩ := reader
    cases stage with
    | delivering => exact fun no => no
    | idle =>
      refine fun hears => hears ?_
      rcases taken with held | ⟨_,decided⟩
      · obtain ⟨archive,stored?,served⟩ := run.served _ member answer held
        exact served.elim
      · change Item at answer
        change Item.Fits (w.registry.isCancelled session.token) answer at decided
        rw [cancelled] at decided
        cases answer with
        | cancelled => rfl
        | next item => cases decided
        | ended => cases decided
  · rintro ⟨reader',progress,begins⟩
    have held := run.traced.has_session (run.opened_of_pending member rfl)
    have still := ages.cancelled _ held cancelled
    subst went
    rw [same] at still
    change (reader.resume settings now w.registry answer).progress.map Activity.watch _ = _ at progress
    change (reader.resume settings now w.registry answer).registry.isCancelled reader.session.token = true at still
    cases on : (reader.resume settings now w.registry answer).progress with
    | finished result =>
      rw [on] at progress
      cases progress
    | waiting next =>
      rw [on] at progress
      cases progress
      cases (WatchRun.resume_begins on begins).symm.trans still

/-- When all sessions are cancelled, none takes or begins anything. -/
theorem Run.session_idle {settings : EngineSettings} {history : List Happening} {w w' : World}
    (run : Run settings history w) {happening : Happening} (step : Step settings w happening w')
    (stopped : w.Stopped) : ¬happening.Hears ∧ ¬happening.BeginsEvent := by
  cases happening with
  | requested | served | stopped | shutDown | changed | restarted => exact ⟨fun no => no,fun no => no⟩
  | resumed registry activity answer outcome =>
    cases activity with
    | task | delivery | arming | unopened | opening | reconciling | reconciler => exact ⟨fun no => no,fun no => no⟩
    | watch reader =>
      obtain ⟨answer?,_,member,_⟩ := step.taken rfl
      exact run.reader_idle step (stopped.sessions _ member reader.session rfl)

/-! ## Tasks that had taken their tick -/

/-- How many steps the run of a task took. -/
def taken (token : Token) (history : List Happening) : Nat :=
  history.countP fun happening => happening.mover?.map (·.task.token) = some token

theorem taken_of_others {happening : Happening} {token : Token} (others : ∀ r ∈ happening.mover?, r.task.token ≠ token)
    (history : List Happening) : taken token (happening :: history) = taken token history := by
  refine List.countP_cons_of_neg ?_
  cases mover : happening.mover? with
  | none => simp
  | some r => simpa using others r mover

theorem taken_of_mover {happening : Happening} {r : IntervalRun} (mover : happening.mover? = some r)
    (history : List Happening) : taken r.task.token (happening :: history) = taken r.task.token history + 1 :=
  List.countP_cons_of_pos (by simp [mover])

/-- How many steps a cancelled task takes at most: one for each header, and three. -/
def IntervalTask.limit (task : IntervalTask) : Nat := task.action.headers.entries.length + 3

/-- What holds of tasks after a state in which all of them are cancelled: those that took their tick did so before,
the action of each begins once more at most, and each has steps left only up to its limit. -/
structure Waning (w₀ : World) (later : List Happening) (w : World) : Prop where
  once : ((calls later).map (·.token)).Nodup
  called : ∀ task ∈ calls later, ∃ r ∈ w₀.runs, r.task = task ∧ r.HasTicked
  ticked : ∀ r ∈ w.runs, r.HasTicked →
    (∃ r₀ ∈ w₀.runs, r₀.task = r.task ∧ r₀.HasTicked) ∧ r.task.token ∉ (calls later).map (·.token)
  ending : ∀ r ∈ w.runs, ∃ n, n + taken r.task.token later = r.task.limit ∧ r.EndsWithin n
  unused : ∀ token, ¬w.registry.tokens.Has token → taken token later = 0

namespace Waning

theorem start {w₀ w : World} (same : w.runs = w₀.runs) (modest : ∀ r ∈ w.runs, r.Modest) : Waning w₀ [] w := by
  refine ⟨List.nodup_nil,?_,?_,?_,fun _ _ => rfl⟩
  · intro task member
    cases member
  · intro r member ticked
    rw [same] at member
    exact ⟨⟨r,member,rfl,ticked⟩,fun called => by cases called⟩
  · exact fun r member => ⟨r.task.limit,rfl,(modest r member).endsWithin⟩

variable {w₀ w w' : World} {later : List Happening} {happening : Happening}

/-- Tasks begin beside the others. They have new tokens, and wait for their first tick. -/
theorem beside (waning : Waning w₀ later w) {now : Moment}
    (runs : w'.runs.Perm (w.runs ++ happening.armed.map fun task => .start task now))
    (others : happening.mover? = none) (ages : w.registry.Ages w'.registry)
    (fresh : ∀ task ∈ happening.armed, ¬w.registry.tokens.Has task.token) : Waning w₀ (happening :: later) w' := by
  have same := calls_of_quiet (Happening.call?_of_mover? others) later
  have untaken (token : Token) : taken token (happening :: later) = taken token later :=
    taken_of_others (by simp [others]) later
  refine ⟨by rw [same]; exact waning.once,by rw [same]; exact waning.called,?_,?_,?_⟩
  · rw [same]
    intro r member ticked
    rcases List.mem_append.mp (runs.mem_iff.mp member) with before | begun
    · exact waning.ticked r before ticked
    · obtain ⟨task,_,rfl⟩ := List.mem_map.mp begun
      exact (IntervalRun.start_unticked task now ticked).elim
  · intro r member
    rw [untaken]
    rcases List.mem_append.mp (runs.mem_iff.mp member) with before | begun
    · exact waning.ending r before
    · obtain ⟨task,armed,rfl⟩ := List.mem_map.mp begun
      refine ⟨task.limit,?_,(IntervalRun.modest_start task now).endsWithin⟩
      change task.limit + taken task.token later = task.limit
      rw [waning.unused task.token (fresh task armed),Nat.add_zero]
  · intro token unheld
    rw [untaken]
    exact waning.unused token fun held => unheld (ages.has token held)

/-- The run of a task goes on. -/
theorem goesOn (waning : Waning w₀ later w) (enrolled : w.Enrolled) {before after : List IntervalRun}
    {r r' : IntervalRun} (place : w.runs = before ++ r :: after) (runs : w'.runs = before ++ r' :: after)
    (task : r'.task = r.task) (registry : w'.registry = w.registry) (mover : happening.mover? = some r)
    (earlier : r'.HasTicked ∨ (∃ call, r'.stage = .running call) → r.HasTicked)
    (ends : ∀ n, r.EndsWithin n → ∃ m, n = m + 1 ∧ r'.EndsWithin m)
    (calling : happening.call? = some r.task ∧ (∃ call, r'.stage = .running call) ∨ happening.call? = none) :
    Waning w₀ (happening :: later) w' := by
  have member : r ∈ w.runs := mem_of_place place
  have apart : ∀ q ∈ before ++ after, q.task.token ≠ r.task.token := fun _ => enrolled.apart place
  have ending : ∀ q ∈ w'.runs, ∃ n, n + taken q.task.token (happening :: later) = q.task.limit ∧ q.EndsWithin n := by
    intro q inside
    rw [runs] at inside
    rcases mem_middle.mp inside with rfl | inside
    · obtain ⟨n,left,within⟩ := waning.ending r member
      obtain ⟨m,rfl,fewer⟩ := ends n within
      refine ⟨m,?_,fewer⟩
      rw [task,taken_of_mover mover,← left]
      omega
    · rw [taken_of_others (by simpa [mover] using (apart q inside).symm)]
      exact waning.ending q (mem_beside place inside)
  have unused : ∀ token, ¬w'.registry.tokens.Has token → taken token (happening :: later) = 0 := by
    intro token unheld
    rw [registry] at unheld
    rw [taken_of_others ?_]
    · exact waning.unused token unheld
    · intro other moved same
      cases moved.symm.trans mover
      exact unheld (by rw [← same]; exact enrolled.has member)
  rcases calling with ⟨began,call,running⟩ | quiet
  · -- the action of the task begins, which had taken its tick before
    have now := calls_of_began began later
    obtain ⟨first,fresh⟩ := waning.ticked r member (earlier (.inr ⟨call,running⟩))
    refine ⟨?_,?_,?_,ending,unused⟩
    · rw [now,List.map_cons]
      exact List.nodup_cons.mpr ⟨fresh,waning.once⟩
    · rw [now]
      exact List.forall_mem_cons.mpr ⟨first,waning.called⟩
    · rw [now,runs]
      intro q inside ticked
      rcases mem_middle.mp inside with rfl | inside
      · rw [IntervalRun.HasTicked,running] at ticked
        exact ticked.elim
      · obtain ⟨before,uncalled⟩ := waning.ticked q (mem_beside place inside) ticked
        refine ⟨before,?_⟩
        rw [List.map_cons,List.mem_cons,not_or]
        exact ⟨apart q inside,uncalled⟩
  · have same := calls_of_quiet quiet later
    refine ⟨by rw [same]; exact waning.once,by rw [same]; exact waning.called,?_,ending,unused⟩
    rw [same,runs]
    intro q inside ticked
    rcases mem_middle.mp inside with rfl | inside
    · rw [task]
      exact waning.ticked r member (earlier (.inl ticked))
    · exact waning.ticked q (mem_beside place inside) ticked

/-- The run of a task ends. -/
theorem ended (waning : Waning w₀ later w) (enrolled : w.Enrolled) {before after : List IntervalRun}
    {r : IntervalRun} (place : w.runs = before ++ r :: after) (runs : w'.runs = before ++ after)
    (ages : w.registry.Ages w'.registry) (mover : happening.mover? = some r) (quiet : happening.call? = none) :
    Waning w₀ (happening :: later) w' := by
  have same := calls_of_quiet quiet later
  refine ⟨by rw [same]; exact waning.once,by rw [same]; exact waning.called,?_,?_,?_⟩
  · rw [same,runs]
    exact fun q inside ticked => waning.ticked q (mem_beside place inside) ticked
  · rw [runs]
    intro q inside
    rw [taken_of_others (by simpa [mover] using (enrolled.apart place inside).symm)]
    exact waning.ending q (mem_beside place inside)
  · intro token unheld
    rw [taken_of_others ?_]
    · exact waning.unused token fun held => unheld (ages.has token held)
    · intro other moved same
      cases moved.symm.trans mover
      refine unheld (ages.has token ?_)
      rw [← same]
      exact enrolled.has (mem_of_place place)

theorem step {settings : EngineSettings} {history : List Happening} (waning : Waning w₀ later w)
    (run : Run settings history w) (stopped : w.Stopped) (step : Step settings w happening w')
    (alive : happening ≠ .restarted) : Waning w₀ (happening :: later) w' := by
  obtain ⟨ages,fresh⟩ := run.ages step alive
  cases step.shift with
  | beside now runs enrolls others _ => exact waning.beside runs others ages fun task armed => (fresh task armed).1
  | @goesOn before after r r' answer? answer now place waits given went task registry runs =>
    have member : r ∈ w.runs := mem_of_place place
    have heeds := run.heeds waits (stopped.tasks r member) given
    have ends : ∀ n, r.EndsWithin n → ∃ m, n = m + 1 ∧ r'.EndsWithin m := by
      intro n ends
      cases n with
      | zero => exact ends.elim
      | succ m =>
        rcases ends now w.registry answer heeds with ended | ⟨r'',went',within⟩
        · cases congrArg Prod.snd (went.symm.trans ended)
        · cases went.symm.trans went'
          exact ⟨m,rfl,within⟩
    exact waning.goesOn run.enrolled place runs task registry rfl
      ((IntervalRun.goesOn_cases (run.modest r member) went).2 heeds) ends
      ((Happening.call?_task w.registry w.registry r r' answer).imp_right And.left)
  | ended place waits given went registry runs => exact waning.ended run.enrolled place runs ages rfl rfl
  | restarted => exact (alive rfl).elim

end Waning

theorem Onward.waning {settings : EngineSettings} {earlier later : List Happening} {w₀ w : World}
    (run : Run settings earlier w₀) (onward : Onward settings { w₀ with registry := w₀.registry.shutdown } later w) :
    Waning w₀ later w ∧ ∀ happening ∈ later, ¬happening.Hears ∧ ¬happening.BeginsEvent := by
  induction onward with
  | here => exact ⟨.start rfl (run.step .shutDown).modest,fun happening member => by cases member⟩
  | @step later w' w'' happening onward step alive ih =>
    have ran := (run.step .shutDown).onward onward
    have stopped := ran.stopped (onward.root_cancelled run)
    exact ⟨ih.1.step ran stopped step alive,List.forall_mem_cons.mpr ⟨ran.session_idle step stopped,ih.2⟩⟩

/-- A cancelled task that waits for a tick may end at once. -/
theorem Run.can_end {settings : EngineSettings} {history : List Happening} {w : World} (run : Run settings history w)
    (stopped : w.Stopped) {r : IntervalRun} (member : r ∈ w.runs) (waits : r.stage = .waiting) :
    ∃ happening w', Step settings w happening w' ∧ w'.registry.hasTask r.task.key = false := by
  have cancelled := stopped.tasks r member
  obtain ⟨task,ticker,stage⟩ := r
  change stage = .waiting at waits
  subst waits
  obtain ⟨⟨activity,answer?⟩,pending,named⟩ := List.mem_filterMap.mp member
  cases activity with
  | watch | delivery | arming | unopened | opening | reconciling | reconciler => cases named
  | task r =>
    cases named
    obtain ⟨before,after,place⟩ := List.append_of_mem pending
    refine ⟨_,_,@Step.resume settings w before after ⟨.task ⟨task,ticker,.waiting⟩,answer?⟩ Tick.cancelled _ default
      place ?_ rfl,w.registry.hasTask_removeTask task.key⟩
    cases answer? with
    | none => exact .inr ⟨rfl,cancelled⟩
    | some answer =>
      obtain ⟨archive,stored?,served⟩ := run.served _ pending answer rfl
      exact served.elim

/-- Whatever follows a shutdown in the same process: no session takes a notification or begins an event. The action
of a task begins at most once more, and only of a task that had taken its tick by then, so of none that was armed
later. The registered tasks are those that still run. They are cancelled, so one that waits for a tick may end at
once, and each ends before it took more than a bounded number of steps, whatever it is answered. Only a task that was
lost when it was armed, because the clock has no time for its first tick, is never answered. -/
theorem Run.shutdown_is_final {settings : EngineSettings} {earlier later : List Happening} {w₀ w : World}
    (run : Run settings earlier w₀) (onward : Onward settings { w₀ with registry := w₀.registry.shutdown } later w) :
    (∀ happening ∈ later, ¬happening.Hears ∧ ¬happening.BeginsEvent) ∧
      ((calls later).map (·.token)).Nodup ∧
      (∀ task ∈ calls later, ∃ r ∈ w₀.runs, r.task = task ∧ r.HasTicked) ∧
      (∀ task ∈ (tasksArmed later).map (·.2), task.token ∉ (calls later).map (·.token)) ∧
      (w.runs.map (·.task.entry)).Perm w.registry.tasks ∧
      ∀ r ∈ w.runs, w.registry.isCancelled r.task.token = true ∧ taken r.task.token later < r.task.limit ∧
        r.EndsWithin (r.task.limit - taken r.task.token later) ∧
        (r.stage = .waiting →
          ∃ happening w', Step settings w happening w' ∧ w'.registry.hasTask r.task.key = false) ∧
        (r.stage = .lost →
          ∃ now : Moment, r = .start r.task now ∧ Ticker.horizon ≤ now.nanos + r.task.period.nanos) := by
  obtain ⟨waning,idle⟩ := onward.waning run
  have ran := (run.step .shutDown).onward onward
  have stopped := ran.stopped (onward.root_cancelled run)
  refine ⟨idle,waning.once,waning.called,?_,ran.enrolled.registered,?_⟩
  · intro task armed called
    obtain ⟨other,member,same⟩ := List.mem_map.mp called
    obtain ⟨r,inside,rfl,_⟩ := waning.called other member
    refine onward.armed_new (run.step .shutDown) task armed ?_
    rw [← same]
    exact TokenTree.has_cancel.mpr (run.enrolled.has inside)
  · intro r member
    obtain ⟨n,left,ends⟩ := waning.ending r member
    have some_left : 0 < n := by
      cases n with
      | zero => exact ends.elim
      | succ n => exact Nat.succ_pos n
    rw [← left,Nat.add_sub_cancel]
    exact ⟨stopped.tasks r member,by omega,ends,ran.can_end stopped member,ran.lost_start member⟩

namespace Sample

/-- A task that looks its rule up, beside the session of its type. -/
def looking : World :=
  { resting with
    pending := [⟨.task ⟨beatTask ⟨2⟩, ⟨20000000000, ⟨10000000000⟩⟩, .looking⟩, none⟩,
      ⟨.watch (.start (nextSession {})), none⟩] }

theorem looks : ∃ history, Run {} history looking := by
  obtain ⟨_,run⟩ := rests
  exact ⟨_,run.decides moment Tick.due rfl rfl⟩

/-- A task looks its rule up when the engine is shut down. Its action runs once more, and then the task ends. -/
theorem shutdown_is_final_of_looking : ∃ earlier later w₀ w, Run {} earlier w₀ ∧
    Onward {} { w₀ with registry := w₀.registry.shutdown } later w ∧ calls later = [beatTask ⟨2⟩] ∧
    (∃ r ∈ w₀.runs, r.task = beatTask ⟨2⟩ ∧ r.HasTicked) ∧ w.runs = [] ∧ w.registry.tasks = [] := by
  obtain ⟨earlier,run⟩ := looks
  have onward : Onward {} { looking with registry := looking.registry.shutdown } [] _ := .here
  -- the rule is there, and the action runs
  replace onward := (onward.told (Except.ok beatRule) ⟨rfl,rfl⟩).goes moment rfl
  replace onward := (onward.told (Except.ok ()) rfl).goes moment rfl
  -- the next tick does not come
  replace onward := onward.decides moment Tick.cancelled rfl rfl
  obtain ⟨_,_,called,_,registered,_⟩ := run.shutdown_is_final onward
  exact ⟨_,_,_,_,run,onward,rfl,called _ (.head _),rfl,List.nil_perm.mp registered⟩

/-- A task is armed with the longest schedule there is, and lost at once. The engine is shut down, and whatever comes
then, its key stays. -/
theorem shutdown_keeps_lost_key : ∃ earlier w₀, Run {} earlier w₀ ∧ w₀.runs.map (·.task) = [distantTask ⟨2⟩] ∧
    ∀ later w, Onward {} { w₀ with registry := w₀.registry.shutdown } later w →
      w.registry.hasTask beatKey = true := by
  obtain ⟨_,run,_⟩ := watches ((Run.start : Run {} [] {}).step (.change (created distantRule))) rfl
  replace run := run.step (.request (.delivery (.listing event)) trivial)
  replace run := (run.told (Except.ok [distantRule]) ⟨rfl,fun _ member => member⟩).goes moment
    (resume_listing (by decide) distant_read rfl rfl)
  refine ⟨_,_,run,rfl,fun later w onward => ?_⟩
  have stays : IntervalRun.start (distantTask ⟨2⟩) moment ∈ w.runs :=
    onward.keeps_lost (List.mem_singleton_self _) (distant_lost ⟨2⟩)
  have registered := ((run.step .shutDown).onward onward).enrolled.registered
  have inside : (distantTask ⟨2⟩).entry ∈ w.registry.tasks :=
    registered.mem_iff.mp (List.mem_map.mpr ⟨_,stays,rfl⟩)
  exact (Registry.hasTask_iff _ _).mpr (List.mem_map.mpr ⟨_,inside,rfl⟩)

end Sample
end Callout
