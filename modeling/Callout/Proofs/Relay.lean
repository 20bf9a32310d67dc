import Callout.Proofs.Replay
import Callout.Proofs.Sessions

/-!
What becomes of the stream of a session. Its run takes one item after the other, follows the notifications among them
with its tracker, and passes the events that they amount to on to a delivery, each when the delivery before has
returned. What it has passed on and what is left are all events so far (`WatchRun.Keeps`). A run that is over has
passed on all of them, unless its token was cancelled (`Run.delivers_in_order`).
-/
namespace Callout

/-! ## What a session takes, passes on and gets back -/

/-- What the happenings in the process that runs tell, oldest first. -/
def recounted {α : Type} (told? : Happening → Option α) : List Happening → List α
  | .restarted :: _ | [] => []
  | happening :: rest => recounted told? rest ++ (told? happening).toList

theorem recounted_cons {α : Type} (told? : Happening → Option α) {happening : Happening}
    (alive : happening ≠ .restarted) (history : List Happening) :
    recounted told? (happening :: history) = recounted told? history ++ (told? happening).toList := by
  cases happening with
  | requested | served | resumed | stopped | shutDown | changed => rfl
  | restarted => exact (alive rfl).elim

/-- What is taken from a stream. -/
def Item.content? : Item → Option (Except Fault Notification)
  | .next item => some item
  | .cancelled | .ended => none

/-- A tracker after the items of a stream, and the events that they amount to. Faults are left out. -/
def followed (type : ResourceType) (items : List (Except Fault Notification)) : Tracker × List Event :=
  (Tracker.new type).follow (items.filterMap Except.toOption)

/-- The event that is being delivered. -/
def Delivery.event : Delivery → Event
  | .listing event => event
  | .dispatching dispatch _ _ => dispatch.event

namespace WatchRun

/-- What the run of a session takes from its stream with an answer. -/
def taken? : (r : WatchRun) → r.demand.Answer → Option (Except Fault Notification)
  | ⟨_, _, .idle⟩, answer => Item.content? answer
  | ⟨_, _, .delivering _ _⟩, _ => none

/-- The event whose delivery is under way. -/
def current? (r : WatchRun) : Option Event :=
  match r.stage with
  | .idle => none
  | .delivering delivery _ => some delivery.event

/-- The event whose delivery begins. -/
def begun? (r : WatchRun) : Option Event :=
  match r.stage with
  | .delivering (.listing event) _ => some event
  | .idle | .delivering (.dispatching _ _ _) _ => none

/-- The events that are left to be delivered. -/
def left (r : WatchRun) : List Event :=
  match r.stage with
  | .idle => []
  | .delivering _ rest => rest

/-- The event whose delivery returned before a run went on or ended. -/
def returned? (r : WatchRun) : Progress Activity Activity.Result → Option Event
  | .waiting (.watch ⟨_, _, .delivering (.dispatching _ _ _) _⟩) => none
  | .waiting _ | .finished _ => r.current?

end WatchRun

namespace Happening

/-- The run of a session that takes a step. -/
def reader? : Happening → Option WatchRun
  | .resumed _ (.watch run) _ _ => some run
  | _ => none

/-- What a session takes from its stream. -/
def taken? (s : Session) : Happening → Option (Except Fault Notification)
  | .resumed _ (.watch run) answer _ => if run.session = s then run.taken? answer else none
  | _ => none

/-- The event that a session passes on to a delivery. -/
def passed? (s : Session) : Happening → Option Event
  | .resumed _ (.watch _) _ ⟨_, _, _, .waiting (.watch next)⟩ => if next.session = s then next.begun? else none
  | _ => none

/-- The event whose delivery returns to a session. -/
def returned? (s : Session) : Happening → Option Event
  | .resumed _ (.watch run) _ outcome => if run.session = s then run.returned? outcome.progress else none
  | _ => none

end Happening

/-- What a session took from its stream. -/
def itemsTaken (s : Session) (history : List Happening) : List (Except Fault Notification) :=
  recounted (Happening.taken? s) history

/-- The events that a session passed on. -/
def eventsPassed (s : Session) (history : List Happening) : List Event := recounted (Happening.passed? s) history

/-- The events whose deliveries returned to a session. -/
def eventsReturned (s : Session) (history : List Happening) : List Event :=
  recounted (Happening.returned? s) history

/-! ## The run of a session -/

theorem Tracker.follow_append (t : Tracker) (before after : List Notification) :
    t.follow (before ++ after) =
      (((t.follow before).1.follow after).1,(t.follow before).2 ++ ((t.follow before).1.follow after).2) := by
  induction before generalizing t with
  | nil => rfl
  | cons notification rest ih => simp only [List.cons_append,follow,ih,List.append_assoc]

theorem followed_ok (type : ResourceType) (items : List (Except Fault Notification)) (n : Notification) :
    followed type (items ++ [Except.ok n]) =
      (((followed type items).1.push n).1,(followed type items).2 ++ ((followed type items).1.push n).2) := by
  simp [followed,Tracker.follow_append,Tracker.follow,Except.toOption]

theorem followed_error (type : ResourceType) (items : List (Except Fault Notification)) (fault : Fault) :
    followed type (items ++ [Except.error fault]) = followed type items := by
  have none : [(Except.error fault : Except Fault Notification)].filterMap Except.toOption = [] := rfl
  rw [followed,List.filterMap_append,none,List.append_nil,followed]

namespace Delivery

/-- A delivery that goes on is still one of its event. -/
theorem proceed_event {registry : Registry} {event : Event} {first? : Option Fault} {rules : List Rule}
    {d : Delivery} (went : (proceed registry event first? rules).progress = .waiting d) : d.event = event := by
  induction rules generalizing registry first? with
  | nil => cases went
  | cons rule rest ih =>
    rw [proceed] at went
    split at went
    · exact ih went
    · split at went
      next started =>
        cases went
        exact congrArg Dispatch.event (Dispatch.start_waiting started).1
      next => exact ih went

theorem resume_event {settings : EngineSettings} {now : Moment} {registry : Registry} {d d' : Delivery}
    {answer : d.demand.Answer} (went : (d.resume settings now registry answer).progress = .waiting d') :
    d'.event = d.event := by
  cases d with
  | listing event =>
    change Except Fault (List Rule) at answer
    change (afterListing registry event answer).progress = _ at went
    cases answer with
    | error fault => cases went
    | ok rules => exact proceed_event went
  | dispatching dispatch rest first? =>
    change (withDispatch dispatch.event rest first? (dispatch.resume settings now registry answer)).progress = _ at went
    cases step : dispatch.resume settings now registry answer with
    | mk between progress =>
      rw [step] at went
      cases progress with
      | waiting dispatch' =>
        cases went
        exact (Dispatch.resume_waiting step).2.event
      | finished result => exact proceed_event went

end Delivery

/-- How far the run of a session has come with its stream: what it passed on and what is left are the events so far,
and all deliveries have returned but the one that is under way. -/
structure WatchRun.Keeps (r : WatchRun) (items : List (Except Fault Notification)) (passed returned : List Event) :
    Prop where
  tracker : (followed r.session.target.type items).1 = r.tracker
  left : passed ++ r.left = (followed r.session.target.type items).2
  current : passed = returned ++ r.current?.toList

/-- How far a session without a run has come: it passed on a first part of the events, all of them unless its token is
cancelled, and all deliveries have returned. -/
structure Session.Rests (s : Session) (registry : Registry) (items : List (Except Fault Notification))
    (passed returned : List Event) : Prop where
  first : passed <+: (followed s.target.type items).2
  returned : returned = passed
  whole : registry.isCancelled s.token = false → passed = (followed s.target.type items).2

namespace WatchRun
variable {settings : EngineSettings} {now : Moment} {registry : Registry} {r r' : WatchRun}
variable {items : List (Except Fault Notification)} {passed returned : List Event}

theorem keeps_start (s : Session) : (start s).Keeps [] [] [] := ⟨rfl,rfl,rfl⟩

theorem Keeps.first (keeps : r.Keeps items passed returned) :
    passed <+: (followed r.session.target.type items).2 :=
  ⟨r.left,keeps.left⟩

/-- A run with some events left passes on the first of them, unless its token is cancelled. -/
theorem deliver_keeps {events : List Event} (tracker : (followed r.session.target.type items).1 = r.tracker)
    (left : passed ++ events = (followed r.session.target.type items).2)
    (went : (deliver r registry events).progress = .waiting r') :
    r'.Keeps items (passed ++ r'.begun?.toList) passed := by
  cases events with
  | nil =>
    cases went
    exact ⟨tracker,by simpa [begun?,WatchRun.left] using left,rfl⟩
  | cons event rest =>
    rw [deliver] at went
    split at went
    · cases went
    · cases went
      exact ⟨tracker,by simpa [begun?,WatchRun.left] using left,rfl⟩

/-- A run with events left ends only when its token is cancelled. -/
theorem deliver_finished {events : List Event} {result : Unit}
    (went : (deliver r registry events).progress = .finished result) :
    registry.isCancelled r.session.token = true := by
  cases events with
  | nil => cases went
  | cons event rest =>
    rw [deliver] at went
    split at went
    · assumption
    · cases went

/-- The event under way has returned to the run exactly when its delivery is finished. -/
theorem returned?_delivering (settings : EngineSettings) (now : Moment) (registry : Registry) (session : Session)
    (tracker : Tracker) (delivery : Delivery) (rest : List Event) (answer : delivery.demand.Answer) :
    WatchRun.returned? ⟨session,tracker,.delivering delivery rest⟩
        ((withDelivery ⟨session,tracker,.delivering delivery rest⟩ rest
          (delivery.resume settings now registry answer)).progress.map .watch fun _ => .none) =
      match (delivery.resume settings now registry answer).progress with
      | .waiting _ => none
      | .finished _ => some delivery.event := by
  cases went : (delivery.resume settings now registry answer).progress with
  | waiting delivery' =>
    obtain ⟨_,_,_,rfl⟩ := Delivery.resume_dispatching went
    simp only [withDelivery,went]
    rfl
  | finished result =>
    simp only [withDelivery,went]
    cases rest with
    | nil => rfl
    | cons event others =>
      rw [deliver]
      split <;> rfl

/-- A run that goes on keeps up with its stream. -/
theorem Keeps.goesOn (keeps : r.Keeps items passed returned) {answer : r.demand.Answer}
    (went : (r.resume settings now registry answer).progress = .waiting r') :
    r'.Keeps (items ++ (r.taken? answer).toList) (passed ++ r'.begun?.toList)
      (returned ++ (r.returned? (.waiting (.watch r'))).toList) := by
  obtain ⟨session,tracker,stage⟩ := r
  obtain ⟨same,left,current⟩ := keeps
  cases stage with
  | idle =>
    change Item at answer
    change (afterItem ⟨session,tracker,.idle⟩ registry answer).progress = _ at went
    -- no delivery was under way, so all have returned, and all events so far were passed on
    obtain rfl : returned = passed := by simpa [current?] using current.symm
    have idle : WatchRun.returned? ⟨session,tracker,.idle⟩ (.waiting (.watch r')) = none := by
      unfold WatchRun.returned?
      split <;> rfl
    simp only [idle,Option.toList_none,List.append_nil]
    cases answer with
    | cancelled => cases went
    | ended => cases went
    | next item =>
      cases item with
      | error fault =>
        cases went
        change WatchRun.Keeps _ (items ++ [Except.error fault]) _ _
        refine ⟨?_,?_,by simp [begun?,current?]⟩
        · rw [followed_error]
          exact same
        · rw [followed_error]
          simpa [begun?] using left
      | ok notification =>
        change WatchRun.Keeps _ (items ++ [Except.ok notification]) _ _
        refine deliver_keeps (r := ⟨session,(tracker.push notification).1,.idle⟩) ?_ ?_ went
        · rw [followed_ok,same]
        · rw [followed_ok,same,← left]
          exact congrArg (· ++ _) (List.append_nil _).symm
  | delivering delivery rest =>
    change (withDelivery _ rest (delivery.resume settings now registry answer)).progress = _ at went
    change WatchRun.Keeps _ (items ++ []) _ _
    have back := returned?_delivering settings now registry session tracker delivery rest answer
    rw [went] at back
    change WatchRun.returned? _ (.waiting (.watch r')) = _ at back
    rw [List.append_nil,back]
    cases ended : (delivery.resume settings now registry answer).progress with
    | waiting delivery' =>
      simp only [withDelivery,ended] at went
      cases went
      obtain ⟨dispatch,others,first?,rfl⟩ := Delivery.resume_dispatching ended
      have event : dispatch.event = delivery.event := Delivery.resume_event ended
      refine ⟨same,?_,?_⟩
      · rw [← left]
        simp [begun?,WatchRun.left]
      · rw [current]
        simp [begun?,current?,Delivery.event,event]
    | finished result =>
      simp only [withDelivery,ended] at went
      have returned : returned ++ [delivery.event] = passed := current.symm
      rw [Option.toList_some,returned]
      exact deliver_keeps same left went

/-- A run that ends has kept up with its stream, unless its token is cancelled. -/
theorem Keeps.ended (keeps : r.Keeps items passed returned) {answer : r.demand.Answer} {result : Unit}
    (went : (r.resume settings now registry answer).progress = .finished result) :
    r.session.Rests (r.resume settings now registry answer).registry (items ++ (r.taken? answer).toList) passed
      (returned ++ (r.returned? (.finished .none)).toList) := by
  have back : returned ++ (r.returned? (.finished .none)).toList = passed := keeps.current.symm
  obtain ⟨session,tracker,stage⟩ := r
  obtain ⟨same,left,current⟩ := keeps
  cases stage with
  | idle =>
    change Item at answer
    change (afterItem ⟨session,tracker,.idle⟩ registry answer).progress = _ at went
    have all : passed = (followed session.target.type items).2 := by
      rw [← left]
      exact (List.append_nil _).symm
    have kept : session.Rests (afterItem ⟨session,tracker,.idle⟩ registry answer).registry (items ++ []) passed
        (returned ++ []) := by
      rw [List.append_nil]
      exact ⟨⟨[],by rw [List.append_nil]; exact all⟩,back,fun _ => all⟩
    cases answer with
    | cancelled => exact kept
    | ended => exact kept
    | next item =>
      cases item with
      | error fault => cases went
      | ok notification =>
        have cancelled : registry.isCancelled session.token = true := deliver_finished went
        refine ⟨?_,back,fun live => ?_⟩
        · change passed <+: (followed session.target.type (items ++ [Except.ok notification])).2
          rw [followed_ok,← all]
          exact List.prefix_append _ _
        · simp only [WatchRun.resume,afterItem] at live
          rw [(deliver_frame _ _ _).1] at live
          cases live.symm.trans cancelled
  | delivering delivery rest =>
    change (withDelivery _ rest (delivery.resume settings now registry answer)).progress = _ at went
    change session.Rests (withDelivery _ rest (delivery.resume settings now registry answer)).registry (items ++ []) _ _
    rw [List.append_nil]
    cases ended : (delivery.resume settings now registry answer).progress with
    | waiting delivery' =>
      simp only [withDelivery,ended] at went
      cases went
    | finished result =>
      simp only [withDelivery,ended] at went ⊢
      refine ⟨⟨rest,left⟩,back,fun live => ?_⟩
      rw [(deliver_frame _ _ _).1] at live
      cases live.symm.trans (deliver_finished went)

end WatchRun

/-! ## Runs of sessions among others -/

/-- The run of a session that an activity is. -/
def Pending.watch? : Pending → Option WatchRun
  | ⟨.watch run, _⟩ => some run
  | ⟨.task _, _⟩ | ⟨.delivery _, _⟩ | ⟨.arming _, _⟩ | ⟨.unopened _, _⟩ | ⟨.opening _, _⟩ | ⟨.reconciling _, _⟩
  | ⟨.reconciler _, _⟩ => none

/-- The runs of sessions. -/
def World.watches (w : World) : List WatchRun := w.pending.filterMap Pending.watch?

theorem Pending.session?_of_watch (p : Pending) : p.session? = p.watch?.map (·.session) := by
  obtain ⟨activity,answer?⟩ := p
  cases activity <;> rfl

theorem World.streams_eq (w : World) : w.streams = w.watches.map (·.session) := by
  rw [watches,List.map_filterMap,streams]
  exact congrArg (List.filterMap · w.pending) (funext Pending.session?_of_watch)

/-- What a step is to the runs of sessions: one of them goes on or ends, or others begin beside them. -/
inductive Relay (settings : EngineSettings) (w w' : World) : Happening → Prop where
  | beside {happening : Happening} (watches : w'.watches.Perm (w.watches ++ happening.sessions.map .start))
      (others : happening.reader? = none) (alive : happening ≠ .restarted) : Relay settings w w' happening
  | goesOn {before after : List WatchRun} {r r' : WatchRun} {answer : r.demand.Answer} {now : Moment}
      {outcome : Activity.Outcome} (place : w.watches = before ++ r :: after)
      (went : (r.resume settings now w.registry answer).progress = .waiting r')
      (progress : outcome.progress = .waiting (.watch r')) (watches : w'.watches = before ++ r' :: after) :
      Relay settings w w' (.resumed w.registry (.watch r) answer outcome)
  | ended {before after : List WatchRun} {r : WatchRun} {answer : r.demand.Answer} {now : Moment}
      {outcome : Activity.Outcome} (place : w.watches = before ++ r :: after)
      (went : (r.resume settings now w.registry answer).progress = .finished ())
      (progress : outcome.progress = .finished .none)
      (registry : w'.registry = (r.resume settings now w.registry answer).registry)
      (watches : w'.watches = before ++ after) :
      Relay settings w w' (.resumed w.registry (.watch r) answer outcome)
  | restarted (watches : w'.watches = []) : Relay settings w w' .restarted

theorem Activity.Outcome.watches_pending (o : Activity.Outcome) (now : Moment) :
    (o.pending now).filterMap Pending.watch? = o.next.filterMap Pending.watch? ++ o.sessions.map .start := by
  simp [o.filterMap_pending,Pending.watch?]

/-- What is not the run of a session does not become one. -/
theorem Activity.resume_watches (settings : EngineSettings) (now : Moment) (registry : Registry) (activity : Activity)
    (other : ∀ run, activity ≠ .watch run) (answer : activity.demand.Answer) :
    (activity.resume settings now registry answer).next.filterMap Pending.watch? = [] := by
  refine List.filterMap_eq_nil_iff.mpr fun p member => ?_
  cases activity with
  | watch run => exact (other run rfl).elim
  | arming event =>
    change Except Fault (List Rule) at answer
    cases answer <;> cases member
  | task | delivery | unopened | opening | reconciling | reconciler =>
    obtain ⟨_,_,rfl⟩ := Activity.Outcome.of_mem_next member
    rfl

/-- Only runs of sessions are such. -/
theorem Activity.watch_cases (activity : Activity) :
    (∃ run, activity = .watch run) ∨
      (∀ run, activity ≠ .watch run) ∧ (∀ answer?, Pending.watch? ⟨activity,answer?⟩ = none) ∧
        ∀ registry answer outcome, (Happening.resumed registry activity answer outcome).reader? = none := by
  cases activity with
  | watch run => exact .inl ⟨run,rfl⟩
  | task | delivery | arming | unopened | opening | reconciling | reconciler =>
    exact .inr ⟨fun _ same => (by cases same),fun _ => rfl,fun _ _ _ => rfl⟩

theorem Step.relay {settings : EngineSettings} {w w' : World} {happening : Happening}
    (step : Step settings w happening w') : Relay settings w w' happening := by
  have same {happening : Happening} {watches : List WatchRun} (kept : watches = w.watches)
      (none : happening.sessions = []) : watches.Perm (w.watches ++ happening.sessions.map .start) := by
    rw [kept,none]
    exact .of_eq (List.append_nil _).symm
  cases step with
  | request activity asked =>
    refine .beside (same ?_ rfl) rfl fun same => (by cases same)
    cases activity <;> first | exact asked.elim | rfl
  | @serve before after activity place answer stored? served =>
    refine .beside (same ?_ rfl) rfl fun same => (by cases same)
    have kept : Pending.watch? ⟨activity,some answer⟩ = Pending.watch? ⟨activity,none⟩ := by
      cases activity <;> rfl
    simp [World.watches,place,List.filterMap_cons,kept]
  | @resume before after p answer o now place taken went =>
    subst went
    obtain ⟨activity,answer?⟩ := p
    rcases activity.watch_cases with ⟨r,rfl⟩ | ⟨other,none,others⟩
    · have watches : w.watches = before.filterMap Pending.watch? ++ r :: after.filterMap Pending.watch? := by
        simp [World.watches,place,Pending.watch?]
      cases went : (r.resume settings now w.registry answer).progress with
      | waiting r' =>
        refine .goesOn watches went ?_ ?_
        · simp [Activity.resume,went,Progress.map]
        · simp [World.watches,Activity.Outcome.pending,Activity.Outcome.next,Activity.resume,went,Progress.map,
            Pending.watch?]
      | finished result =>
        refine .ended watches went ?_ rfl ?_
        · simp [Activity.resume,went,Progress.map]
        · simp [World.watches,Activity.Outcome.pending,Activity.Outcome.next,Activity.resume,went,Progress.map,
            Pending.watch?]
    · refine .beside ?_ (others _ _ _) fun same => (by cases same)
      simp only [World.watches,place,List.filterMap_append,List.filterMap_cons,none,
        Activity.Outcome.watches_pending,activity.resume_watches settings now w.registry other answer,List.nil_append]
      rw [List.append_assoc,List.append_assoc]
      exact List.perm_append_comm.append_left _
  | stop type => exact .beside (same rfl rfl) rfl fun same => (by cases same)
  | shutDown => exact .beside (same rfl rfl) rfl fun same => (by cases same)
  | change changed => exact .beside (same rfl rfl) rfl fun same => (by cases same)
  | restart => exact .restarted rfl

/-! ## Every session keeps up with its stream -/

namespace Happening

/-- Only a step of its run takes, passes on or gets back anything for a session. -/
theorem silent_of_reader? {happening : Happening} (others : happening.reader? = none) (s : Session) :
    happening.taken? s = none ∧ happening.passed? s = none ∧ happening.returned? s = none := by
  cases happening with
  | resumed registry activity answer outcome =>
    cases activity with
    | watch run => cases others
    | task | delivery | arming | unopened | opening | reconciling | reconciler => exact ⟨rfl,rfl,rfl⟩
  | requested | served | stopped | shutDown | changed | restarted => exact ⟨rfl,rfl,rfl⟩

theorem silent_of_ne {r : WatchRun} {s : Session} (other : r.session ≠ s) (registry : Registry)
    (answer : r.demand.Answer) (outcome : Activity.Outcome)
    (same : ∀ r', outcome.progress = .waiting (.watch r') → r'.session = r.session) :
    (Happening.resumed registry (.watch r) answer outcome).taken? s = none ∧
      (Happening.resumed registry (.watch r) answer outcome).passed? s = none ∧
      (Happening.resumed registry (.watch r) answer outcome).returned? s = none := by
  refine ⟨if_neg other,?_,if_neg other⟩
  unfold passed?
  split
  · rename_i next heard
    cases heard
    exact if_neg fun own => other ((same _ rfl).symm.trans own)
  · rfl

/-- What a step of its run tells of a session. -/
theorem told_goesOn {r r' : WatchRun} (registry : Registry) (answer : r.demand.Answer) {outcome : Activity.Outcome}
    (progress : outcome.progress = .waiting (.watch r')) (same : r'.session = r.session) :
    (Happening.resumed registry (.watch r) answer outcome).taken? r.session = r.taken? answer ∧
      (Happening.resumed registry (.watch r) answer outcome).passed? r.session = r'.begun? ∧
      (Happening.resumed registry (.watch r) answer outcome).returned? r.session =
        r.returned? (.waiting (.watch r')) := by
  obtain ⟨_,_,_,_⟩ := outcome
  cases progress
  exact ⟨if_pos rfl,if_pos same,if_pos rfl⟩

theorem told_ended {r : WatchRun} (registry : Registry) (answer : r.demand.Answer) {outcome : Activity.Outcome}
    (progress : outcome.progress = .finished .none) :
    (Happening.resumed registry (.watch r) answer outcome).taken? r.session = r.taken? answer ∧
      (Happening.resumed registry (.watch r) answer outcome).passed? r.session = none ∧
      (Happening.resumed registry (.watch r) answer outcome).returned? r.session =
        r.returned? (.finished .none) := by
  obtain ⟨_,_,_,_⟩ := outcome
  cases progress
  exact ⟨if_pos rfl,rfl,if_pos rfl⟩

end Happening

namespace Session.Rests
variable {s : Session} {registry registry' : Registry} {items : List (Except Fault Notification)}
variable {passed returned : List Event}

theorem nothing (s : Session) (registry : Registry) : s.Rests registry [] [] [] := ⟨⟨[],rfl⟩,rfl,fun _ => rfl⟩

theorem later (rests : s.Rests registry items passed returned) (ages : registry.Ages registry')
    (held : registry.tokens.Has s.token) : s.Rests registry' items passed returned := by
  refine ⟨rests.first,rests.returned,fun live => rests.whole ?_⟩
  refine Bool.eq_false_iff.mpr fun cancelled => ?_
  cases live.symm.trans (ages.cancelled _ held cancelled)

end Session.Rests

/-- What holds of a session: nothing before it began, its run keeps up with its stream, and at the end all is passed
on that is to be. -/
structure World.Relays (w : World) (s : Session) (opened : List Session)
    (items : List (Except Fault Notification)) (passed returned : List Event) : Prop where
  unopened : s ∉ opened → items = [] ∧ passed = [] ∧ returned = []
  reads : ∀ r ∈ w.watches, r.session = s → r.Keeps items passed returned
  rests : s ∉ w.streams → s.Rests w.registry items passed returned

theorem World.mem_streams {w : World} {r : WatchRun} (member : r ∈ w.watches) : r.session ∈ w.streams := by
  rw [w.streams_eq]
  exact List.mem_map.mpr ⟨r,member,rfl⟩

/-- No other run is one of the same session. -/
theorem Run.reader_unique {settings : EngineSettings} {history : List Happening} {w : World}
    (run : Run settings history w) {before after : List WatchRun} {r other : WatchRun}
    (place : w.watches = before ++ r :: after) (member : other ∈ before ++ after) : other.session ≠ r.session := by
  have distinct := run.streams_nodup
  rw [w.streams_eq,place] at distinct
  exact ne_of_nodup_middle (f := fun r : WatchRun => r.session) distinct member

/-- A step that is none of a session's own changes nothing about it. -/
theorem World.Relays.quiet {w w' : World} {s : Session} {opened opened' : List Session}
    {items : List (Except Fault Notification)} {passed returned : List Event}
    (relays : w.Relays s opened items passed returned) (more : s ∈ opened → s ∈ opened')
    (ages : w.registry.Ages w'.registry) (held : s ∈ opened → w.registry.tokens.Has s.token)
    (reads : ∀ r ∈ w'.watches, r.session = s → r ∈ w.watches ∨ r = .start s ∧ s ∉ opened)
    (streams : s ∈ w.streams → s ∈ w'.streams) : w'.Relays s opened' items passed returned := by
  refine ⟨fun unopened => relays.unopened fun inside => unopened (more inside),?_,?_⟩
  · intro r member own
    rcases reads r member own with before | ⟨rfl,fresh⟩
    · exact relays.reads r before own
    · obtain ⟨rfl,rfl,rfl⟩ := relays.unopened fresh
      exact WatchRun.keeps_start s
  · intro closed
    by_cases inside : s ∈ opened
    · exact (relays.rests fun read => closed (streams read)).later ages (held inside)
    · obtain ⟨rfl,rfl,rfl⟩ := relays.unopened inside
      exact .nothing s _

section
variable {settings : EngineSettings} {history : List Happening} {w w' : World} {s : Session} {r r' : WatchRun}
variable {items : List (Except Fault Notification)} {passed returned : List Event} {answer : r.demand.Answer}
variable {now : Moment} {outcome : Activity.Outcome} {before after : List WatchRun} {opened : List Session}

/-- The run of a session goes on. Either it is its own, or it is quiet about it. -/
theorem World.Relays.goesOn (relays : w.Relays s (sessionsOpened history) items passed returned)
    (run : Run settings history w) (ages : w.registry.Ages w'.registry) (place : w.watches = before ++ r :: after)
    (went : (r.resume settings now w.registry answer).progress = .waiting r')
    (progress : outcome.progress = .waiting (.watch r')) (watches : w'.watches = before ++ r' :: after) :
    w'.Relays s (opened ++ sessionsOpened history)
      (items ++ ((Happening.resumed w.registry (.watch r) answer outcome).taken? s).toList)
      (passed ++ ((Happening.resumed w.registry (.watch r) answer outcome).passed? s).toList)
      (returned ++ ((Happening.resumed w.registry (.watch r) answer outcome).returned? s).toList) := by
  have same : r'.session = r.session := WatchRun.resume_session went
  have begun := run.opened_of_streams (World.mem_streams (mem_of_place place))
  by_cases own : r.session = s
  · subst own
    obtain ⟨taken,passed,returned⟩ := Happening.told_goesOn w.registry answer progress same
    rw [taken,passed,returned]
    refine ⟨fun apart => (apart (List.mem_append_right _ begun)).elim,?_,?_⟩
    · intro other member own
      rw [watches] at member
      rcases mem_middle.mp member with rfl | beside
      · exact (relays.reads r (mem_of_place place) rfl).goesOn went
      · exact (run.reader_unique place beside own).elim
    · refine fun closed => (closed ?_).elim
      rw [← same]
      exact World.mem_streams (mem_of_place watches)
  · obtain ⟨taken,passed,returned⟩ := Happening.silent_of_ne own w.registry answer outcome
      (by rw [progress]; rintro _ ⟨⟩; exact same)
    simp only [taken,passed,returned,Option.toList_none,List.append_nil]
    refine relays.quiet (List.mem_append_right _) ages (fun inside => run.traced.has_session inside) ?_ ?_
    · intro other member named
      rw [watches] at member
      rcases mem_middle.mp member with rfl | beside
      · exact (own (same.symm.trans named)).elim
      · exact .inl (mem_beside place beside)
    · rw [World.streams_eq,World.streams_eq,place,watches]
      simp [same]

/-- The run of a session ends. Either it is its own, or it is quiet about it. -/
theorem World.Relays.ended (relays : w.Relays s (sessionsOpened history) items passed returned)
    (run : Run settings history w) (ages : w.registry.Ages w'.registry) (place : w.watches = before ++ r :: after)
    (went : (r.resume settings now w.registry answer).progress = .finished ())
    (progress : outcome.progress = .finished .none)
    (registry : w'.registry = (r.resume settings now w.registry answer).registry)
    (watches : w'.watches = before ++ after) :
    w'.Relays s (opened ++ sessionsOpened history)
      (items ++ ((Happening.resumed w.registry (.watch r) answer outcome).taken? s).toList)
      (passed ++ ((Happening.resumed w.registry (.watch r) answer outcome).passed? s).toList)
      (returned ++ ((Happening.resumed w.registry (.watch r) answer outcome).returned? s).toList) := by
  have begun := run.opened_of_streams (World.mem_streams (mem_of_place place))
  by_cases own : r.session = s
  · subst own
    obtain ⟨taken,passed,returned⟩ := Happening.told_ended w.registry answer progress
    rw [taken,passed,returned,Option.toList_none,List.append_nil]
    refine ⟨fun apart => (apart (List.mem_append_right _ begun)).elim,?_,?_⟩
    · intro other member named
      rw [watches] at member
      exact (run.reader_unique place member named).elim
    · intro _
      rw [registry]
      exact (relays.reads r (mem_of_place place) rfl).ended went
  · obtain ⟨taken,passed,returned⟩ := Happening.silent_of_ne own w.registry answer outcome
      (by rw [progress]; rintro _ ⟨⟩)
    simp only [taken,passed,returned,Option.toList_none,List.append_nil]
    refine relays.quiet (List.mem_append_right _) ages (fun inside => run.traced.has_session inside) ?_ ?_
    · intro other member named
      rw [watches] at member
      exact .inl (mem_beside place member)
    · rw [World.streams_eq,World.streams_eq,place,watches]
      simp [Ne.symm own]

theorem Run.relays (run : Run settings history w) (s : Session) :
    w.Relays s (sessionsOpened history) (itemsTaken s history) (eventsPassed s history)
      (eventsReturned s history) := by
  have empty {w : World} (none : w.watches = []) : w.Relays s [] [] [] [] :=
    ⟨fun _ => ⟨rfl,rfl,rfl⟩,fun r member => (by rw [none] at member; cases member),fun _ => .nothing s _⟩
  induction run with
  | start => exact empty rfl
  | @step history w w' happening run step ih =>
    by_cases alive : happening = .restarted
    · subst alive
      cases step
      exact empty rfl
    have ages := (run.ages step alive).1
    rw [sessionsOpened_of_lasting alive,itemsTaken,eventsPassed,eventsReturned,recounted_cons _ alive,
      recounted_cons _ alive,recounted_cons _ alive]
    cases step.relay with
    | goesOn place went progress watches => exact ih.goesOn run ages place went progress watches
    | ended place went progress registry watches => exact ih.ended run ages place went progress registry watches
    | restarted => exact (alive rfl).elim
    | beside watches others _ =>
      obtain ⟨taken,passed,returned⟩ := Happening.silent_of_reader? others s
      simp only [taken,passed,returned,Option.toList_none,List.append_nil]
      refine ih.quiet (List.mem_append_right _) ages (fun inside => run.traced.has_session inside) ?_ ?_
      · intro r member own
        refine (List.mem_append.mp (watches.mem_iff.mp member)).imp_right fun begun => ?_
        obtain ⟨new,inside,rfl⟩ := List.mem_map.mp begun
        obtain rfl : new = s := own
        -- the number of a session that begins is new
        have distinct := (run.numbered.turnover step.turnover alive).nodup
        exact ⟨rfl,fun opened => (List.nodup_append.mp distinct).2.2 new inside new opened rfl⟩
      · rw [World.streams_eq,World.streams_eq]
        intro inside
        obtain ⟨r,member,own⟩ := List.mem_map.mp inside
        exact List.mem_map.mpr ⟨r,watches.mem_iff.mpr (List.mem_append_left _ member),own⟩

end

/-! ## Registrations -/

/-- A run whose stream ended is over, and releases its session. -/
theorem WatchRun.Ends.finished {r : WatchRun} {answer : r.demand.Answer} (ends : r.Ends answer)
    (settings : EngineSettings) (now : Moment) (registry : Registry) :
    r.resume settings now registry answer =
      { registry := (registry.releaseSession r.session.target.type r.session.id).1, progress := .finished () } := by
  obtain ⟨session,tracker,stage⟩ := r
  cases stage with
  | idle =>
    cases ends
    rfl
  | delivering => exact ends.elim

/-- A session whose stream is read is registered, unless its token is cancelled. -/
theorem Run.registered {settings : EngineSettings} {history : List Happening} {w : World}
    (run : Run settings history w) {s : Session} (reads : s ∈ w.streams)
    (live : w.registry.isCancelled s.token = false) : ∃ type, (type,s) ∈ w.registry.sessions := by
  induction run with
  | start => cases reads
  | @step history w w' happening run step ih =>
    by_cases alive : happening = .restarted
    · subst alive
      cases step
      cases reads
    obtain ⟨kept,fewer,now⟩ := step.streams alive
    rcases List.mem_append.mp (now.mem_iff.mp reads) with begun | before
    · obtain ⟨type,_,sessions⟩ := step.turnover.registers begun
      exact ⟨type,by simp [sessions]⟩
    have read := fewer.subset before
    have opened := run.opened_of_streams read
    have lived : w.registry.isCancelled s.token = false := by
      refine Bool.eq_false_iff.mpr fun cancelled => ?_
      cases live.symm.trans ((run.ages step alive).1.cancelled _ (run.traced.has_session opened) cancelled)
    obtain ⟨type,member⟩ := ih read lived
    refine ⟨type,Decidable.byContradiction fun gone => ?_⟩
    -- what unregisters a session cancels its token, or ends its run
    have unregisters := run.unregisters step member gone
    cases happening with
    | requested | served | shutDown | changed => exact unregisters
    | restarted => exact alive rfl
    | stopped stopped session? =>
      obtain ⟨rfl,rfl⟩ := unregisters
      have cancelled := ((run.step step).traced.session s opened).2.mpr (.inr (by simp [sessionsStopped]))
      cases live.symm.trans cancelled
    | resumed registry activity answer outcome =>
      cases activity with
      | task | delivery | arming | unopened | opening | reconciling | reconciler => exact unregisters
      | watch r =>
        obtain ⟨ends,rfl⟩ := unregisters
        cases step.relay with
        | beside watches others _ => cases others
        | goesOn place went progress watches =>
          rw [ends.finished] at went
          cases went
        | ended place went progress registry watches =>
          rw [World.streams_eq,watches] at reads
          obtain ⟨other,inside,own⟩ := List.mem_map.mp reads
          exact run.reader_unique place inside own

/-- The run of a session whose token is cancelled takes nothing, and begins no delivery. -/
theorem Run.reader_silent {settings : EngineSettings} {history : List Happening} {w w' : World}
    (run : Run settings history w) {registry : Registry} {r : WatchRun} {answer : r.demand.Answer}
    {outcome : Activity.Outcome} (step : Step settings w (.resumed registry (.watch r) answer outcome) w')
    (cancelled : w.registry.isCancelled r.session.token = true) :
    r.taken? answer = none ∧ ∀ r', outcome.progress = .waiting (.watch r') → r'.begun? = none := by
  obtain ⟨unheard,unbegun⟩ := run.reader_idle step cancelled
  constructor
  · obtain ⟨session,tracker,stage⟩ := r
    cases stage with
    | delivering => rfl
    | idle =>
      obtain rfl : answer = Item.cancelled := Classical.byContradiction unheard
      rfl
  · intro r' progress
    obtain ⟨session,tracker,stage⟩ := r'
    cases stage with
    | idle => rfl
    | delivering delivery rest =>
      cases delivery with
      | dispatching => rfl
      | listing event => exact (unbegun ⟨_,progress,event,rest,rfl⟩).elim

/-- A session whose token is cancelled takes nothing and passes nothing on. -/
theorem Run.cancelled_silent {settings : EngineSettings} {history : List Happening} {w w' : World}
    (run : Run settings history w) {happening : Happening} (step : Step settings w happening w') {s : Session}
    (cancelled : w.registry.isCancelled s.token = true) : happening.taken? s = none ∧ happening.passed? s = none := by
  cases step.relay with
  | beside watches others _ =>
    obtain ⟨taken,passed,_⟩ := Happening.silent_of_reader? others s
    exact ⟨taken,passed⟩
  | @goesOn before after r r' answer now outcome place went progress watches =>
    have same : r'.session = r.session := WatchRun.resume_session went
    by_cases own : r.session = s
    · subst own
      obtain ⟨taken,passed,_⟩ := Happening.told_goesOn w.registry answer progress same
      obtain ⟨nothing,none⟩ := run.reader_silent step cancelled
      exact ⟨taken.trans nothing,passed.trans (none r' progress)⟩
    · obtain ⟨taken,passed,_⟩ := Happening.silent_of_ne own w.registry answer outcome
        (by rw [progress]; rintro _ ⟨⟩; exact same)
      exact ⟨taken,passed⟩
  | @ended before after r answer now outcome place went progress registry watches =>
    by_cases own : r.session = s
    · subst own
      obtain ⟨taken,passed,_⟩ := Happening.told_ended w.registry answer progress
      exact ⟨taken.trans (run.reader_silent step cancelled).1,passed⟩
    · obtain ⟨taken,passed,_⟩ := Happening.silent_of_ne own w.registry answer outcome
        (by rw [progress]; rintro _ ⟨⟩)
      exact ⟨taken,passed⟩
  | restarted => exact ⟨rfl,rfl⟩

/-- What a step of its run does to the registration of a session: it is released when the stream ended, and only
then. -/
theorem Run.releases {settings : EngineSettings} {history : List Happening} {w w' : World}
    (run : Run settings history w) {registry : Registry} {r : WatchRun} {answer : r.demand.Answer}
    {outcome : Activity.Outcome} (step : Step settings w (.resumed registry (.watch r) answer outcome) w') :
    (¬r.Ends answer → w'.registry.sessions = w.registry.sessions) ∧
      (r.Ends answer → outcome.progress = .finished .none ∧
        ∃ type, (type,r.session) ∈ w.registry.sessions) ∧
      ∀ type, (type,r.session) ∈ w.registry.sessions → r.session.target.type = type →
        ((type,r.session) ∉ w'.registry.sessions ↔ r.Ends answer) := by
  obtain ⟨answer?,now,member,taken,went,same⟩ := step.taken rfl
  have kept : ¬r.Ends answer → w'.registry.sessions = w.registry.sessions := by
    intro lasts
    rw [same,← went]
    rcases r.resume_cases settings now w.registry answer with kept | ⟨ends,_⟩
    · exact kept.sessions
    · exact (lasts ends).elim
  refine ⟨kept,?_,?_⟩
  · intro ends
    refine ⟨?_,run.registered (List.mem_filterMap.mpr ⟨_,member,rfl⟩) ?_⟩
    · rw [← went]
      simp [Activity.resume,ends.finished,Progress.map]
    · -- the end of a stream is not told to a session whose token is cancelled
      refine Bool.eq_false_iff.mpr fun cancelled => ?_
      have unheard := (run.reader_idle step cancelled).1
      obtain ⟨session,tracker,stage⟩ := r
      cases stage with
      | delivering => exact ends
      | idle =>
        cases ends
        exact unheard fun cancelled => (by cases cancelled)
  · intro type registered named
    refine ⟨fun gone => Classical.byContradiction fun lasts => gone (by rw [kept lasts]; exact registered),?_⟩
    intro ends inside
    have found := run.numbered.session?_of_mem registered
    rw [same,← went] at inside
    simp only [Activity.resume,ends.finished,named] at inside
    simp only [Registry.releaseSession,found,Option.map_some,if_true] at inside
    simpa using (List.mem_filter.mp inside).2

/-- In every state, a session has passed on a first part of the events that the notifications it took amount to, in
their order. What it passed on and what its run has left are all of them, and all deliveries have returned but the one
under way. A session whose run is over has passed on all of them, unless its token was cancelled. At every step, a
session whose token is cancelled takes nothing and passes nothing on; a session is released by its run exactly when its
stream has ended, given that the type it was opened for is that of its target. -/
theorem Run.delivers_in_order {settings : EngineSettings} {history : List Happening} {w : World}
    (run : Run settings history w) (s : Session) :
    eventsPassed s history <+: (followed s.target.type (itemsTaken s history)).2 ∧
      (∀ r ∈ w.watches, r.session = s →
        eventsPassed s history ++ r.left = (followed s.target.type (itemsTaken s history)).2 ∧
        eventsPassed s history = eventsReturned s history ++ r.current?.toList) ∧
      (s ∉ w.streams → eventsReturned s history = eventsPassed s history ∧
        (w.registry.isCancelled s.token = false →
          eventsPassed s history = (followed s.target.type (itemsTaken s history)).2)) ∧
      ∀ happening w', Step settings w happening w' →
        (w.registry.isCancelled s.token = true → happening.taken? s = none ∧ happening.passed? s = none) ∧
        ∀ registry r answer outcome, happening = .resumed registry (.watch r) answer outcome → r.session = s →
          (¬r.Ends answer → w'.registry.sessions = w.registry.sessions) ∧
          (r.Ends answer → outcome.progress = .finished .none ∧ ∃ type, (type,s) ∈ w.registry.sessions) ∧
          ∀ type, (type,s) ∈ w.registry.sessions → s.target.type = type →
            ((type,s) ∉ w'.registry.sessions ↔ r.Ends answer) := by
  have relays := run.relays s
  refine ⟨?_,?_,?_,?_⟩
  · by_cases reads : s ∈ w.streams
    · rw [World.streams_eq] at reads
      obtain ⟨r,member,rfl⟩ := List.mem_map.mp reads
      exact (relays.reads r member rfl).first
    · exact (relays.rests reads).first
  · rintro r member rfl
    have keeps := relays.reads r member rfl
    exact ⟨keeps.left,keeps.current⟩
  · intro closed
    have rests := relays.rests closed
    exact ⟨rests.returned,rests.whole⟩
  · intro happening w' step
    refine ⟨run.cancelled_silent step,?_⟩
    rintro registry r answer outcome rfl rfl
    exact run.releases step

namespace Sample

/-- Two config maps. -/
def pair : List Json := [configMap "a" "u1" "1",configMap "b" "u2" "1"]

theorem pair_pushed : ∃ seen a b, (Tracker.new type).push (.restarted pair) = (⟨type,seen⟩,[a,b]) ∧
    (a.kind,a.object.identity) = (.create,"u1") ∧ (b.kind,b.object.identity) = (.create,"u2") :=
  ⟨_,_,_,rfl,rfl,rfl⟩

/-- A session is told of a fault, and then of a list of two config maps. The rules cannot be listed for the first one,
and the second one is passed on all the same. Then the stream ends. -/
theorem delivers_in_order_of_pair : ∃ history w, Run {} history w ∧ w.streams = [] ∧
    (itemsTaken (nextSession {}) history).length = 2 ∧
    (eventsPassed (nextSession {}) history).map (fun e => (e.kind,e.object.identity)) =
      [(.create,"u1"),(.create,"u2")] ∧
    eventsReturned (nextSession {}) history = eventsPassed (nextSession {}) history ∧
    eventsPassed (nextSession {}) history = (followed type (itemsTaken (nextSession {}) history)).2 := by
  obtain ⟨seen,a,b,pushed,first,second⟩ := pair_pushed
  have run := (Run.start : Run {} [] {}).step (.request (.opening ⟨type⟩) trivial)
  replace run := (run.told (Except.ok target) rfl).goes moment
    (o := ⟨Registry.opened {} type target,[],[nextSession {}],.finished (.outcome (.ok ()))⟩) rfl
  have live : (Registry.opened {} type target).isCancelled (nextSession {}).token = false := rfl
  generalize Registry.opened {} type target = opened at run live
  replace run := run.decides moment (Item.next (.error (.store "gone"))) live
    (o := ⟨opened,[],[],.waiting (.watch ⟨nextSession {},.new type,.idle⟩)⟩) rfl
  replace run := run.decides moment (Item.next (.ok (.restarted pair))) live
    (o := ⟨opened,[],[],.waiting (.watch ⟨nextSession {},⟨type,seen⟩,.delivering (.listing a) [b]⟩)⟩) (by
      change Activity.Outcome.mk _ _ _ _ = _
      simp [WatchRun.resume,WatchRun.afterItem,pushed,WatchRun.deliver,live,Progress.map])
  replace run := run.told (Except.error (Fault.store "gone")) ⟨rfl,trivial⟩
  replace run := run.goes moment
    (o := ⟨opened,[],[],.waiting (.watch ⟨nextSession {},⟨type,seen⟩,.delivering (.listing b) []⟩)⟩) (by
      change Activity.Outcome.mk _ _ _ _ = _
      simp [WatchRun.resume,Delivery.resume,Delivery.afterListing,WatchRun.withDelivery,WatchRun.deliver,live,
        Progress.map])
  replace run := run.told (Except.error (Fault.store "gone")) ⟨rfl,trivial⟩
  replace run := run.goes moment (o := ⟨opened,[],[],.waiting (.watch ⟨nextSession {},⟨type,seen⟩,.idle⟩)⟩) rfl
  replace run := run.decides moment Item.ended live
    (o := ⟨(opened.releaseSession type 1).1,[],[],.finished .none⟩) rfl
  obtain ⟨_,_,closed,_⟩ := run.delivers_in_order (nextSession {})
  obtain ⟨returned,whole⟩ := closed (List.not_mem_nil (a := nextSession {}))
  refine ⟨_,_,run,rfl,?_,?_,returned,whole ?_⟩
  · simp [itemsTaken,recounted,Happening.taken?,WatchRun.taken?,Item.content?,WatchRun.start]
  · simp [eventsPassed,recounted,Happening.passed?,WatchRun.begun?,first,second]
  · change (opened.releaseSession type 1).1.isCancelled _ = false
    unfold Registry.releaseSession
    split <;> exact live

end Sample
end Callout
