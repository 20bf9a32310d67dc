import Callout.Proofs.Effect
import Callout.Proofs.World

/-!
The dispatches of an engine, apart from all else that it does. A desk holds the claims, the dispatches under way and
the stored rules; its steps are those of single dispatches, in any order. Every run of the engine is a run of its
desk (`Run.desk_and_listed`): deliveries and sessions only decide which dispatch starts next.
-/
namespace Callout

/-- A dispatch under way, and the answer that is on its way to it. -/
structure ActiveDispatch where
  dispatch : Dispatch
  answer? : Option dispatch.demand.Answer := none

/-- A delivery under way, and the answer that is on its way to it. -/
structure ActiveDelivery where
  delivery : Delivery
  answer? : Option delivery.demand.Answer := none

/-- The rules that a listing told. -/
def listed : Option (Except Fault (List Rule)) → List Rule
  | some (.ok rules) => rules
  | some (.error _) | none => []

namespace ActiveDelivery

/-- The dispatch that a delivery waits for. -/
def dispatch? : ActiveDelivery → Option ActiveDispatch
  | ⟨.listing _, _⟩ => none
  | ⟨.dispatching dispatch _ _, answer?⟩ => some ⟨dispatch, answer?⟩

/-- The rules that a delivery has yet to look at, or is being told. -/
def rules : ActiveDelivery → List Rule
  | ⟨.listing _, answer?⟩ => listed answer?
  | ⟨.dispatching _ rest _, _⟩ => rest

end ActiveDelivery

namespace Pending

/-- The delivery that an activity waits for. -/
def delivery? : Pending → Option ActiveDelivery
  | ⟨.delivery delivery, answer?⟩ => some ⟨delivery, answer?⟩
  | ⟨.watch ⟨_, _, .delivering delivery _⟩, answer?⟩ => some ⟨delivery, answer?⟩
  | ⟨.watch ⟨_, _, .idle⟩, _⟩ | ⟨.task _, _⟩ | ⟨.arming _, _⟩ | ⟨.unopened _, _⟩ | ⟨.opening _, _⟩
  | ⟨.reconciling _, _⟩ | ⟨.reconciler _, _⟩ => none

/-- The dispatch that an activity waits for. -/
def dispatch? (p : Pending) : Option ActiveDispatch := p.delivery?.bind ActiveDelivery.dispatch?

/-- The rules that an activity has yet to look at, or is being told. -/
def rules (p : Pending) : List Rule := (p.delivery?.map ActiveDelivery.rules).getD []

end Pending

/-- The delivery that an activity waits for after a step. -/
def Activity.Outcome.delivery? (o : Activity.Outcome) : Option ActiveDelivery :=
  match o.progress with
  | .waiting activity => Pending.delivery? ⟨activity, none⟩
  | .finished _ => none

/-! ## What dispatches do -/

/-- What a dispatch did that lasts. -/
inductive Deed where
  /-- The actions of its rule began to run. -/
  | began (dispatch : Dispatch)
  /-- Its record was stored: the archive before, and the rule as it was stored. -/
  | stored (dispatch : Dispatch) (archive : Archive) (rule : Rule)
  /-- All dispatches were lost. -/
  | restarted

/-- What is done between two moments: the actions of a dispatch begin if they have afterwards and had not before. -/
def deedsBetween (before? after? : Option ActiveDispatch) : List Deed :=
  match after? with
  | some after =>
    if after.dispatch.HasBegun ∧ ¬before?.any (·.dispatch.HasBegun) then [.began after.dispatch] else []
  | none => []

theorem deedsBetween_of_begun {d : Dispatch} {answer? : Option d.demand.Answer} (begun : d.HasBegun)
    (after? : Option ActiveDispatch) : deedsBetween (some ⟨d,answer?⟩) after? = [] := by
  cases after? <;> simp [deedsBetween,begun]

theorem deedsBetween_of_unbegun {d d' : Dispatch} {answer? : Option d.demand.Answer}
    {answer'? : Option d'.demand.Answer} (unbegun : ¬d.HasBegun) (begun : d'.HasBegun) :
    deedsBetween (some ⟨d,answer?⟩) (some ⟨d',answer'?⟩) = [.began d'] := by
  simp [deedsBetween,unbegun,begun]

/-- What dispatches did at a step. -/
def Happening.deeds : Happening → List Deed
  | .served archive activity _ stored? =>
    (Pending.dispatch? ⟨activity, none⟩).toList.flatMap fun p => stored?.toList.map (.stored p.dispatch archive)
  | .resumed _ activity answer outcome =>
    deedsBetween (Pending.dispatch? ⟨activity, some answer⟩) (outcome.delivery?.bind ActiveDelivery.dispatch?)
  | .restarted => [.restarted]
  | .requested _ | .stopped _ _ | .shutDown | .changed => []

/-- What dispatches did in a run, latest first. -/
def deeds (history : List Happening) : List Deed := history.flatMap Happening.deeds

/-! ## Desks -/

/-- The dispatches under way, with the claims and the stored rules. -/
structure Desk where
  claims : List ClaimKey := []
  active : List ActiveDispatch := []
  archive : Archive := {}

namespace Desk

/-- One step of a desk: of one dispatch, or of those who change the stored rules. -/
inductive Step (settings : EngineSettings) (k : Desk) : List Deed → Desk → Prop where
  | serve {before after : List ActiveDispatch} {d : Dispatch} {answer : d.demand.Answer} {stored? : Option Rule}
      (place : k.active = before ++ ⟨d, none⟩ :: after) (served : k.archive.Serves stored? d.demand answer) :
      Step settings k (stored?.toList.map (.stored d k.archive))
        ⟨k.claims, before ++ ⟨d, some answer⟩ :: after, k.archive.putIfSome stored?⟩
  | goOn {before after : List ActiveDispatch} {d d' : Dispatch} {answer : d.demand.Answer} {now : Moment}
      {registry registry' : Registry} (place : k.active = before ++ ⟨d, some answer⟩ :: after)
      (claims : registry.claims = k.claims)
      (went : d.resume settings now registry answer = (registry', .waiting d')) :
      Step settings k (deedsBetween (some ⟨d, some answer⟩) (some ⟨d', none⟩))
        ⟨registry'.claims, before ++ ⟨d', none⟩ :: after, k.archive⟩
  | finish {before after : List ActiveDispatch} {d : Dispatch} {answer : d.demand.Answer} {now : Moment}
      {registry registry' : Registry} {result : Except Fault Unit}
      (place : k.active = before ++ ⟨d, some answer⟩ :: after) (claims : registry.claims = k.claims)
      (went : d.resume settings now registry answer = (registry', .finished result)) :
      Step settings k [] ⟨registry'.claims, before ++ after, k.archive⟩
  | start {before after : List ActiveDispatch} {rule : Rule} {event : Event} {d : Dispatch}
      {registry registry' : Registry} (place : k.active = before ++ after) (claims : registry.claims = k.claims)
      (known : rule ∈ k.archive.versions)
      (started : Dispatch.start registry rule event = (registry', .waiting d)) :
      Step settings k [] ⟨registry'.claims, before ++ ⟨d, none⟩ :: after, k.archive⟩
  | change {archive : Archive} (changed : k.archive.Change archive) :
      Step settings k [] ⟨k.claims, k.active, archive⟩
  | restart : Step settings k [.restarted] { archive := k.archive }

/-- A run of a desk, with what dispatches did in it, latest first. -/
inductive Run (settings : EngineSettings) : List Deed → Desk → Prop where
  | start : Run settings [] {}
  | step {deeds new : List Deed} {k k' : Desk} :
      Run settings deeds k → Step settings k new k' → Run settings (new ++ deeds) k'

end Desk

/-- The desk of an engine. -/
def World.desk (w : World) : Desk := ⟨w.registry.claims, w.pending.filterMap Pending.dispatch?, w.archive⟩

/-! ## Every run is one of its desk -/

/-- What a step of an activity is to its dispatch: the dispatch goes on or ends, and when none is left one may start
for one of some rules. -/
inductive Turn (settings : EngineSettings) (now : Moment) (rules : List Rule) :
    Registry → Option ActiveDispatch → Registry → Option ActiveDispatch → Prop where
  | idle {registry registry' : Registry} (claims : registry'.claims = registry.claims) :
      Turn settings now rules registry none registry' none
  | start {registry between registry' : Registry} {rule : Rule} {event : Event} {d : Dispatch}
      (claims : between.claims = registry.claims) (known : rule ∈ rules)
      (started : Dispatch.start between rule event = (registry', .waiting d)) :
      Turn settings now rules registry none registry' (some ⟨d, none⟩)
  | goOn {registry registry' : Registry} {d d' : Dispatch} {answer : d.demand.Answer}
      (went : d.resume settings now registry answer = (registry', .waiting d')) :
      Turn settings now rules registry (some ⟨d, some answer⟩) registry' (some ⟨d', none⟩)
  | finish {registry between registry' : Registry} {d : Dispatch} {answer : d.demand.Answer}
      {result : Except Fault Unit} {next? : Option ActiveDispatch}
      (went : d.resume settings now registry answer = (between, .finished result))
      (next : Turn settings now rules between none registry' next?) :
      Turn settings now rules registry (some ⟨d, some answer⟩) registry' next?

/-- The delivery after a step, unless it ended. -/
def Delivery.Outcome.delivery? (o : Delivery.Outcome) : Option ActiveDelivery :=
  match o.progress with
  | .waiting delivery => some ⟨delivery, none⟩
  | .finished _ => none

/-- What a step of a delivery or of an activity is to its dispatch, and that it learns of no other rules. -/
structure Turns (settings : EngineSettings) (now : Moment) (rules : List Rule) (registry : Registry)
    (dispatch? : Option ActiveDispatch) (registry' : Registry) (next? : Option ActiveDelivery) : Prop where
  turn : Turn settings now rules registry dispatch? registry' (next?.bind ActiveDelivery.dispatch?)
  rules : ∀ next ∈ next?, ∀ rule ∈ next.rules, rule ∈ rules

theorem Delivery.proceed_turns (settings : EngineSettings) (now : Moment) (known : List Rule)
    {before registry : Registry} (claims : registry.claims = before.claims) (event : Event) (rules : List Rule)
    (all : ∀ rule ∈ rules, rule ∈ known) (first? : Option Fault) :
    Turns settings now known before none (Delivery.proceed registry event first? rules).registry
      (Delivery.proceed registry event first? rules).delivery? := by
  induction rules generalizing first? with
  | nil => exact ⟨.idle claims,fun next member => by simp [proceed,Outcome.delivery?] at member⟩
  | cons rule rest ih =>
    have later : ∀ rule ∈ rest, rule ∈ known := fun other member => all other (List.mem_cons_of_mem _ member)
    rw [proceed]
    split
    · exact ih later first?
    · split
      · rename_i registry' d started
        refine ⟨.start claims (all rule List.mem_cons_self) started,?_⟩
        rintro next ⟨⟩ other member
        exact later other member
      · rename_i registry' outcome started
        rw [Dispatch.start_finished started]
        exact ih later _

theorem Delivery.resume_turns (settings : EngineSettings) (now : Moment) (registry : Registry) (d : Delivery)
    (answer : d.demand.Answer) :
    Turns settings now (ActiveDelivery.rules ⟨d,some answer⟩) registry (ActiveDelivery.dispatch? ⟨d,some answer⟩)
      (d.resume settings now registry answer).registry (d.resume settings now registry answer).delivery? := by
  cases d with
  | listing event =>
    change Except Fault (List Rule) at answer
    change Turns settings now (listed (some answer)) registry none (afterListing registry event answer).registry
      (afterListing registry event answer).delivery?
    cases answer with
    | error fault => exact ⟨.idle rfl,fun next member => by simp [afterListing,Outcome.delivery?] at member⟩
    | ok rules =>
      obtain ⟨tasks,tokens,same⟩ := registry.arm_frame event rules
      exact proceed_turns settings now rules (by rw [same]) event rules (fun _ member => member) none
  | dispatching dispatch rest first? =>
    change Turns settings now rest registry (some ⟨dispatch,some answer⟩)
      (withDispatch dispatch.event rest first? (dispatch.resume settings now registry answer)).registry
      (withDispatch dispatch.event rest first? (dispatch.resume settings now registry answer)).delivery?
    cases step : dispatch.resume settings now registry answer with
    | mk between progress =>
      cases progress with
      | waiting dispatch' =>
        refine ⟨.goOn step,?_⟩
        rintro next ⟨⟩ rule member
        exact member
      | finished result =>
        have next := proceed_turns settings now rest (Eq.refl between.claims) dispatch.event rest
          (fun _ member => member) (joined first? result)
        exact ⟨.finish step next.turn,next.rules⟩

/-- The delivery that a session waits for after a step. -/
def WatchRun.Outcome.delivery? (o : WatchRun.Outcome) : Option ActiveDelivery :=
  match o.progress with
  | .waiting w => Pending.delivery? ⟨.watch w, none⟩
  | .finished _ => none

theorem WatchRun.deliver_idle (w : WatchRun) (registry : Registry) (events : List Event) :
    (deliver w registry events).registry = registry ∧
      ((deliver w registry events).delivery?.bind ActiveDelivery.dispatch?) = none ∧
      ∀ next ∈ (deliver w registry events).delivery?, next.rules = [] := by
  cases events with
  | nil => exact ⟨rfl,rfl,fun next member => by simp [deliver,Outcome.delivery?,Pending.delivery?] at member⟩
  | cons event rest =>
    rw [deliver]
    split
    · exact ⟨rfl,rfl,fun next member => by simp [Outcome.delivery?] at member⟩
    · refine ⟨rfl,rfl,?_⟩
      rintro next ⟨⟩
      rfl

theorem WatchRun.deliver_turns (settings : EngineSettings) (now : Moment) (known : List Rule)
    {dispatch? : Option ActiveDispatch} {before registry : Registry} (w : WatchRun) (events : List Event)
    (turn : Turn settings now known before dispatch? registry none) :
    Turns settings now known before dispatch? (deliver w registry events).registry
      (deliver w registry events).delivery? := by
  obtain ⟨same,none,empty⟩ := deliver_idle w registry events
  refine ⟨?_,?_⟩
  · rw [same,none]
    exact turn
  · intro next member rule inside
    simp [empty next member] at inside

theorem WatchRun.resume_turns (settings : EngineSettings) (now : Moment) (registry : Registry) (w : WatchRun)
    (answer : w.demand.Answer) :
    Turns settings now (Pending.rules ⟨.watch w,some answer⟩) registry (Pending.dispatch? ⟨.watch w,some answer⟩)
      (w.resume settings now registry answer).registry (w.resume settings now registry answer).delivery? := by
  obtain ⟨session,tracker,stage⟩ := w
  cases stage with
  | idle =>
    change Item at answer
    change Turns settings now [] registry none (afterItem _ registry answer).registry
      (afterItem _ registry answer).delivery?
    cases answer with
    | cancelled => exact ⟨.idle rfl,fun next member => by simp [afterItem,Outcome.delivery?] at member⟩
    | ended =>
      refine ⟨.idle ?_,fun next member => by simp [afterItem,Outcome.delivery?] at member⟩
      simp only [afterItem,Registry.releaseSession]
      split <;> rfl
    | next item =>
      cases item with
      | error fault =>
        exact ⟨.idle rfl,fun next member => by simp [afterItem,Outcome.delivery?,Pending.delivery?] at member⟩
      | ok notification => exact deliver_turns settings now [] _ _ (.idle rfl)
  | delivering delivery rest =>
    change Turns settings now (ActiveDelivery.rules ⟨delivery,some answer⟩) registry
      (ActiveDelivery.dispatch? ⟨delivery,some answer⟩)
      (withDelivery _ rest (delivery.resume settings now registry answer)).registry
      (withDelivery _ rest (delivery.resume settings now registry answer)).delivery?
    have turns := delivery.resume_turns settings now registry answer
    cases went : (delivery.resume settings now registry answer).progress with
    | waiting later =>
      simp only [Delivery.Outcome.delivery?,went] at turns
      simp only [withDelivery,went]
      exact turns
    | finished result =>
      simp only [Delivery.Outcome.delivery?,went] at turns
      simp only [withDelivery,went]
      exact deliver_turns settings now _ ⟨session,tracker,_⟩ rest turns.turn

theorem Activity.resume_turns (settings : EngineSettings) (now : Moment) (registry : Registry) (activity : Activity)
    (answer : activity.demand.Answer) :
    Turns settings now (Pending.rules ⟨activity,some answer⟩) registry (Pending.dispatch? ⟨activity,some answer⟩)
      (activity.resume settings now registry answer).registry
      (activity.resume settings now registry answer).delivery? := by
  have alone : ∀ {registry' : Registry} {next? : Option ActiveDelivery}, registry'.claims = registry.claims →
      next? = none → Turns settings now [] registry none registry' next? := by
    rintro registry' _ claims rfl
    exact ⟨.idle claims,fun next member => by simp at member⟩
  cases activity with
  | watch run =>
    have turns := run.resume_turns settings now registry answer
    have same : (Activity.resume settings now registry (.watch run) answer).delivery? =
        (run.resume settings now registry answer).delivery? := by
      simp only [Activity.resume,Outcome.delivery?,WatchRun.Outcome.delivery?]
      cases (run.resume settings now registry answer).progress <;> rfl
    rw [same]
    exact turns
  | delivery delivery =>
    have turns := delivery.resume_turns settings now registry answer
    have same : (Activity.resume settings now registry (.delivery delivery) answer).delivery? =
        (delivery.resume settings now registry answer).delivery? := by
      simp only [Activity.resume,Outcome.delivery?,Delivery.Outcome.delivery?]
      cases (delivery.resume settings now registry answer).progress <;> rfl
    rw [same]
    exact turns
  | task run =>
    refine alone ?_ ?_
    · rcases run.resume_cases now registry answer with ended | ⟨run',_,went⟩
      · simp only [Activity.resume,ended]
        rfl
      · simp only [Activity.resume,went]
    · simp only [Activity.resume,Outcome.delivery?]
      cases (run.resume now registry answer).2 <;> rfl
  | arming event =>
    change Except Fault (List Rule) at answer
    cases answer with
    | error fault => exact alone rfl rfl
    | ok rules =>
      obtain ⟨tasks,tokens,same⟩ := registry.arm_frame event rules
      refine alone ?_ rfl
      change (registry.arm event rules).registry.claims = registry.claims
      rw [same]
  | unopened type =>
    refine alone rfl ?_
    simp only [Activity.resume,Activity.ofOpening,Opening.start,Outcome.delivery?]
    cases registry.isWatching type <;> rfl
  | opening opening =>
    refine alone (opening.resume_opens registry answer).claims ?_
    simp only [Activity.resume,Activity.ofOpening,Outcome.delivery?]
    cases (opening.resume registry answer).progress <;> rfl
  | reconciling reconciling =>
    refine alone (reconciling.resume_opens registry answer).claims ?_
    simp only [Activity.resume,Outcome.delivery?]
    cases (reconciling.resume registry answer).progress <;> rfl
  | reconciler reconciler =>
    refine alone (reconciler.resume_opens now registry answer).claims ?_
    simp only [Activity.resume,Outcome.delivery?]
    cases (reconciler.resume now registry answer).progress <;> rfl

/-- What starts has not begun. -/
theorem Turn.deeds_of_none {settings : EngineSettings} {now : Moment} {rules : List Rule}
    {registry registry' : Registry} {next? : Option ActiveDispatch}
    (turn : Turn settings now rules registry none registry' next?) (before? : Option ActiveDispatch) :
    deedsBetween before? next? = [] := by
  cases turn with
  | idle => rfl
  | start _ _ started =>
    obtain ⟨rfl,_⟩ := Dispatch.start_waiting started
    simp [deedsBetween,Dispatch.HasBegun]

/-- A turn of an activity is at most two steps of the desk. -/
theorem Desk.Run.turn {settings : EngineSettings} {now : Moment} {rules : List Rule} {registry registry' : Registry}
    {dispatch? next? : Option ActiveDispatch} (turn : Turn settings now rules registry dispatch? registry' next?)
    {done : List Deed} {before after : List ActiveDispatch} {archive : Archive}
    (known : ∀ rule ∈ rules, rule ∈ archive.versions)
    (run : Desk.Run settings done ⟨registry.claims,before ++ dispatch?.toList ++ after,archive⟩) :
    Desk.Run settings (deedsBetween dispatch? next? ++ done)
      ⟨registry'.claims,before ++ next?.toList ++ after,archive⟩ := by
  simp only [List.append_assoc] at run
  induction turn generalizing done with
  | idle claims => simpa [claims,deedsBetween] using run
  | start claims member started =>
    have turn : Turn settings now rules _ none _ _ := .start claims member started
    rw [turn.deeds_of_none none]
    simpa using run.step (.start rfl claims (known _ member) started)
  | goOn went => simpa using run.step (.goOn rfl rfl went)
  | @finish _ _ _ d answer _ _ went next ih =>
    have ended : Desk.Run settings done _ := run.step (.finish rfl rfl went)
    rw [next.deeds_of_none (some ⟨d,some answer⟩),← next.deeds_of_none none]
    exact ih ended

/-- What is served to an activity is served to its dispatch, or stores nothing. -/
theorem Pending.serve_cases {archive : Archive} {stored? : Option Rule} {activity : Activity}
    {answer : activity.demand.Answer} (served : archive.Serves stored? activity.demand answer) :
    (∃ (d : Dispatch) (given : d.demand.Answer), Pending.dispatch? ⟨activity,none⟩ = some ⟨d,none⟩ ∧
        Pending.dispatch? ⟨activity,some answer⟩ = some ⟨d,some given⟩ ∧ archive.Serves stored? d.demand given) ∨
      (Pending.dispatch? ⟨activity,none⟩ = none ∧ Pending.dispatch? ⟨activity,some answer⟩ = none ∧
        stored? = none) := by
  cases activity with
  | delivery delivery =>
    cases delivery with
    | listing event => exact .inr ⟨rfl,rfl,served.1⟩
    | dispatching dispatch rest first? => exact .inl ⟨dispatch,answer,rfl,rfl,served⟩
  | watch run =>
    obtain ⟨session,tracker,stage⟩ := run
    cases stage with
    | idle => exact served.elim
    | delivering delivery events =>
      cases delivery with
      | listing event => exact .inr ⟨rfl,rfl,served.1⟩
      | dispatching dispatch rest first? => exact .inl ⟨dispatch,answer,rfl,rfl,served⟩
  | task run =>
    obtain ⟨task,ticker,stage⟩ := run
    cases stage with
    | waiting => exact served.elim
    | looking => exact .inr ⟨rfl,rfl,served.1⟩
    | reading space name next => exact .inr ⟨rfl,rfl,served⟩
    | running call => exact .inr ⟨rfl,rfl,served⟩
    | lost => exact Empty.elim answer
  | arming event => exact .inr ⟨rfl,rfl,served.1⟩
  | unopened type => exact .inr ⟨rfl,rfl,served⟩
  | opening opening => exact .inr ⟨rfl,rfl,served⟩
  | reconciling reconciling => exact .inr ⟨rfl,rfl,served⟩
  | reconciler reconciler =>
    obtain ⟨ticker,stage⟩ := reconciler
    cases stage with
    | idle parked => exact served.elim
    | busy reconciling => exact .inr ⟨rfl,rfl,served⟩

/-- No delivery waits for a decision of the moment. -/
theorem Registry.delivery?_of_decides {r : Registry} {activity : Activity} {answer : activity.demand.Answer}
    (decided : r.Decides activity.demand answer) (answer? : Option activity.demand.Answer) :
    Pending.delivery? ⟨activity,answer?⟩ = none := by
  have undecided : ∀ (delivery : Delivery) (answer : delivery.demand.Answer), ¬r.Decides delivery.demand answer := by
    intro delivery answer
    cases delivery with
    | listing event => exact fun no => no
    | dispatching dispatch rest first? =>
      obtain ⟨rule,event,stage⟩ := dispatch
      cases stage with
      | confirming => exact fun no => no
      | reading action actions space name next => exact fun no => no
      | running call actions => exact fun no => no
      | recording recording =>
        obtain ⟨id,execution,outcome,attempt,stage⟩ := recording
        cases stage <;> exact fun no => no
  cases activity with
  | delivery delivery => exact (undecided delivery answer decided).elim
  | watch run =>
    obtain ⟨session,tracker,stage⟩ := run
    cases stage with
    | idle => rfl
    | delivering delivery events => exact (undecided delivery answer decided).elim
  | task run => rfl
  | arming event => rfl
  | unopened type => rfl
  | opening opening => rfl
  | reconciling reconciling => rfl
  | reconciler reconciler => rfl

/-- The rules that a listing tells were stored once. -/
theorem Pending.rules_of_serves {archive : Archive} {stored? : Option Rule} {activity : Activity}
    {answer : activity.demand.Answer} (served : archive.Serves stored? activity.demand answer) :
    ∀ rule ∈ Pending.rules ⟨activity,some answer⟩,
      rule ∈ Pending.rules ⟨activity,none⟩ ∨ rule ∈ archive.versions := by
  have telling : ∀ (event : Event) (answer : (Delivery.listing event).demand.Answer),
      archive.Serves stored? (Delivery.listing event).demand answer →
      ∀ rule ∈ ActiveDelivery.rules ⟨.listing event,some answer⟩, rule ∈ archive.versions := by
    intro event answer served rule member
    change Except Fault (List Rule) at answer
    cases answer with
    | error fault => cases member
    | ok rules => exact served.2 rule member
  intro rule member
  cases activity with
  | delivery delivery =>
    cases delivery with
    | listing event => exact .inr (telling event answer served rule member)
    | dispatching dispatch rest first? => exact .inl member
  | watch run =>
    obtain ⟨session,tracker,stage⟩ := run
    cases stage with
    | idle => cases member
    | delivering delivery events =>
      cases delivery with
      | listing event => exact .inr (telling event answer served rule member)
      | dispatching dispatch rest first? => exact .inl member
  | task run => cases member
  | arming event => cases member
  | unopened type => cases member
  | opening opening => cases member
  | reconciling reconciling => cases member
  | reconciler reconciler => cases member

/-- Each rule that an activity has yet to look at was stored once. -/
def World.Listed (w : World) : Prop := ∀ p ∈ w.pending, ∀ rule ∈ p.rules, rule ∈ w.archive.versions

/-- An activity that is asked for or begun knows of no rules, and waits for no dispatch. -/
theorem Activity.fresh_of_isRequest {activity : Activity} (asked : activity.IsRequest) :
    Pending.dispatch? ⟨activity,none⟩ = none ∧ Pending.rules ⟨activity,none⟩ = [] := by
  cases activity with
  | delivery delivery =>
    cases delivery with
    | listing event => exact ⟨rfl,rfl⟩
    | dispatching dispatch rest first? => exact asked.elim
  | watch run => exact asked.elim
  | task run => exact asked.elim
  | arming event => exact ⟨rfl,rfl⟩
  | unopened type => exact ⟨rfl,rfl⟩
  | opening opening => exact ⟨rfl,rfl⟩
  | reconciling reconciling => exact ⟨rfl,rfl⟩
  | reconciler reconciler => exact ⟨rfl,rfl⟩

theorem Activity.Outcome.delivery?_of_mem_pending {o : Activity.Outcome} {now : Moment} {p : Pending}
    (member : p ∈ o.pending now) {delivery : ActiveDelivery} (waits : p.delivery? = some delivery) :
    o.delivery? = some delivery := by
  simp only [Outcome.pending,List.mem_append,List.mem_map] at member
  rcases member with (member | ⟨task,_,rfl⟩) | ⟨session,_,rfl⟩
  · simp only [Outcome.next,Outcome.delivery?] at member ⊢
    cases went : o.progress with
    | finished result => simp [went] at member
    | waiting activity =>
      simp only [went,List.mem_singleton] at member
      rw [member] at waits
      exact waits
  · cases waits
  · cases waits

theorem Activity.Outcome.dispatches_pending (o : Activity.Outcome) (now : Moment) :
    (o.pending now).filterMap Pending.dispatch? = (o.delivery?.bind ActiveDelivery.dispatch?).toList := by
  have tasks (task : IntervalTask) : Pending.dispatch? ⟨.task (.start task now),none⟩ = none := rfl
  have sessions (session : Session) : Pending.dispatch? ⟨.watch (.start session),none⟩ = none := rfl
  have begun : (o.pending now).filterMap Pending.dispatch? = o.next.filterMap Pending.dispatch? := by
    simp [o.filterMap_pending,tasks,sessions]
  rw [begun]
  simp only [Outcome.next,Outcome.delivery?]
  cases o.progress with
  | finished result => rfl
  | waiting activity =>
    change [(⟨activity,none⟩ : Pending)].filterMap Pending.dispatch? = (Pending.dispatch? ⟨activity,none⟩).toList
    simp only [List.filterMap_cons,List.filterMap_nil]
    cases Pending.dispatch? ⟨activity,none⟩ <;> rfl

theorem Pending.Takes.rules {p : Pending} {r : Registry} {answer : p.activity.demand.Answer}
    (taken : p.Takes r answer) :
    Pending.dispatch? ⟨p.activity,some answer⟩ = p.dispatch? ∧
      ∀ rule ∈ Pending.rules ⟨p.activity,some answer⟩, rule ∈ p.rules := by
  obtain ⟨activity,answer?⟩ := p
  change activity.demand.Answer at answer
  rcases taken with held | ⟨_,decided⟩
  · change answer? = some answer at held
    subst held
    exact ⟨rfl,fun rule member => member⟩
  · have alone := Registry.delivery?_of_decides decided
    refine ⟨by simp only [dispatch?,alone],?_⟩
    intro rule member
    simp [Pending.rules,alone] at member

/-- Every run of the engine is one of its desk, with the same deeds. -/
theorem Run.desk_and_listed {settings : EngineSettings} {history : List Happening} {w : World}
    (run : Run settings history w) : Desk.Run settings (deeds history) w.desk ∧ w.Listed := by
  induction run with
  | start => exact ⟨.start,fun p member => by simp at member⟩
  | @step history w w' happening run step ih =>
    obtain ⟨ran,listed⟩ := ih
    have grown : ∀ {archive : Archive} {p : Pending}, (∀ rule ∈ w.archive.versions, rule ∈ archive.versions) →
        p ∈ w.pending → ∀ rule ∈ p.rules, rule ∈ archive.versions :=
      fun more member rule inside => more rule (listed _ member rule inside)
    cases step with
    | request activity asked =>
      obtain ⟨none,empty⟩ := activity.fresh_of_isRequest asked
      refine ⟨?_,?_⟩
      · change Desk.Run settings (deeds history) _
        simpa [World.desk,none] using ran
      · intro p member rule inside
        rcases List.mem_cons.mp member with rfl | member
        · simp [empty] at inside
        · exact listed p member rule inside
    | @serve before after activity place answer stored? served =>
      have more : ∀ rule ∈ w.archive.versions, rule ∈ (w.archive.putIfSome stored?).versions :=
        fun _ member => Archive.mem_versions_putIfSome stored? member
      refine ⟨?_,?_⟩
      · simp only [deeds,List.flatMap_cons,Happening.deeds]
        simp only [World.desk,place,List.filterMap_append,List.filterMap_cons] at ran ⊢
        rcases Pending.serve_cases served with ⟨d,given,asking,told,given_served⟩ | ⟨asking,told,none⟩
        · simp only [asking,told] at ran ⊢
          simpa [deeds] using ran.step (.serve rfl given_served)
        · simp only [asking,told,none] at ran ⊢
          exact ran
      · refine forall_middle.mpr ⟨fun rule inside => ?_,fun p member => ?_⟩
        · rcases Pending.rules_of_serves served rule inside with before | version
          · exact grown more (mem_of_place place) rule before
          · exact more rule version
        · exact grown more (mem_beside place member)
    | @resume before after p answer o now place taken went =>
      subst went
      have turns := p.activity.resume_turns settings now w.registry answer
      obtain ⟨same,fewer⟩ := taken.rules
      have present : p ∈ w.pending := mem_of_place place
      refine ⟨?_,?_⟩
      · simp only [deeds,List.flatMap_cons,Happening.deeds,same] at ran ⊢
        simp only [World.desk,place,List.filterMap_append,List.filterMap_cons,Activity.Outcome.dispatches_pending]
          at ran ⊢
        rw [same] at turns
        refine Desk.Run.turn turns.turn (fun rule member => listed p present rule (fewer rule member)) ?_
        cases waits : p.dispatch? with
        | none => simpa [waits] using ran
        | some dispatch => simpa [waits] using ran
      · intro other member rule inside
        rcases List.mem_append.mp member with member | member
        · rcases List.mem_append.mp member with member | member
          · exact grown (fun _ member => member) (by simp [place,member]) rule inside
          · cases waits : other.delivery? with
            | none => simp [Pending.rules,waits] at inside
            | some delivery =>
              have next := Activity.Outcome.delivery?_of_mem_pending member waits
              simp only [Pending.rules,waits,Option.map_some,Option.getD_some] at inside
              exact listed p present rule (fewer rule (turns.rules delivery next rule inside))
        · exact grown (fun _ member => member) (by simp [place,member]) rule inside
    | stop type =>
      refine ⟨?_,listed⟩
      have same : (w.registry.stopWatching type).1.claims = w.registry.claims := by
        unfold Registry.stopWatching Registry.removeSession
        cases w.registry.session? type <;> rfl
      change Desk.Run settings (deeds history) _
      simpa only [World.desk,same] using ran
    | shutDown => exact ⟨ran,listed⟩
    | change changed =>
      exact ⟨ran.step (.change changed),fun p member => grown (fun _ => changed.mem_versions) member⟩
    | restart => exact ⟨ran.step .restart,fun p member => by simp at member⟩

end Callout
