import Callout.Proofs.Arming
import Callout.Proofs.Dispatch
import Callout.Rehearsal.Activity

/-!
What a step of an activity does to the registry, said once for all kinds of activities (`Activity.resume_effect`): a
task that ends is removed, a session whose stream ended is released, a type that is opened gets a session, an event
arms tasks, and a dispatch changes claims. What the run of a task does at a step is told by its stage and its answer
(`IntervalRun.Advances`).
-/
namespace Callout

/-- The registry after a session for a type is registered. -/
def Registry.opened (r : Registry) (type : ResourceType) (target : WatchTarget) : Registry :=
  { r with
    started := true, lastSession := r.lastSession + 1, tokens := (r.tokens.child Registry.root).1,
    sessions := r.sessions ++ [(type, ⟨r.lastSession + 1, target, (r.tokens.child Registry.root).2⟩)] }

/-- What openings do to a registry, with the sessions that begin: nothing, or one type that was not watched is. -/
inductive Registry.Opens (r : Registry) : Registry → List Session → Prop where
  | same : Opens r r []
  | opened (type : ResourceType) (target : WatchTarget) (free : r.isWatching type = false) :
      Opens r (r.opened type target) [⟨r.lastSession + 1, target, (r.tokens.child Registry.root).2⟩]

/-- What a step does to a registry, with the tasks and the sessions that begin. -/
inductive Registry.Effect (r : Registry) : Registry → List IntervalTask → List Session → Prop where
  /-- At most claims change. -/
  | claimed (claims : List ClaimKey) : Effect r { r with claims } [] []
  /-- A task ended. -/
  | removed (key : TaskKey) : Effect r (r.removeTask key).1 [] []
  /-- A session whose stream ended. -/
  | released (type : ResourceType) (id : SessionId) : Effect r (r.releaseSession type id).1 [] []
  /-- A type is opened. -/
  | opened {r' : Registry} {sessions : List Session} (opens : r.Opens r' sessions) : Effect r r' [] sessions
  /-- An event for which tasks were armed. -/
  | armed (event : Event) (rules : List Rule) (claims : List ClaimKey) :
      Effect r { (r.arm event rules).registry with claims } (r.arm event rules).armed []

theorem Registry.Opens.claims {r r' : Registry} {sessions : List Session} (opens : r.Opens r' sessions) :
    r'.claims = r.claims := by
  cases opens <;> rfl

/-- A step that changes nothing in the registry. -/
theorem Registry.Effect.same (r : Registry) : r.Effect r [] [] := .claimed r.claims

/-! ## Tasks -/

namespace IntervalRun

@[simp] theorem withHeaders_task (r : IntervalRun) (q : Query (Except Misconfiguration (Dict String))) :
    (r.withHeaders q).task = r.task := by
  obtain (_ | _) | _ := q <;> rfl

/-- What becomes of the run of a task with an answer: how it goes on, or nothing if it ends. -/
inductive Advances (now : Moment) : (r : IntervalRun) → r.demand.Answer → Option IntervalRun → Prop where
  | cancelled {task : IntervalTask} {ticker : Ticker} : Advances now ⟨task, ticker, .waiting⟩ Tick.cancelled none
  | performs {task : IntervalTask} {ticker : Ticker} (deletion : task.event.kind = .delete) :
      Advances now ⟨task, ticker, .waiting⟩ Tick.due (some (perform ⟨task, ticker.take now.nanos, .waiting⟩))
  | looks {task : IntervalTask} {ticker : Ticker} (other : task.event.kind ≠ .delete) :
      Advances now ⟨task, ticker, .waiting⟩ Tick.due (some ⟨task, ticker.take now.nanos, .looking⟩)
  | found {task : IntervalTask} {ticker : Ticker} (rule : Rule) :
      Advances now ⟨task, ticker, .looking⟩ (Except.ok rule) (some (perform ⟨task, ticker, .looking⟩))
  | gone {task : IntervalTask} {ticker : Ticker} {fault : Fault} (gone : fault.isNotFound = true) :
      Advances now ⟨task, ticker, .looking⟩ (Except.error fault) none
  | passed {task : IntervalTask} {ticker : Ticker} {fault : Fault} (present : fault.isNotFound = false) :
      Advances now ⟨task, ticker, .looking⟩ (Except.error fault) (some ⟨task, ticker, .waiting⟩)
  | read {task : IntervalTask} {ticker : Ticker} {space name : String}
      {next : Except Fault SecretData → Query (Except Misconfiguration (Dict String))}
      (answer : Except Fault SecretData) :
      Advances now ⟨task, ticker, .reading space name next⟩ answer
        (some (withHeaders ⟨task, ticker, .reading space name next⟩ (next answer)))
  | ran {task : IntervalTask} {ticker : Ticker} {call : Call} (answer : Except Fault Unit) :
      Advances now ⟨task, ticker, .running call⟩ answer (some ⟨task, ticker, .waiting⟩)

theorem Advances.task {now : Moment} {r r' : IntervalRun} {answer : r.demand.Answer}
    (advances : r.Advances now answer (some r')) : r'.task = r.task := by
  cases advances with
  | performs | found => exact withHeaders_task _ _
  | read => exact withHeaders_task _ _
  | looks | passed | ran => rfl

/-- A run that ends removes its key, and one that goes on leaves the registry as it was. -/
theorem resume_advances (now : Moment) (registry : Registry) (r : IntervalRun) (answer : r.demand.Answer) :
    (r.Advances now answer none ∧ r.resume now registry answer = r.finish registry) ∨
      ∃ r', r.Advances now answer (some r') ∧ r.resume now registry answer = (registry,.waiting r') := by
  obtain ⟨task,ticker,stage⟩ := r
  cases stage with
  | waiting =>
    change Tick at answer
    cases answer with
    | cancelled => exact .inl ⟨.cancelled,rfl⟩
    | due =>
      by_cases deletion : task.event.kind = .delete
      · exact .inr ⟨_,.performs deletion,by simp only [resume,afterTick,deletion,if_true]⟩
      · exact .inr ⟨_,.looks deletion,by simp only [resume,afterTick,deletion,if_false]⟩
  | looking =>
    change Except Fault Rule at answer
    cases answer with
    | ok rule => exact .inr ⟨_,.found rule,rfl⟩
    | error fault =>
      cases missing : fault.isNotFound with
      | true => exact .inl ⟨.gone missing,by simp only [resume,afterLook,missing,if_true]⟩
      | false => exact .inr ⟨_,.passed missing,by simp only [resume,afterLook,missing,Bool.false_eq_true,if_false,rest]⟩
  | reading space name next => exact .inr ⟨_,.read answer,rfl⟩
  | running call => exact .inr ⟨_,.ran answer,rfl⟩
  | lost => exact Empty.elim answer

theorem finish_ne_waiting (r r' : IntervalRun) (registry registry' : Registry) :
    (registry',Progress.waiting r') ≠ r.finish registry :=
  fun same => by cases congrArg Prod.snd same

theorem advances_of_waiting {now : Moment} {registry registry' : Registry} {r r' : IntervalRun}
    {answer : r.demand.Answer} (went : r.resume now registry answer = (registry',.waiting r')) :
    r.Advances now answer (some r') := by
  rcases r.resume_advances now registry answer with ⟨_,ended⟩ | ⟨next,advances,goes⟩
  · exact (finish_ne_waiting _ _ _ _ (went.symm.trans ended)).elim
  · cases went.symm.trans goes
    exact advances

/-- The run of a task either ends and removes its key, or goes on with the registry as it was. -/
theorem resume_cases (now : Moment) (registry : Registry) (r : IntervalRun) (answer : r.demand.Answer) :
    r.resume now registry answer = r.finish registry ∨
      ∃ r', r'.task = r.task ∧ r.resume now registry answer = (registry,.waiting r') := by
  rcases r.resume_advances now registry answer with ⟨_,ended⟩ | ⟨next,advances,goes⟩
  · exact .inl ended
  · exact .inr ⟨next,advances.task,goes⟩

end IntervalRun

/-! ## Openings -/

theorem Opening.resume_opens (registry : Registry) (o : Opening) (answer : Except Fault WatchTarget) :
    registry.Opens (o.resume registry answer).registry (o.resume registry answer).session?.toList := by
  cases answer with
  | error fault => exact .same
  | ok target =>
    cases watched : registry.isWatching o.type with
    | true =>
      simp only [resume,Registry.registerSession,watched,if_true]
      exact .same
    | false =>
      simp only [resume,Registry.registerSession,watched,Bool.false_eq_true,if_false]
      exact .opened o.type target watched

theorem Reconciling.start_idle (registry : Registry) (parked : Parked) (types : List ResourceType) :
    (Reconciling.start registry parked types).registry = registry ∧
      (Reconciling.start registry parked types).sessions = [] := by
  induction types generalizing parked with
  | nil => exact ⟨rfl,rfl⟩
  | cons type rest ih =>
    rw [Reconciling.start]
    split
    · exact ⟨rfl,rfl⟩
    · exact ih _

theorem Reconciling.resume_opens (registry : Registry) (r : Reconciling) (answer : Except Fault WatchTarget) :
    registry.Opens (r.resume registry answer).registry (r.resume registry answer).sessions := by
  have opens := r.opening.resume_opens registry answer
  unfold Reconciling.resume
  dsimp only
  split
  · exact opens
  · obtain ⟨same,none⟩ := start_idle (r.opening.resume registry answer).registry
      (r.parked.settle r.opening.type ‹_›) r.rest
    dsimp only
    rw [same,none,List.append_nil]
    exact opens

theorem Reconciler.resume_opens (now : Moment) (registry : Registry) (r : Reconciler) (answer : r.demand.Answer) :
    registry.Opens (r.resume now registry answer).registry (r.resume now registry answer).sessions := by
  obtain ⟨ticker,stage⟩ := r
  cases stage with
  | busy reconciling => exact reconciling.resume_opens registry answer
  | idle parked =>
    change News at answer
    change registry.Opens (afterNews _ parked now registry answer).registry
      (afterNews _ parked now registry answer).sessions
    cases answer with
    | cancelled => exact .same
    | ended => exact .same
    | due =>
      obtain ⟨same,none⟩ := Reconciling.start_idle registry parked parked
      simp only [afterNews,withReconciling,same,none]
      exact .same
    | next news =>
      obtain ⟨same,none⟩ := Reconciling.start_idle registry parked (selected news)
      simp only [afterNews,withReconciling,same,none]
      exact .same

/-! ## Deliveries and sessions -/

theorem Delivery.proceed_frame (registry : Registry) (event : Event) (first? : Option Fault) (rules : List Rule) :
    (∃ claims, (Delivery.proceed registry event first? rules).registry = { registry with claims }) ∧
      (Delivery.proceed registry event first? rules).armed = [] := by
  induction rules generalizing first? with
  | nil => exact ⟨⟨registry.claims,rfl⟩,rfl⟩
  | cons rule rest ih =>
    rw [proceed]
    split
    · exact ih first?
    · split
      · rename_i registry' d started
        obtain ⟨claims,same⟩ := Dispatch.start_frame registry rule event
        exact ⟨⟨claims,by rw [← same,started]⟩,rfl⟩
      · rename_i registry' outcome started
        rw [Dispatch.start_finished started]
        exact ih _

theorem Delivery.resume_effect (settings : EngineSettings) (now : Moment) (registry : Registry) (d : Delivery)
    (answer : d.demand.Answer) :
    registry.Effect (d.resume settings now registry answer).registry (d.resume settings now registry answer).armed
      [] := by
  cases d with
  | listing event =>
    change Except Fault (List Rule) at answer
    change registry.Effect (afterListing registry event answer).registry (afterListing registry event answer).armed []
    cases answer with
    | error fault => exact .same registry
    | ok rules =>
      obtain ⟨⟨claims,same⟩,_⟩ := proceed_frame (registry.arm event rules).registry event none rules
      simp only [afterListing,same]
      exact .armed event rules claims
  | dispatching dispatch rest first? =>
    change registry.Effect
      (withDispatch dispatch.event rest first? (dispatch.resume settings now registry answer)).registry
      (withDispatch dispatch.event rest first? (dispatch.resume settings now registry answer)).armed []
    obtain ⟨claims,same⟩ := dispatch.resume_frame settings now registry answer
    cases step : dispatch.resume settings now registry answer with
    | mk between progress =>
      rw [step] at same
      subst same
      cases progress with
      | waiting dispatch' => exact .claimed claims
      | finished result =>
        obtain ⟨⟨later,kept⟩,none⟩ :=
          proceed_frame { registry with claims } dispatch.event (joined first? result) rest
        simp only [withDispatch,none,kept]
        exact .claimed later

theorem WatchRun.deliver_frame (w : WatchRun) (registry : Registry) (events : List Event) :
    (deliver w registry events).registry = registry ∧ (deliver w registry events).armed = [] := by
  cases events with
  | nil => exact ⟨rfl,rfl⟩
  | cons event rest =>
    rw [deliver]
    split <;> exact ⟨rfl,rfl⟩

theorem WatchRun.resume_effect (settings : EngineSettings) (now : Moment) (registry : Registry) (w : WatchRun)
    (answer : w.demand.Answer) :
    registry.Effect (w.resume settings now registry answer).registry (w.resume settings now registry answer).armed
      [] := by
  obtain ⟨session,tracker,stage⟩ := w
  cases stage with
  | idle =>
    change Item at answer
    change registry.Effect (afterItem _ registry answer).registry (afterItem _ registry answer).armed []
    cases answer with
    | cancelled => exact .same registry
    | ended => exact .released session.target.type session.id
    | next item =>
      cases item with
      | error fault => exact .same registry
      | ok notification =>
        obtain ⟨same,none⟩ := deliver_frame ⟨session,(tracker.push notification).1,.idle⟩ registry
          (tracker.push notification).2
        simp only [afterItem]
        rw [same,none]
        exact .same registry
  | delivering delivery rest =>
    change registry.Effect (withDelivery _ rest (delivery.resume settings now registry answer)).registry
      (withDelivery _ rest (delivery.resume settings now registry answer)).armed []
    have effect := delivery.resume_effect settings now registry answer
    unfold withDelivery
    split
    · exact effect
    · rw [(deliver_frame _ _ _).1]
      exact effect

/-! ## Activities -/

/-- What a step of an activity does to the registry. -/
theorem Activity.resume_effect (settings : EngineSettings) (now : Moment) (registry : Registry) (activity : Activity)
    (answer : activity.demand.Answer) :
    registry.Effect (activity.resume settings now registry answer).registry
      (activity.resume settings now registry answer).armed
      (activity.resume settings now registry answer).sessions := by
  cases activity with
  | task run =>
    rcases run.resume_cases now registry answer with ended | ⟨run',_,went⟩
    · simp only [Activity.resume]
      rw [ended]
      exact .removed run.task.key
    · simp only [Activity.resume]
      rw [went]
      exact .same registry
  | watch run => exact run.resume_effect settings now registry answer
  | delivery delivery => exact delivery.resume_effect settings now registry answer
  | arming event =>
    change Except Fault (List Rule) at answer
    cases answer with
    | error fault => exact .same registry
    | ok rules => exact .armed event rules (registry.arm event rules).registry.claims
  | unopened type => exact .same registry
  | opening opening => exact .opened (opening.resume_opens registry answer)
  | reconciling reconciling => exact .opened (reconciling.resume_opens registry answer)
  | reconciler reconciler => exact .opened (reconciler.resume_opens now registry answer)

end Callout
