import Callout.Proofs.Recreation
import Callout.Proofs.Teardown
import Callout.Proofs.Transitions

/-!
What a status says of a dispatch. A dispatch finds a fault of an action when its headers cannot be resolved or when it
ran and failed, and goes no further then; so it has found one fault, or all its actions ran well. That is what the
status says that is stored for it (`Run.status_tells`). A dispatch never looks at a schedule, so one that cannot be
read is told by no status.
-/
namespace Callout

/-- A recording that goes on records the same outcome. -/
theorem Recording.resume_outcome {settings : EngineSettings} {now : Moment} {r r' : Recording}
    {answer : r.demand.Answer} (went : r.resume settings now answer = .waiting r') : r'.outcome = r.outcome := by
  have advances := r.resume_advances settings now answer
  rw [went] at advances
  cases advances with
  | read | conflicted | rested => rfl

namespace Dispatch

/-! ## What a dispatch finds -/

def unresolved? : Query (Except Misconfiguration (Dict String)) → Option Fault
  | .done (.error cause) => some (.config cause)
  | .done (.ok _) | .ask _ _ _ => none

/-- The fault that is found as soon as the first of some actions begins. -/
def upFront? (space : String) : List Action → Option Fault
  | [] => none
  | action :: _ => unresolved? (resolveHeaders space action.headers)

/-- The fault that is found when an action ended, with others left. -/
def ended? (space : String) (rest : List Action) : Except Fault Unit → Option Fault
  | .ok () => upFront? space rest
  | .error fault => some fault

/-- The fault that a dispatch finds with an answer with which it goes on. -/
def found? : (d : Dispatch) → d.demand.Answer → Option Fault
  | ⟨rule, _, .confirming⟩, _ => upFront? rule.space (immediate rule)
  | ⟨_, _, .reading _ _ _ _ next⟩, answer => unresolved? (next answer)
  | ⟨rule, _, .running _ rest⟩, answer => ended? rule.space rest answer
  | ⟨_, _, .recording _⟩, _ => none

/-- The action that ran well, if that is what an answer says. -/
def ran? : (d : Dispatch) → d.demand.Answer → Option Action
  | ⟨_, _, .running call _⟩, answer => if (answer : Except Fault Unit).isOk then some call.action else none
  | ⟨_, _, .confirming⟩, _ | ⟨_, _, .reading _ _ _ _ _⟩, _ | ⟨_, _, .recording _⟩, _ => none

/-- A dispatch with the answer that it took. -/
structure Reply where
  dispatch : Dispatch
  answer : dispatch.demand.Answer

/-- How a dispatch came to where it is, from its beginning: the answers that it took, latest first. -/
inductive Came (settings : EngineSettings) : List Reply → Dispatch → Prop where
  | start (rule : Rule) (event : Event) : Came settings [] { rule, event }
  | goOn {replies : List Reply} {d d' : Dispatch} {answer : d.demand.Answer} {now : Moment}
      {registry registry' : Registry} (came : Came settings replies d)
      (went : d.resume settings now registry answer = (registry', .waiting d')) :
      Came settings (⟨d, answer⟩ :: replies) d'

/-- The faults that were found, first one first. -/
def faults (replies : List Reply) : List Fault :=
  replies.reverse.filterMap fun reply => found? reply.dispatch reply.answer

/-- The actions that ran well, first one first. -/
def ran (replies : List Reply) : List Action :=
  replies.reverse.filterMap fun reply => ran? reply.dispatch reply.answer

theorem faults_cons (reply : Reply) (replies : List Reply) :
    faults (reply :: replies) = faults replies ++ (found? reply.dispatch reply.answer).toList := by
  cases found : found? reply.dispatch reply.answer <;> simp [faults,found]

theorem ran_cons (reply : Reply) (replies : List Reply) :
    ran (reply :: replies) = ran replies ++ (ran? reply.dispatch reply.answer).toList := by
  cases well : ran? reply.dispatch reply.answer <;> simp [ran,well]

/-! ## Where a dispatch stands -/

/-- Where a dispatch stands when these actions ran well and these faults were found. -/
def Stands (d : Dispatch) (ran : List Action) (faults : List Fault) : Prop :=
  match d.stage with
  | .confirming => ran = [] ∧ faults = []
  | .reading action rest _ _ _ => ran ++ action :: rest = immediate d.rule ∧ faults = []
  | .running call rest => ran ++ call.action :: rest = immediate d.rule ∧ faults = []
  | .recording recording =>
    (ran = immediate d.rule ∧ faults = [] ∧ recording.outcome = .ok ()) ∨
      ∃ fault, faults = [fault] ∧ recording.outcome = .error fault

theorem withHeaders_stands (d : Dispatch) (now : Moment) {ran : List Action} {action : Action} {rest : List Action}
    (left : ran ++ action :: rest = immediate d.rule) (query : Query (Except Misconfiguration (Dict String))) :
    (d.withHeaders now action rest query).Stands ran (unresolved? query).toList := by
  cases query with
  | ask space name next => exact ⟨left,rfl⟩
  | done result =>
    cases result with
    | error cause => exact .inr ⟨_,rfl,rfl⟩
    | ok headers => exact ⟨left,rfl⟩

theorem perform_stands (d : Dispatch) (now : Moment) {ran actions : List Action}
    (left : ran ++ actions = immediate d.rule) :
    (d.perform now actions).Stands ran (upFront? d.rule.space actions).toList := by
  cases actions with
  | nil => exact .inl ⟨(List.append_nil ran).symm.trans left,rfl,rfl⟩
  | cons action rest => exact d.withHeaders_stands now left _

/-- One answer more: what it finds is found, and what it says has run has run. -/
theorem Stands.resume {settings : EngineSettings} {now : Moment} {registry registry' : Registry} {d d' : Dispatch}
    {answer : d.demand.Answer} {ran : List Action} {faults : List Fault} (stands : d.Stands ran faults)
    (went : d.resume settings now registry answer = (registry',.waiting d')) :
    d'.Stands (ran ++ (ran? d answer).toList) (faults ++ (found? d answer).toList) := by
  have advances := d.resume_advances settings now registry answer
  rw [went] at advances
  cases advances with
  | @begins rule event _ unexecuted =>
    obtain ⟨rfl,rfl⟩ := stands
    have here := perform_stands ⟨rule,event,.confirming⟩ now (List.nil_append (immediate rule))
    simpa [found?,ran?] using here
  | @read rule event action rest space name next answer =>
    obtain ⟨left,rfl⟩ := stands
    have here := withHeaders_stands ⟨rule,event,.reading action rest space name next⟩ now left (next answer)
    simpa [found?,ran?] using here
  | @ran rule event call rest answer =>
    obtain ⟨left,rfl⟩ := stands
    cases answer with
    | ok _ =>
      have left : (ran ++ [call.action]) ++ rest = immediate rule := by simpa using left
      have here := perform_stands ⟨rule,event,.running call rest⟩ now left
      simpa [found?,ran?,ended?,Except.isOk,Except.toBool,afterRunning] using here
    | error fault => exact .inr ⟨fault,rfl,rfl⟩
  | records step =>
    have same := Recording.resume_outcome step
    rcases stands with ⟨left,rfl,well⟩ | ⟨fault,rfl,failed⟩
    · exact .inl ⟨by simpa [ran?] using left,rfl,same.trans well⟩
    · exact .inr ⟨fault,rfl,same.trans failed⟩

/-- Where a dispatch stands is told by the answers that it took. -/
theorem Came.stands {settings : EngineSettings} {replies : List Reply} {d : Dispatch} (came : Came settings replies d) :
    d.Stands (ran replies) (faults replies) := by
  induction came with
  | start rule event => exact ⟨rfl,rfl⟩
  | @goOn replies d d' answer now registry registry' _ went ih =>
    rw [ran_cons,faults_cons]
    exact ih.resume went

/-- What a dispatch stores is a rule that it was given, with its record. -/
theorem Came.writes {settings : EngineSettings} {replies : List Reply} {d : Dispatch} (came : Came settings replies d)
    {recording : Recording} {given : Rule} (same : d.stage = .recording recording)
    (writing : recording.stage = .writing given) : ∃ latest now, given = recording.extended latest now := by
  cases came with
  | start => cases same
  | @goOn _ _ _ answer now _ _ _ went =>
    obtain ⟨latest,_,extended⟩ := (Dispatch.resume_waiting went).2.writes recording given same writing
    exact ⟨latest,now.wall,extended⟩

end Dispatch

/-- Every dispatch under way has come from its beginning. -/
theorem Desk.Run.came {settings : EngineSettings} {deeds : List Deed} {k : Desk} (run : Desk.Run settings deeds k) :
    ∀ p ∈ k.active, ∃ replies, Dispatch.Came settings replies p.dispatch := by
  induction run with
  | start => exact fun p member => by cases member
  | @step deeds new k _ _ step ih =>
    cases step with
    | serve place served =>
      rw [place,forall_middle] at ih
      exact forall_middle.mpr ih
    | goOn place claims went =>
      rw [place,forall_middle] at ih
      obtain ⟨⟨replies,came⟩,others⟩ := ih
      exact forall_middle.mpr ⟨⟨_,came.goOn went⟩,others⟩
    | finish place claims went =>
      rw [place,forall_middle] at ih
      exact ih.2
    | start place claims known started =>
      rw [place] at ih
      obtain ⟨rfl,_⟩ := Dispatch.start_waiting started
      exact forall_middle.mpr ⟨⟨[],.start _ _⟩,ih⟩
    | change changed => exact ih
    | restart => exact fun p member => by cases member

/-! ## What a status tells -/

namespace RuleStatus

/-- The condition that says how the last dispatch ended: the first one of its type. -/
def ready? (s : RuleStatus) : Option Condition := s.conditions.find? (·.type = "Ready")

/-- Whether a status says that the last dispatch ended so. -/
inductive Tells (s : RuleStatus) : Outcome → Prop where
  | success {c : Condition} (quiet : s.lastError? = none) (ready : s.ready? = some c) (status : c.status = .holds)
      (reason : c.reason = "ActionSucceeded") : Tells s (.ok ())
  | failure {fault : Fault} {c : Condition} (error : s.lastError? = some fault.message) (ready : s.ready? = some c)
      (status : c.status = .fails) (reason : c.reason = fault.reason) (message : c.message = fault.message) :
      Tells s (.error fault)

end RuleStatus

namespace Condition

theorem countP_upsert (conditions : List Condition) (new : Condition) (now : Timestamp)
    (few : conditions.countP (·.type = new.type) ≤ 1) : (upsert conditions new now).countP (·.type = new.type) = 1 := by
  induction conditions with
  | nil => simp [upsert]
  | cons c rest ih =>
    simp only [upsert]
    split
    next same =>
      have none : rest.countP (·.type = new.type) = 0 := by simpa [same] using few
      simp [none]
    next other =>
      have few : rest.countP (·.type = new.type) ≤ 1 := by simpa [other] using few
      simpa [other] using ih few

end Condition

@[simp] theorem RuleStatus.readyFor_type (outcome : Outcome) (generation? : Option Int64) (now : Timestamp) :
    (readyFor outcome generation? now).type = "Ready" := by cases outcome <;> rfl

/-- The ready condition of a status that is recorded is the one for the outcome, but for its time. -/
theorem RuleStatus.record_ready (s : RuleStatus) (execution : Execution) (outcome : Outcome)
    (generation? : Option Int64) (now : Timestamp) :
    ∃ since, (s.record execution outcome generation? now).ready? =
      some { readyFor outcome generation? now with since } := by
  have found := Condition.held?_upsert_self s.conditions (readyFor outcome generation? now) now
  rw [readyFor_type] at found
  exact ⟨_,found⟩

/-- What is recorded of a dispatch is what its status tells. -/
theorem RuleStatus.record_tells (s : RuleStatus) (execution : Execution) (outcome : Outcome)
    (generation? : Option Int64) (now : Timestamp) : (s.record execution outcome generation? now).Tells outcome := by
  obtain ⟨since,found⟩ := s.record_ready execution outcome generation? now
  cases outcome with
  | ok _ => exact .success rfl found rfl rfl
  | error fault => exact .failure rfl found rfl rfl rfl

theorem RuleStatus.record_alone (s : RuleStatus) (execution : Execution) (outcome : Outcome)
    (generation? : Option Int64) (now : Timestamp) (few : s.conditions.countP (·.type = "Ready") ≤ 1) :
    (s.record execution outcome generation? now).conditions.countP (·.type = "Ready") = 1 := by
  rw [← readyFor_type outcome generation? now] at few ⊢
  exact Condition.countP_upsert s.conditions (readyFor outcome generation? now) now few

/-- How many conditions of a rule say how the last dispatch ended. -/
def Rule.readies (rule : Rule) : Nat := ((rule.status?.getD {}).conditions).countP (·.type = "Ready")

/-- Take any status that is stored for a dispatch, and the answers that the dispatch took. If it found a fault, it found
no other one, and the status tells that fault. If it found none, all actions that run once ran well, and the status
tells that. -/
theorem Run.status_tells {settings : EngineSettings} {history : List Happening} {w : World}
    (run : Run settings history w) {d : Dispatch} {archive : Archive} {after : Rule}
    (member : .stored d archive after ∈ deeds history) :
    (∃ replies, Dispatch.Came settings replies d) ∧
      ∃ before status, archive.current? d.rule.id = some before ∧ after.status? = some status ∧
        (before.readies ≤ 1 → after.readies = 1) ∧
        ∀ replies, Dispatch.Came settings replies d →
          (Dispatch.faults replies = [] ∧ Dispatch.ran replies = Dispatch.immediate d.rule ∧ status.Tells (.ok ())) ∨
            ∃ fault, Dispatch.faults replies = [fault] ∧ status.Tells (.error fault) := by
  obtain ⟨earlier,claims,active,answer,ran,inside,waits,served⟩ := run.desk_and_listed.1.stored member
  obtain ⟨recording,before,now,same,_,current,_,_,_,stored⟩ := ran.faithful.extends waits served
  refine ⟨ran.came _ waits,before,_,current,stored,fun few => ?_,fun replies came => ?_⟩
  · simp only [Rule.readies,stored]
    exact RuleStatus.record_alone _ recording.execution recording.outcome before.metadata.generation? now few
  · have tells := RuleStatus.record_tells (before.status?.getD {}) recording.execution recording.outcome
      before.metadata.generation? now
    have stands := came.stands
    simp only [Dispatch.Stands,same] at stands
    rcases stands with ⟨all,none,well⟩ | ⟨fault,one,failed⟩
    · refine .inl ⟨none,all,?_⟩
      rw [← well]
      exact tells
    · refine .inr ⟨fault,one,?_⟩
      rw [← failed]
      exact tells

namespace Sample

/-- A rule with an action whose header has no value. -/
def headlessRule : Rule := rule { url := "http://hook/once", headers := Dict.ofList [("authorization",{})] }

/-- The rule with a record that its header has no value. -/
def reported : Rule :=
  headlessRule.restated
    (some (RuleStatus.record {} ⟨"uid-a",.create,moment.wall⟩ (.error (.config (.headerWithoutValue "authorization")))
      none moment.wall))
    (some "2")

private theorem reported_admitted : Archive.Admits ⟨[(headlessRule.id,some headlessRule)]⟩ reported := by
  intro old member id version
  cases List.mem_singleton.mp (show old ∈ [headlessRule] from member)
  exact absurd version (by decide)

/-- The fault of the header is found, and the status tells it. -/
theorem status_tells_headless : ∃ history w d archive after status replies fault,
    Run {} history w ∧ .stored d archive after ∈ deeds history ∧ after.status? = some status ∧
      Dispatch.Came {} replies d ∧ Dispatch.faults replies = [fault] ∧ status.Tells (.error fault) ∧
      status.lastError? = some "config: header authorization: neither value nor secretKeyRef set" := by
  have run := (Run.start : Run {} [] {}).step (.change (created headlessRule))
  replace run := run.step (.request (.delivery (.listing event)) trivial)
  replace run := (run.told (Except.ok [headlessRule]) ⟨rfl,fun _ member => member⟩).goes moment rfl
  replace run := (run.told (Except.ok headlessRule) ⟨rfl,rfl⟩).goes moment rfl
  replace run := (run.told (Except.ok headlessRule) ⟨rfl,rfl⟩).goes moment rfl
  replace run := run.told (Except.ok ()) ⟨reported,rfl,_,rfl,rfl,rfl,reported_admitted⟩
  obtain ⟨⟨replies,came⟩,_,status,_,stored,_,tells⟩ := run.status_tells (.head _)
  have error : status.lastError? = some "config: header authorization: neither value nor secretKeyRef set" := by
    rw [← Option.some.inj (show reported.status? = some status from stored)]
    rfl
  rcases tells replies came with ⟨_,_,well⟩ | ⟨fault,found,failed⟩
  · cases well with
    | success quiet =>
      rw [quiet] at error
      cases error
  · exact ⟨_,_,_,_,_,status,replies,fault,run,.head _,stored,came,found,failed,error⟩

/-- A rule with an action that is to run again and again, with no time in between. -/
def restlessRule : Rule := rule { url := "http://hook/beat", mode := .interval, schedule? := some "0s" }

theorem schedule_restless : ((({} : Registry).opened type target).arm event [restlessRule]).result =
    .error (.config (.zeroDuration "schedule" "0s")) :=
  rfl

private theorem restless_admitted :
    Archive.Admits ⟨[(restlessRule.id,some restlessRule)]⟩ (recorded restlessRule "2") := by
  intro old member id version
  cases List.mem_singleton.mp (show old ∈ [restlessRule] from member)
  exact absurd version (by decide)

/-- While a type is watched, an event is delivered to a rule whose only action has a schedule that cannot be used. The
status of the rule says that all went well. -/
theorem status_silent_on_schedule : ∃ history w registry outcome d archive after status,
    Run {} history w ∧
      .resumed registry (.delivery (.listing event)) (Except.ok [restlessRule]) outcome ∈ history ∧
      (registry.arm event [restlessRule]).result = .error (.config (.zeroDuration "schedule" "0s")) ∧
      .stored d archive after ∈ deeds history ∧ d.rule = restlessRule ∧ after.status? = some status ∧
      status.Tells (.ok ()) := by
  obtain ⟨_,run,_⟩ := watches ((Run.start : Run {} [] {}).step (.change (created restlessRule))) rfl
  replace run := run.step (.request (.delivery (.listing event)) trivial)
  replace run := (run.told (Except.ok [restlessRule]) ⟨rfl,fun _ member => member⟩).goes moment rfl
  replace run := (run.told (Except.ok restlessRule) ⟨rfl,rfl⟩).goes moment rfl
  replace run := (run.told (Except.ok restlessRule) ⟨rfl,rfl⟩).goes moment rfl
  replace run := run.told (Except.ok ()) ⟨recorded restlessRule "2",rfl,_,rfl,rfl,rfl,restless_admitted⟩
  have tells : RuleStatus.Tells _ (.ok ()) := RuleStatus.record_tells {} ⟨"uid-a",.create,moment.wall⟩ (.ok ()) none
    moment.wall
  exact ⟨_,_,_,_,_,_,recorded restlessRule "2",_,run,.tail _ (.tail _ (.tail _ (.tail _ (.tail _ (.head _))))),
    schedule_restless,.head _,rfl,rfl,tells⟩

end Sample
end Callout
