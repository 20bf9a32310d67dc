import Callout.Proofs.Independence
import Callout.Proofs.StatusHistory
import Callout.Proofs.WriteBudget

/-!
One dispatch from its claim to its result. The actions that run once are run in their order, up to the first one whose
headers cannot be resolved or whose call fails (`Dispatch.Performs`), and what came of them is recorded. When the record
is stored, the status says the same as the result, and keeps the event from being run again (`Dispatch.completes`).
-/
namespace Callout

namespace Outside
variable {τ α : Type}

/-- What comes of a query, with the secrets as they are when it asks for them, and the state after it. -/
def ask (o : Outside τ) (t : τ) : Query α → α × τ
  | .done result => (result, t)
  | .ask space name next => o.ask (o.secret space name t).2 (next (o.secret space name t).1)

/-- A status that is accepted is the one that is stored then. -/
def Keeps (o : Outside τ) : Prop :=
  ∀ given t, (o.store given t).1 = .ok () →
    ∃ stored, o.stored? (o.store given t).2 = some stored ∧ stored.status? = given.status?

end Outside

namespace Dispatch

/-- Some actions all run well, one after the other: with these calls, from one state to another. -/
inductive Ran {τ : Type} (o : Outside τ) (rule : Rule) (event : Event) : τ → List Action → List Call → τ → Prop where
  | none (t : τ) : Ran o rule event t [] [] t
  | next {t after : τ} {action : Action} {headers : Dict String} {rest : List Action} {calls : List Call}
      (resolved : (o.ask t (resolveHeaders rule.space action.headers)).1 = .ok headers)
      (ran : (o.run ⟨action, event.object, rule.space, headers⟩
        (o.ask t (resolveHeaders rule.space action.headers)).2).1 = .ok ())
      (later : Ran o rule event (o.run ⟨action, event.object, rule.space, headers⟩
        (o.ask t (resolveHeaders rule.space action.headers)).2).2 rest calls after) :
      Ran o rule event t (action :: rest) (⟨action, event.object, rule.space, headers⟩ :: calls) after

/-- What comes of some actions: the calls, the outcome and the state after them. -/
inductive Performs {τ : Type} (o : Outside τ) (rule : Rule) (event : Event) :
    τ → List Action → List Call → RuleStatus.Outcome → τ → Prop where
  /-- All actions run well. -/
  | all {t after : τ} {actions : List Action} {calls : List Call} (ran : Ran o rule event t actions calls after) :
      Performs o rule event t actions calls (.ok ()) after
  /-- The headers of an action cannot be resolved, and it is not run. -/
  | unresolved {t before : τ} {earlier rest : List Action} {action : Action} {calls : List Call}
      {cause : Misconfiguration} (ran : Ran o rule event t earlier calls before)
      (refused : (o.ask before (resolveHeaders rule.space action.headers)).1 = .error cause) :
      Performs o rule event t (earlier ++ action :: rest) calls (.error (.config cause))
        (o.ask before (resolveHeaders rule.space action.headers)).2
  /-- An action is run and fails. -/
  | failed {t before : τ} {earlier rest : List Action} {action : Action} {headers : Dict String} {calls : List Call}
      {fault : Fault} (ran : Ran o rule event t earlier calls before)
      (resolved : (o.ask before (resolveHeaders rule.space action.headers)).1 = .ok headers)
      (failed : (o.run ⟨action, event.object, rule.space, headers⟩
        (o.ask before (resolveHeaders rule.space action.headers)).2).1 = .error fault) :
      Performs o rule event t (earlier ++ action :: rest) (calls ++ [⟨action, event.object, rule.space, headers⟩])
        (.error fault)
        (o.run ⟨action, event.object, rule.space, headers⟩
          (o.ask before (resolveHeaders rule.space action.headers)).2).2

section
variable {τ : Type} {o : Outside τ} {rule : Rule} {event : Event}

/-- The actions that are run are the first ones, in their order. -/
theorem Ran.actions {t after : τ} {actions : List Action} {calls : List Call}
    (ran : Ran o rule event t actions calls after) : calls.map (·.action) = actions := by
  induction ran with
  | none => rfl
  | next _ _ _ ih => rw [List.map_cons,ih]

theorem Performs.actions {t after : τ} {actions : List Action} {calls : List Call} {outcome : RuleStatus.Outcome}
    (performs : Performs o rule event t actions calls outcome after) : calls.map (·.action) <+: actions := by
  cases performs with
  | all ran => exact ran.actions ▸ List.prefix_rfl
  | unresolved ran => exact ran.actions ▸ List.prefix_append _ _
  | @failed before earlier rest action headers calls fault ran =>
    rw [List.map_append,ran.actions]
    exact ⟨rest,by simp⟩

/-- An action that runs well, before others. -/
theorem Performs.after_next {t after : τ} {action : Action} {headers : Dict String} {rest : List Action}
    {calls : List Call} {outcome : RuleStatus.Outcome}
    (resolved : (o.ask t (resolveHeaders rule.space action.headers)).1 = .ok headers)
    (ran : (o.run ⟨action,event.object,rule.space,headers⟩
      (o.ask t (resolveHeaders rule.space action.headers)).2).1 = .ok ())
    (later : Performs o rule event (o.run ⟨action,event.object,rule.space,headers⟩
      (o.ask t (resolveHeaders rule.space action.headers)).2).2 rest calls outcome after) :
    Performs o rule event t (action :: rest) (⟨action,event.object,rule.space,headers⟩ :: calls) outcome after := by
  cases later with
  | all others => exact .all (.next resolved ran others)
  | unresolved others refused => exact .unresolved (.next resolved ran others) refused
  | failed others found failed => exact .failed (.next resolved ran others) found failed

end

/-! ## The actions of a dispatch -/

section
variable {τ : Type} {o : Outside τ} {settings : EngineSettings} {clock : Nat → Moment} {n : Nat} {t : τ}
variable {d d' : Dispatch} {v : Verdict τ}

theorem Course.of_goesTo (course : Course o settings clock n t d v)
    (goes : d.GoesTo settings (clock n) (o.answer t d).1 d') :
    ∃ w, Course o settings clock (n + 1) (o.answer t d).2 d' w ∧
      v = { w with calls := d.call?.toList ++ w.calls } := by
  cases course with
  | ended finishes => exact (finishes.not_goesTo goes).elim
  | goes went onward =>
    cases went.unique goes
    exact ⟨_,onward,rfl⟩

/-- Once the headers are resolved, it does not matter which stage that took. -/
theorem withHeaders_stage (d : Dispatch) (stage : Stage) (now : Moment) (action : Action) (rest : List Action)
    (result : Except Misconfiguration (Dict String)) :
    withHeaders ⟨d.rule,d.event,stage⟩ now action rest (.done result) =
      d.withHeaders now action rest (.done result) := by
  cases result <;> rfl

/-- The headers of an action are resolved without a call. -/
theorem Course.of_withHeaders {action : Action} {rest : List Action}
    {query : Query (Except Misconfiguration (Dict String))} {now : Moment}
    (course : Course o settings clock n t (d.withHeaders now action rest query) v) :
    ∃ m now', Course o settings clock m (o.ask t query).2
      (d.withHeaders now' action rest (.done (o.ask t query).1)) v := by
  induction query generalizing d n t now v with
  | done result => exact ⟨n,now,course⟩
  | ask space name next ih =>
    obtain ⟨w,onward,rfl⟩ := course.of_goesTo fun _ => rfl
    obtain ⟨m,now',later⟩ := ih _ onward
    rw [withHeaders_stage] at later
    exact ⟨m,now',later⟩

/-- The actions of a dispatch are performed, and what comes of them is recorded. -/
theorem Course.of_perform {actions : List Action} {now : Moment}
    (course : Course o settings clock n t (d.perform now actions) v) :
    ∃ calls outcome t' m now' w, Performs o d.rule d.event t actions calls outcome t' ∧
      Course o settings clock m t' (d.record now' outcome) w ∧ v = { w with calls := calls ++ w.calls } := by
  induction actions generalizing d n t now v with
  | nil => exact ⟨[],.ok (),t,n,now,v,.all (.none t),course,rfl⟩
  | cons action rest ih =>
    obtain ⟨m,now',course⟩ := course.of_withHeaders
    cases resolved : (o.ask t (resolveHeaders d.rule.space action.headers)).1 with
    | error cause =>
      rw [resolved] at course
      have stops : Performs o d.rule d.event t ([] ++ action :: rest) [] (.error (.config cause)) _ :=
        .unresolved (.none t) resolved
      exact ⟨[],_,_,m,now',v,stops,course,rfl⟩
    | ok headers =>
      rw [resolved] at course
      obtain ⟨w,onward,rfl⟩ := course.of_goesTo fun _ => rfl
      change Course o settings clock (m + 1)
        (o.run ⟨action,d.event.object,d.rule.space,headers⟩ (o.ask t (resolveHeaders d.rule.space action.headers)).2).2
        (afterRunning _ _ rest (o.run ⟨action,d.event.object,d.rule.space,headers⟩
          (o.ask t (resolveHeaders d.rule.space action.headers)).2).1) w at onward
      cases ran : (o.run ⟨action,d.event.object,d.rule.space,headers⟩
          (o.ask t (resolveHeaders d.rule.space action.headers)).2).1 with
      | error fault =>
        rw [ran] at onward
        have stops : Performs o d.rule d.event t ([] ++ action :: rest) _ (.error fault) _ :=
          .failed (.none t) resolved ran
        exact ⟨_,_,_,m + 1,clock m,w,stops,onward,rfl⟩
      | ok _ =>
        rw [ran] at onward
        obtain ⟨calls,outcome,t',m',now',w,performs,records,rfl⟩ := ih onward
        exact ⟨_,outcome,t',m',now',w,performs.after_next resolved ran,records,rfl⟩

end

end Dispatch

/-! ## What is recorded -/

/-- A recording that ends well has written a status that was accepted. -/
theorem Recording.Course.accepted {τ : Type} {o : Outside τ} {settings : EngineSettings} {clock : Nat → Moment}
    {n : Nat} {t : τ} {id : RuleId} {execution : Execution} {outcome : RuleStatus.Outcome} {k : Nat} {f : Filed τ}
    (course : Course o settings clock n t ⟨id,execution,outcome,k,.reading⟩ f) (well : f.result = .ok ()) :
    ∃ latest now before given, given = extended { rule := id, execution, outcome } latest now ∧
      (o.store given before).1 = .ok () ∧ f.after = (o.store given before).2 := by
  rcases course.of_reading with ⟨fault,_,rfl⟩ | ⟨latest,_,_,writes,rfl⟩
  · cases well
  rcases writes.of_writing with ⟨result,rfl,ends⟩ | ⟨fault,_,_,_,left,pauses,rfl⟩
  · cases well
    have stored := @stored_of_resume settings (clock n) ⟨id,execution,outcome,k,.writing _⟩ _ ends
    exact ⟨latest,_,_,_,rfl,stored,rfl⟩
  · obtain ⟨_,later,rfl⟩ := pauses.of_pausing
    have accepted := Course.accepted later well
    exact accepted
termination_by budget settings - k

namespace RuleStatus

/-- Whether a status tells how a dispatch of an event ended, wherever it tells that, and has the record of the event. -/
structure Reports (s : RuleStatus) (event : Event) (outcome : Outcome) : Prop where
  agrees : ∃ c, s.ready? = some c ∧ c.Agrees s.lastError? outcome
  recorded : s.hasExecuted event.object.identity event.kind = true

/-- Whether a status keeps an event of its kind and object from being run: a dispatch to a rule that has the status ends
at once, and one to another copy ends without a call when the rule is read. -/
def Settles {τ : Type} (s : RuleStatus) (o : Outside τ) (settings : EngineSettings) (event : Event) : Prop :=
  ∀ rule again, rule.status? = some s → again.object.identity = event.object.identity → again.kind = event.kind →
    (∀ registry, Dispatch.start registry rule again = (registry, .finished (.ok ()))) ∧
      ∀ clock n t copy v, (o.read t).1 = .ok rule →
        Dispatch.Course o settings clock n t { rule := copy, event := again } v → v.calls = [] ∧ v.result = .ok ()

theorem Reports.settles {τ : Type} {s : RuleStatus} {event : Event} {outcome : Outcome}
    (reports : s.Reports event outcome) (o : Outside τ) (settings : EngineSettings) : s.Settles o settings event := by
  intro rule again status object kind
  have executed : rule.hasExecuted again.object.identity again.kind = true := by
    simp [Rule.hasExecuted,status,object,kind,reports.recorded]
  refine ⟨fun registry => by simp [Dispatch.start,executed],fun clock n t copy v read course => ?_⟩
  have finishes :
      Dispatch.Finishes settings (clock n) { rule := copy, event := again } (o.read t).1 false (.ok ()) := by
    intro registry
    change Dispatch.afterConfirming _ _ registry (o.read t).1 = _
    simp [Dispatch.afterConfirming,read,executed,Dispatch.release,Registry.leave]
  cases course with
  | goes goes => exact (finishes.not_goesTo goes).elim
  | ended ends =>
    obtain ⟨rfl,rfl⟩ := finishes.unique ends
    exact ⟨rfl,rfl⟩

end RuleStatus

/-- The status of a recording says how the dispatch ended, and has the record. -/
theorem Recording.extended_reports (r : Recording) (event : Event) (object : r.execution.object = event.object.identity)
    (kind : r.execution.event = event.kind) (latest : Rule) (now : Timestamp) :
    ∃ s, (r.extended latest now).status? = some s ∧ s.Reports event r.outcome := by
  refine ⟨_,rfl,RuleStatus.agrees_record _ ⟨r.execution,r.outcome,latest.metadata.generation?,now⟩,?_⟩
  have executed := (r.extended_appends latest now).hasExecuted
  rw [object,kind] at executed
  exact executed

namespace Dispatch

/-- Take a dispatch that claims its execution and reads a rule that has no record of it, whatever it is answered then.
It ends. It runs the actions that run once, in their order, up to the first whose headers cannot be resolved or whose
call fails, and records what came of them. If the record cannot be stored, it ends as the recording did. If it is
stored, the dispatch ends as its actions did, and so says the status, which keeps the event from being run again. -/
theorem completes {τ : Type} (o : Outside τ) (settings : EngineSettings) (clock : Nat → Moment) (n : Nat) (t : τ)
    {registry registry' : Registry} {rule fresh : Rule} {event : Event} {d : Dispatch}
    (claims : start registry rule event = (registry',.waiting d)) (read : (o.read t).1 = .ok fresh)
    (new : fresh.hasExecuted event.object.identity event.kind = false) :
    (∃ v, Course o settings clock n t d v) ∧ ∀ v, Course o settings clock n t d v →
      v.calls.map (·.action) <+: immediate rule ∧
      ∃ outcome t' m now filed,
        Performs o rule event (o.read t).2 (immediate rule) v.calls outcome t' ∧
        Recording.Course o settings clock m t'
          { rule := rule.id, execution := ⟨event.object.identity,event.kind,now⟩, outcome } filed ∧
        v.after = filed.after ∧
        (∀ fault, filed.result = .error fault → v.result = .error fault ∧ v.kept = true) ∧
        (filed.result = .ok () → v.result = outcome ∧ v.kept = false ∧
          ∃ given s, given.status? = some s ∧ s.Reports event outcome ∧ s.Settles o settings event ∧
            (∃ before, (o.store given before).1 = .ok () ∧ v.after = (o.store given before).2) ∧
            (o.Keeps → ∃ stored, o.stored? v.after = some stored ∧ stored.status? = some s)) := by
  obtain ⟨rfl,_,_⟩ := start_waiting claims
  refine ⟨terminates o settings clock rule event n t,fun v course => ?_⟩
  have confirmed : GoesTo settings (clock n) { rule, event } (o.read t).1
      (perform { rule, event } (clock n) (immediate rule)) := by
    intro registry
    change afterConfirming _ _ registry (o.read t).1 = _
    simp [afterConfirming,read,new]
  obtain ⟨w,onward,rfl⟩ := course.of_goesTo confirmed
  obtain ⟨calls,outcome,t',m,now,w,performs,records,rfl⟩ := onward.of_perform
  obtain ⟨filed,recording,rfl⟩ := records.recording
  -- the recording adds no call
  have run : Performs o rule event (o.read t).2 (immediate rule) (calls ++ []) outcome t' := by
    rw [List.append_nil]
    exact performs
  refine ⟨run.actions,outcome,t',m,_,filed,run,recording,rfl,fun fault fails => ?_,fun well => ?_⟩
  · exact ⟨by rw [fails]; rfl,by rw [fails]; rfl⟩
  obtain ⟨latest,written,before,given,rfl,accepted,after⟩ := recording.accepted well
  obtain ⟨s,status,reports⟩ := Recording.extended_reports
    { rule := rule.id, execution := ⟨event.object.identity,event.kind,_⟩, outcome } event rfl rfl latest written
  refine ⟨by rw [well]; rfl,by rw [well]; rfl,_,s,status,reports,reports.settles o settings,⟨before,accepted,after⟩,
    fun keeps => ?_⟩
  obtain ⟨stored,held,same⟩ := keeps _ _ accepted
  exact ⟨stored,by rw [← held]; exact congrArg o.stored? after,same.trans status⟩

end Dispatch

namespace Sample

theorem bench_keeps : bench.Keeps := by
  intro given t accepted
  simp only [bench] at accepted ⊢
  split at accepted
  next same => exact ⟨_,rfl,by simp [same]⟩
  · cases accepted

/-- A rule with three actions to run once, the second of which fails, and with one to run again and again. -/
def mixedRule : Rule where
  metadata := onceRule.metadata
  spec :=
    { onceRule.spec with
      actions :=
        [{ url := "http://hook/once" }, { url := "http://hook/beat", mode := .interval, schedule? := some "10s" },
          { url := "http://hook/down" }, { url := "http://hook/later" }] }

/-- The first and the second action to run once are run, and the fault of the second one is returned and stored. The
rule is not run again for the event. -/
theorem completes_mixed : ∃ registry d v stored s,
    Dispatch.start {} mixedRule event = (registry,.waiting d) ∧
    mixedRule.hasExecuted event.object.identity event.kind = false ∧
    Dispatch.Course bench {} (fun _ => moment) 0 mixedRule d v ∧
    v.calls.map (·.action.url) = ["http://hook/once","http://hook/down"] ∧ v.result = .error (.status 500 "") ∧
    bench.stored? v.after = some stored ∧ stored.status? = some s ∧ s.Reports event (.error (.status 500 "")) ∧
    Dispatch.start {} stored event = ({},.finished (.ok ())) := by
  have claims : Dispatch.start {} mixedRule event =
      ((({} : Registry).claim (Dispatch.claimFor mixedRule event)).1,.waiting { rule := mixedRule, event }) := rfl
  have new : mixedRule.hasExecuted event.object.identity event.kind = false := rfl
  obtain ⟨v,course,calls,failed,released⟩ : ∃ v,
      Dispatch.Course bench {} (fun _ => moment) 0 mixedRule { rule := mixedRule, event } v ∧
      v.calls.map (·.action.url) = ["http://hook/once","http://hook/down"] ∧ v.result = .error (.status 500 "") ∧
      v.kept = false :=
    ⟨_,.goes (fun _ => rfl) (.goes (fun _ => rfl) (.goes (fun _ => rfl) (.goes (fun _ => rfl) (.ended fun _ => rfl)))),
      rfl,rfl,rfl⟩
  obtain ⟨_,each⟩ := Dispatch.completes bench {} (fun _ => moment) 0 mixedRule claims rfl new
  obtain ⟨_,outcome,_,_,_,filed,_,_,_,fails,stores⟩ := each v course
  cases recorded : filed.result with
  | error fault =>
    cases released.symm.trans (fails fault recorded).2
  | ok _ =>
    obtain ⟨same,_,_,s,_,reports,settles,_,keeps⟩ := stores recorded
    obtain ⟨stored,held,status⟩ := keeps bench_keeps
    rw [← same,failed] at reports
    exact ⟨_,_,v,stored,s,claims,new,course,calls,failed,held,status,reports,(settles stored event status rfl rfl).1 {}⟩

end Sample
end Callout
