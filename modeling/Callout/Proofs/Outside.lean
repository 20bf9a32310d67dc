import Callout.Engine.Dispatch
import Callout.Proofs.Timeless

/-!
One dispatch, alone with what stands outside for its rule: a store, secrets and an executor, whose answers may depend
on all that they were asked before (`Outside`). A dispatch comes to its end whatever the clock shows
(`Dispatch.terminates`). It calls, claims and returns the same at any time, and what is stored is the same but for
the times in it (`Dispatch.Course.alike`).
-/
namespace Callout

/-- What stands outside for one rule, by its states: the store of the rule, the secrets, and the executor. -/
structure Outside (τ : Type) where
  /-- The rule as it is stored. -/
  stored? : τ → Option Rule
  read : τ → Except Fault Rule × τ
  store : Rule → τ → Except Fault Unit × τ
  secret : String → String → τ → Except Fault SecretData × τ
  run : Call → τ → Except Fault Unit × τ

namespace Outside
variable {τ : Type}

/-- What a recording is answered, and the state after it. -/
def answerRecording (o : Outside τ) (t : τ) : (r : Recording) → r.demand.Answer × τ
  | ⟨_, _, _, _, .reading⟩ => o.read t
  | ⟨_, _, _, _, .writing given⟩ => o.store given t
  | ⟨_, _, _, _, .pausing _⟩ => ((), t)

/-- What a dispatch is answered, and the state after it. -/
def answer (o : Outside τ) (t : τ) : (d : Dispatch) → d.demand.Answer × τ
  | ⟨_, _, .confirming⟩ => o.read t
  | ⟨_, _, .reading _ _ space name _⟩ => o.secret space name t
  | ⟨_, _, .running call _⟩ => o.run call t
  | ⟨_, _, .recording recording⟩ => o.answerRecording t recording

/-- A read gives the rule that is stored, and changes nothing about it. -/
structure Steadfast (o : Outside τ) : Prop where
  fresh : ∀ t rule, (o.read t).1 = .ok rule → o.stored? t = some rule
  kept : ∀ t, o.stored? (o.read t).2 = o.stored? t

/-- Nothing depends on the times in a rule: states that are the same but for those give answers that are. -/
structure Timeless (o : Outside τ) (Same : τ → τ → Prop) : Prop where
  refl : ∀ t, Same t t
  stored : ∀ {t t'}, Same t t' → (o.stored? t).map Rule.timeless = (o.stored? t').map Rule.timeless
  read : ∀ {t t'}, Same t t' →
    (o.read t).1.map Rule.timeless = (o.read t').1.map Rule.timeless ∧ Same (o.read t).2 (o.read t').2
  store : ∀ {given given' t t'}, given.timeless = given'.timeless → Same t t' →
    (o.store given t).1 = (o.store given' t').1 ∧ Same (o.store given t).2 (o.store given' t').2
  secret : ∀ space name {t t'}, Same t t' →
    (o.secret space name t).1 = (o.secret space name t').1 ∧ Same (o.secret space name t).2 (o.secret space name t').2
  run : ∀ call {t t'}, Same t t' →
    (o.run call t).1 = (o.run call t').1 ∧ Same (o.run call t).2 (o.run call t').2

end Outside

/-! ## Courses -/

/-- The registry after a dispatch has ended: its claim is kept or given up. -/
def Registry.leave (r : Registry) (kept : Bool) (key : ClaimKey) : Registry := if kept then r else (r.release key).1

/-- What comes of a rule: when, the state outside, the calls, whether a claim is kept, and the result. -/
structure Verdict (τ : Type) where
  time : Nat
  after : τ
  calls : List Call
  kept : Bool
  result : Except Fault Unit

/-- The call that a dispatch waits for. -/
def Dispatch.call? (d : Dispatch) : Option Call :=
  match d.stage with
  | .running call _ => some call
  | .confirming | .reading _ _ _ _ _ | .recording _ => none

/-- How a step of a dispatch ends, or goes on, in any registry. -/
def Dispatch.Finishes (settings : EngineSettings) (now : Moment) (d : Dispatch) (answer : d.demand.Answer)
    (kept : Bool) (result : Except Fault Unit) : Prop :=
  ∀ registry, d.resume settings now registry answer = (registry.leave kept d.claim,.finished result)

def Dispatch.GoesTo (settings : EngineSettings) (now : Moment) (d : Dispatch) (answer : d.demand.Answer)
    (d' : Dispatch) : Prop :=
  ∀ registry, d.resume settings now registry answer = (registry,.waiting d')

/-- A dispatch from some time on, with the clock, to its end. -/
inductive Dispatch.Course {τ : Type} (o : Outside τ) (settings : EngineSettings) (clock : Nat → Moment) :
    Nat → τ → Dispatch → Verdict τ → Prop where
  | ended {n : Nat} {t : τ} {d : Dispatch} {kept : Bool} {result : Except Fault Unit}
      (finishes : d.Finishes settings (clock n) (o.answer t d).1 kept result) :
      Course o settings clock n t d ⟨n + 1, (o.answer t d).2, d.call?.toList, kept, result⟩
  | goes {n : Nat} {t : τ} {d d' : Dispatch} {v : Verdict τ} (goes : d.GoesTo settings (clock n) (o.answer t d).1 d')
      (onward : Course o settings clock (n + 1) (o.answer t d).2 d' v) :
      Course o settings clock n t d { v with calls := d.call?.toList ++ v.calls }

namespace Dispatch
variable {τ : Type} {o : Outside τ} {settings : EngineSettings} {clock clock' : Nat → Moment}

/-! ## Every dispatch ends -/

/-- Whether a dispatch comes to its end from any time and state on. -/
def Terminates (o : Outside τ) (settings : EngineSettings) (clock : Nat → Moment) (d : Dispatch) : Prop :=
  ∀ n t, ∃ v, Course o settings clock n t d v

theorem terminates_of_step {d : Dispatch}
    (steps : ∀ now answer, (∃ kept result, d.Finishes settings now answer kept result) ∨
      ∃ d', d.GoesTo settings now answer d' ∧ Terminates o settings clock d') : Terminates o settings clock d := by
  intro n t
  rcases steps (clock n) (o.answer t d).1 with ⟨kept,result,finishes⟩ | ⟨d',goes,onward⟩
  · exact ⟨_,.ended finishes⟩
  · obtain ⟨v,course⟩ := onward (n + 1) (o.answer t d).2
    exact ⟨_,.goes goes course⟩

section
variable (rule : Rule) (event : Event) (id : RuleId) (execution : Execution) (outcome : RuleStatus.Outcome)

/-- A recording that writes gives up, or is paused and tries again. -/
theorem terminates_writing {attempt : Nat} (given : Rule)
    (later : attempt < Recording.budget settings →
      Terminates o settings clock ⟨rule,event,.recording ⟨id,execution,outcome,attempt + 1,.reading⟩⟩) :
    Terminates o settings clock ⟨rule,event,.recording ⟨id,execution,outcome,attempt,.writing given⟩⟩ := by
  refine terminates_of_step fun now answer => ?_
  change Except Fault Unit at answer
  cases answer with
  | ok stored => exact .inl ⟨false,outcome,fun _ => rfl⟩
  | error fault =>
    cases conflict : fault.isConflict with
    | false =>
      refine .inl ⟨true,.error fault,fun registry => ?_⟩
      change withRecording _ registry _ (Recording.afterWriting settings _ (.error fault)) = _
      simp [Recording.afterWriting,conflict,withRecording,Registry.leave]
    | true =>
      by_cases spent : attempt ≥ Recording.budget settings
      · refine .inl ⟨true,.error (Recording.conflicting ⟨id,execution,outcome,attempt,.writing given⟩),
          fun registry => ?_⟩
        change withRecording _ registry _ (Recording.afterWriting settings _ (.error fault)) = _
        simp [Recording.afterWriting,conflict,spent,withRecording,Registry.leave]
      · refine .inr ⟨⟨rule,event,.recording
          ⟨id,execution,outcome,attempt,.pausing ⟨settings.statusRetryBase.nanos * attempt⟩⟩⟩,fun registry => ?_,?_⟩
        · change withRecording _ registry _ (Recording.afterWriting settings _ (.error fault)) = _
          simp [Recording.afterWriting,conflict,spent,withRecording]
        · exact terminates_of_step fun _ _ => .inr ⟨_,fun _ => rfl,later (by omega)⟩

theorem terminates_reading {attempt : Nat}
    (writes : ∀ given, Terminates o settings clock
      ⟨rule,event,.recording ⟨id,execution,outcome,attempt,.writing given⟩⟩) :
    Terminates o settings clock ⟨rule,event,.recording ⟨id,execution,outcome,attempt,.reading⟩⟩ := by
  refine terminates_of_step fun now answer => ?_
  change Except Fault Rule at answer
  cases answer with
  | error fault => exact .inl ⟨true,.error fault,fun _ => rfl⟩
  | ok latest => exact .inr ⟨_,fun _ => rfl,writes _⟩

/-- A recording ends since its attempts are bounded. -/
theorem terminates_recording (attempt : Nat) :
    Terminates o settings clock ⟨rule,event,.recording ⟨id,execution,outcome,attempt,.reading⟩⟩ := by
  generalize left : Recording.budget settings - attempt = more
  induction more generalizing attempt with
  | zero =>
    refine terminates_reading rule event id execution outcome fun given => ?_
    exact terminates_writing rule event id execution outcome given fun later => by omega
  | succ more ih =>
    refine terminates_reading rule event id execution outcome fun given => ?_
    exact terminates_writing rule event id execution outcome given fun _ => ih (attempt + 1) (by omega)

end

theorem terminates_record (d : Dispatch) (now : Moment) (outcome : RuleStatus.Outcome) :
    Terminates o settings clock (d.record now outcome) :=
  terminates_recording _ _ _ _ _ 1

/-- The actions of a dispatch end one after the other, each after the secrets of its headers were read. -/
theorem terminates_perform (d : Dispatch) (now : Moment) (actions : List Action) :
    Terminates o settings clock (d.perform now actions) := by
  induction actions generalizing d now with
  | nil => exact d.terminates_record now _
  | cons action rest ih =>
    rw [perform]
    generalize resolveHeaders d.rule.space action.headers = query
    induction query generalizing d now with
    | done headers =>
      cases headers with
      | error cause => exact d.terminates_record now _
      | ok headers =>
        refine terminates_of_step fun now answer => .inr ⟨_,fun _ => rfl,?_⟩
        change Except Fault Unit at answer
        cases answer with
        | ok _ => exact ih _ now
        | error fault => exact terminates_record _ now _
    | ask space name next more =>
      exact terminates_of_step fun now answer =>
        .inr ⟨_,fun _ => rfl,more answer ⟨d.rule,d.event,.reading action rest space name next⟩ now⟩

/-- A dispatch ends, whatever it is answered and whatever the clock shows. -/
theorem terminates (o : Outside τ) (settings : EngineSettings) (clock : Nat → Moment) (rule : Rule) (event : Event) :
    Terminates o settings clock { rule, event } := by
  refine terminates_of_step fun now answer => ?_
  change Except Fault Rule at answer
  cases answer with
  | error fault => exact .inl ⟨false,_,fun _ => rfl⟩
  | ok fresh =>
    cases executed : fresh.hasExecuted event.object.identity event.kind with
    | true =>
      refine .inl ⟨false,.ok (),fun registry => ?_⟩
      change afterConfirming _ now registry (.ok fresh) = _
      simp [afterConfirming,executed,release,Registry.leave]
    | false =>
      refine .inr ⟨perform { rule, event } now (immediate rule),fun registry => ?_,terminates_perform _ now _⟩
      change afterConfirming _ now registry (.ok fresh) = _
      simp [afterConfirming,executed]

end Dispatch

/-! ## The times of a course do not matter -/

/-- Two stages that differ in times at most. -/
inductive Recording.Stage.Alike : Recording.Stage → Recording.Stage → Prop where
  | same (stage : Recording.Stage) : Alike stage stage
  | writing {given given' : Rule} (same : given.timeless = given'.timeless) : Alike (.writing given) (.writing given')

/-- Two recordings that differ in times at most. -/
structure Recording.Alike (r r' : Recording) : Prop where
  rule : r.rule = r'.rule
  execution : r.execution.timeless = r'.execution.timeless
  outcome : r.outcome = r'.outcome
  attempt : r.attempt = r'.attempt
  stage : r.stage.Alike r'.stage

inductive Dispatch.Stage.Alike : Dispatch.Stage → Dispatch.Stage → Prop where
  | same (stage : Dispatch.Stage) : Alike stage stage
  | recording {r r' : Recording} (alike : r.Alike r') : Alike (.recording r) (.recording r')

/-- Two dispatches that differ in times at most. -/
structure Dispatch.Alike (d d' : Dispatch) : Prop where
  rule : d.rule = d'.rule
  event : d.event = d'.event
  stage : d.stage.Alike d'.stage

/-- Two verdicts that differ at most in when they were reached, and in times that are stored. -/
structure Verdict.Alike {τ : Type} (Same : τ → τ → Prop) (v v' : Verdict τ) : Prop where
  after : Same v.after v'.after
  calls : v.calls = v'.calls
  kept : v.kept = v'.kept
  result : v.result = v'.result

/-- The results of one step that differ in times at most. -/
inductive Dispatch.Results (settings : EngineSettings) (now now' : Moment) (d d' : Dispatch)
    (answer : d.demand.Answer) (answer' : d'.demand.Answer) : Prop where
  | finish (kept : Bool) (result : Except Fault Unit) (first : d.Finishes settings now answer kept result)
      (second : d'.Finishes settings now' answer' kept result) : Results settings now now' d d' answer answer'
  | goOn {e e' : Dispatch} (first : d.GoesTo settings now answer e) (second : d'.GoesTo settings now' answer' e')
      (alike : e.Alike e') : Results settings now now' d d' answer answer'

namespace Dispatch
variable {τ : Type} {o : Outside τ} {Same : τ → τ → Prop} {settings : EngineSettings}

theorem record_alike (d : Dispatch) (now now' : Moment) (outcome : RuleStatus.Outcome) :
    (d.record now outcome).Alike (d.record now' outcome) :=
  ⟨rfl,rfl,.recording ⟨rfl,rfl,rfl,rfl,.same _⟩⟩

theorem withHeaders_alike (d : Dispatch) (now now' : Moment) (action : Action) (rest : List Action)
    (query : Query (Except Misconfiguration (Dict String))) :
    (d.withHeaders now action rest query).Alike (d.withHeaders now' action rest query) := by
  cases query with
  | ask space name next => exact ⟨rfl,rfl,.same _⟩
  | done headers =>
    cases headers with
    | error cause => exact d.record_alike now now' _
    | ok headers => exact ⟨rfl,rfl,.same _⟩

theorem perform_alike (d : Dispatch) (now now' : Moment) (actions : List Action) :
    (d.perform now actions).Alike (d.perform now' actions) := by
  cases actions with
  | nil => exact d.record_alike now now' _
  | cons action rest => exact d.withHeaders_alike now now' action rest _

/-- Reads that are the same but for times, one by one. -/
theorem read_cases {read read' : Except Fault Rule} (same : read.map Rule.timeless = read'.map Rule.timeless) :
    (∃ fault, read = .error fault ∧ read' = .error fault) ∨
      ∃ rule rule', read = .ok rule ∧ read' = .ok rule' ∧ rule.timeless = rule'.timeless := by
  cases read with
  | error fault =>
    cases read' with
    | error fault' =>
      cases same
      exact .inl ⟨fault,rfl,rfl⟩
    | ok rule' => cases same
  | ok rule =>
    cases read' with
    | error fault' => cases same
    | ok rule' =>
      simp only [Except.map,Except.ok.injEq] at same
      exact .inr ⟨rule,rule',rfl,rfl,same⟩

/-- What a write is answered, the recording goes on or ends alike. -/
theorem results_writing (rule : Rule) (event : Event) {r r' : Recording} (alike : r.Alike r') {given given' : Rule}
    (now now' : Moment) (answer : Except Fault Unit) :
    Results settings now now' ⟨rule,event,.recording { r with stage := .writing given }⟩
      ⟨rule,event,.recording { r' with stage := .writing given' }⟩ answer answer := by
  obtain ⟨id,execution,outcome,attempt,stage⟩ := r
  obtain ⟨id',execution',outcome',attempt',stage'⟩ := r'
  obtain ⟨⟨⟩,executions,⟨⟩,⟨⟩,stages⟩ := alike
  cases answer with
  | ok stored => exact .finish false outcome (fun _ => rfl) (fun _ => rfl)
  | error fault =>
    cases conflict : fault.isConflict with
    | false =>
      refine .finish true (.error fault) (fun registry => ?_) (fun registry => ?_)
      · change withRecording _ registry _ (Recording.afterWriting settings _ (.error fault)) = _
        simp [Recording.afterWriting,conflict,withRecording,Registry.leave]
      · change withRecording _ registry _ (Recording.afterWriting settings _ (.error fault)) = _
        simp [Recording.afterWriting,conflict,withRecording,Registry.leave]
    | true =>
      by_cases spent : attempt ≥ Recording.budget settings
      · refine .finish true (.error (Recording.conflicting ⟨id,execution,outcome,attempt,.writing given⟩))
          (fun registry => ?_) (fun registry => ?_)
        · change withRecording _ registry _ (Recording.afterWriting settings _ (.error fault)) = _
          simp [Recording.afterWriting,conflict,spent,withRecording,Registry.leave]
        · change withRecording _ registry _ (Recording.afterWriting settings _ (.error fault)) = _
          simp [Recording.afterWriting,conflict,spent,withRecording,Registry.leave,Recording.conflicting]
      · let pause : Recording.Stage := .pausing ⟨settings.statusRetryBase.nanos * attempt⟩
        have paused : Dispatch.Alike ⟨rule,event,.recording ⟨id,execution,outcome,attempt,pause⟩⟩
            ⟨rule,event,.recording ⟨id,execution',outcome,attempt,pause⟩⟩ :=
          ⟨rfl,rfl,.recording ⟨rfl,executions,rfl,rfl,.same _⟩⟩
        refine .goOn (fun registry => ?_) (fun registry => ?_) paused
        · change withRecording _ registry _ (Recording.afterWriting settings _ (.error fault)) = _
          simp [Recording.afterWriting,conflict,spent,withRecording,pause]
        · change withRecording _ registry _ (Recording.afterWriting settings _ (.error fault)) = _
          simp [Recording.afterWriting,conflict,spent,withRecording,pause]

/-- What the first read of a dispatch is answered, it goes on or ends alike. -/
theorem results_confirming (rule : Rule) (event : Event) {read read' : Except Fault Rule}
    (reads : read.map Rule.timeless = read'.map Rule.timeless) (now now' : Moment) :
    Results settings now now' ⟨rule,event,.confirming⟩ ⟨rule,event,.confirming⟩ read read' := by
  rcases read_cases reads with ⟨fault,rfl,rfl⟩ | ⟨fresh,fresh',rfl,rfl,same⟩
  · exact .finish false _ (fun _ => rfl) (fun _ => rfl)
  · have recorded := Rule.hasExecuted_of_timeless same event.object.identity event.kind
    cases executed : fresh'.hasExecuted event.object.identity event.kind with
    | true =>
      rw [executed] at recorded
      refine .finish false (.ok ()) (fun registry => ?_) (fun registry => ?_)
      · change afterConfirming _ now registry (.ok fresh) = _
        simp [afterConfirming,recorded,release,Registry.leave]
      · change afterConfirming _ now' registry (.ok fresh') = _
        simp [afterConfirming,executed,release,Registry.leave]
    | false =>
      rw [executed] at recorded
      refine .goOn (fun registry => ?_) (fun registry => ?_)
        (perform_alike ⟨rule,event,.confirming⟩ now now' (immediate rule))
      · change afterConfirming _ now registry (.ok fresh) = _
        simp [afterConfirming,recorded]
      · change afterConfirming _ now' registry (.ok fresh') = _
        simp [afterConfirming,executed]

/-- One step of recordings that are alike, in states that are. -/
theorem results_recording (timeless : o.Timeless Same) (rule : Rule) (event : Event) {r r' : Recording}
    (alike : r.Alike r') {t t' : τ} (same : Same t t') (now now' : Moment) :
    Results settings now now' ⟨rule,event,.recording r⟩ ⟨rule,event,.recording r'⟩
        (o.answerRecording t r).1 (o.answerRecording t' r').1 ∧
      Same (o.answerRecording t r).2 (o.answerRecording t' r').2 := by
  have writes {given given' : Rule} (given_same : given.timeless = given'.timeless) :
      Results settings now now' ⟨rule,event,.recording { r with stage := .writing given }⟩
          ⟨rule,event,.recording { r' with stage := .writing given' }⟩ (o.store given t).1 (o.store given' t').1 ∧
        Same (o.store given t).2 (o.store given' t').2 := by
    obtain ⟨answers,states⟩ := timeless.store given_same same
    rw [answers]
    exact ⟨results_writing rule event alike now now' _,states⟩
  obtain ⟨id,execution,outcome,attempt,stage⟩ := r
  obtain ⟨id',execution',outcome',attempt',stage'⟩ := r'
  obtain ⟨⟨⟩,executions,⟨⟩,⟨⟩,stages⟩ := alike
  cases stages with
  | writing given_same => exact writes given_same
  | same =>
    cases stage with
    | writing given => exact writes rfl
    | pausing span =>
      exact ⟨.goOn (fun _ => rfl) (fun _ => rfl) ⟨rfl,rfl,.recording ⟨rfl,executions,rfl,rfl,.same _⟩⟩,same⟩
    | reading =>
      obtain ⟨reads,states⟩ := timeless.read same
      refine ⟨?_,states⟩
      change Results settings now now' ⟨rule,event,.recording ⟨id,execution,outcome,attempt,.reading⟩⟩
        ⟨rule,event,.recording ⟨id,execution',outcome,attempt,.reading⟩⟩ (o.read t).1 (o.read t').1
      rcases read_cases reads with ⟨fault,read,read'⟩ | ⟨latest,latest',read,read',same⟩
      · rw [read,read']
        exact .finish true (.error fault) (fun _ => rfl) (fun _ => rfl)
      · rw [read,read']
        refine .goOn (fun _ => rfl) (fun _ => rfl) ⟨rfl,rfl,.recording ⟨rfl,executions,rfl,rfl,.writing ?_⟩⟩
        exact Recording.extended_timeless executions rfl same _ _

/-- One step of dispatches that are alike, in states that are. -/
theorem Alike.step (settings : EngineSettings) (timeless : o.Timeless Same) {d d' : Dispatch}
    (alike : d.Alike d') {t t' : τ} (same : Same t t') (now now' : Moment) :
    Results settings now now' d d' (o.answer t d).1 (o.answer t' d').1 ∧
      Same (o.answer t d).2 (o.answer t' d').2 ∧ d.call? = d'.call? := by
  obtain ⟨rule,event,stage⟩ := d
  obtain ⟨rule',event',stage'⟩ := d'
  obtain ⟨⟨⟩,⟨⟩,stages⟩ := alike
  cases stages with
  | recording alike =>
    obtain ⟨results,states⟩ := results_recording timeless rule event alike same now now'
    exact ⟨results,states,rfl⟩
  | same =>
    cases stage with
    | recording r =>
      have alike : r.Alike r := ⟨rfl,rfl,rfl,rfl,.same _⟩
      obtain ⟨results,states⟩ := results_recording timeless rule event alike same now now'
      exact ⟨results,states,rfl⟩
    | running call rest =>
      obtain ⟨answers,states⟩ := timeless.run call same
      refine ⟨?_,states,rfl⟩
      change Results settings now now' ⟨rule,event,.running call rest⟩ ⟨rule,event,.running call rest⟩
        (o.run call t).1 (o.run call t').1
      rw [answers]
      refine .goOn (fun _ => rfl) (fun _ => rfl) ?_
      cases (o.run call t').1 with
      | ok _ => exact perform_alike _ now now' rest
      | error fault => exact record_alike _ now now' _
    | reading action rest space name next =>
      obtain ⟨answers,states⟩ := timeless.secret space name same
      refine ⟨?_,states,rfl⟩
      change Results settings now now' ⟨rule,event,.reading action rest space name next⟩
        ⟨rule,event,.reading action rest space name next⟩ (o.secret space name t).1 (o.secret space name t').1
      rw [answers]
      exact .goOn (fun _ => rfl) (fun _ => rfl) (withHeaders_alike _ now now' action rest _)
    | confirming =>
      exact ⟨results_confirming rule event (timeless.read same).1 now now',(timeless.read same).2,rfl⟩

/-- What a step comes to is determined. -/
theorem Finishes.unique {now : Moment} {d : Dispatch} {answer : d.demand.Answer} {kept kept' : Bool}
    {result result' : Except Fault Unit} (first : d.Finishes settings now answer kept result)
    (second : d.Finishes settings now answer kept' result') : kept = kept' ∧ result = result' := by
  have same := (first { claims := [d.claim] }).symm.trans (second { claims := [d.claim] })
  simp only [Prod.mk.injEq,Progress.finished.injEq] at same
  refine ⟨?_,same.2⟩
  -- whether the claim was kept is seen in a registry that holds it
  have claims := congrArg Registry.claims same.1
  cases kept <;> cases kept' <;> simp_all [Registry.leave,Registry.release]

theorem GoesTo.unique {now : Moment} {d e e' : Dispatch} {answer : d.demand.Answer}
    (first : d.GoesTo settings now answer e) (second : d.GoesTo settings now answer e') : e = e' := by
  have same := (first {}).symm.trans (second {})
  simpa using same

theorem Finishes.not_goesTo {now : Moment} {d e : Dispatch} {answer : d.demand.Answer} {kept : Bool}
    {result : Except Fault Unit} (finishes : d.Finishes settings now answer kept result)
    (goes : d.GoesTo settings now answer e) : False := by
  have same := (finishes {}).symm.trans (goes {})
  cases congrArg Prod.snd same

/-- Dispatches that are alike, in states that are, come to verdicts that are, whatever the clocks show. -/
theorem Course.alike (timeless : o.Timeless Same) {clock clock' : Nat → Moment} {n n' : Nat} {t t' : τ}
    {d d' : Dispatch} {v v' : Verdict τ} (course : Course o settings clock n t d v)
    (course' : Course o settings clock' n' t' d' v') (alike : d.Alike d') (same : Same t t') : v.Alike Same v' := by
  induction course generalizing n' t' d' v' with
  | @ended n t d kept result finishes =>
    obtain ⟨results,states,calls⟩ := alike.step settings timeless same (clock n) (clock' n')
    cases results with
    | goOn first _ _ => exact (finishes.not_goesTo first).elim
    | finish _ _ first second =>
      obtain ⟨rfl,rfl⟩ := finishes.unique first
      cases course' with
      | goes goes _ => exact (second.not_goesTo goes).elim
      | ended finishes' =>
        obtain ⟨rfl,rfl⟩ := second.unique finishes'
        exact ⟨states,congrArg Option.toList calls,rfl,rfl⟩
  | @goes n t d e v goes _ ih =>
    obtain ⟨results,states,calls⟩ := alike.step settings timeless same (clock n) (clock' n')
    cases results with
    | finish _ _ first _ => exact (first.not_goesTo goes).elim
    | goOn first second alike' =>
      cases goes.unique first
      cases course' with
      | ended finishes' => exact (finishes'.not_goesTo second).elim
      | goes goes' onward' =>
        cases goes'.unique second
        have later := ih onward' alike' states
        exact ⟨later.after,by rw [calls,later.calls],later.kept,later.result⟩

/-- A dispatch to a rule whose stored copy has the record leaves the copy as it is. -/
theorem Course.unchanged (steadfast : o.Steadfast) {clock : Nat → Moment} {n : Nat} {t : τ} {rule : Rule}
    {event : Event} {v : Verdict τ} (course : Course o settings clock n t { rule, event } v) {stored : Rule}
    (now : o.stored? t = some stored)
    (executed : stored.hasExecuted event.object.identity event.kind = true) : o.stored? v.after = o.stored? t := by
  cases course with
  | ended finishes => exact steadfast.kept t
  | goes goes onward =>
    have went := goes {}
    change afterConfirming { rule, event } _ {} (o.read t).1 = _ at went
    cases read : (o.read t).1 with
    | error fault =>
      rw [read] at went
      cases congrArg Prod.snd went
    | ok fresh =>
      cases now.symm.trans (steadfast.fresh t fresh read)
      rw [read,afterConfirming,if_pos executed] at went
      cases congrArg Prod.snd went

end Dispatch
end Callout
