import Callout.Engine.Dispatch

/-!
One step of a dispatch, by its stage and its answer (`Dispatch.Advances`), and of its recording
(`Recording.Advances`). After its actions began, a dispatch goes on with the same rule and event until it records the
execution that it claims (`Dispatch.Continues`). It goes on with the registry as it was (`resume_waiting`). When
it ends, it either gives its claim up, because nothing began or because it was told that the record is stored, or
keeps it, because its actions began and no record is known to be stored (`resume_finished`).
-/
namespace Callout

/-! ## Recordings -/

namespace Recording

/-- The rule that a recording is given to extend its status. -/
def Reads : (r : Recording) → r.demand.Answer → Rule → Prop
  | ⟨_, _, _, _, .reading⟩, answer, latest => answer = Except.ok latest
  | ⟨_, _, _, _, .writing _⟩, _, _ | ⟨_, _, _, _, .pausing _⟩, _, _ => False

/-- The answer to a recording that the status is stored. -/
def Stored : (r : Recording) → r.demand.Answer → Prop
  | ⟨_, _, _, _, .writing _⟩, answer => answer = Except.ok ()
  | ⟨_, _, _, _, .reading⟩, _ | ⟨_, _, _, _, .pausing _⟩, _ => False

/-- What becomes of a recording with an answer. -/
inductive Advances (settings : EngineSettings) (now : Moment) :
    (r : Recording) → r.demand.Answer → Progress Recording (Except Fault Unit) → Prop where
  | read {id : RuleId} {execution : Execution} {outcome : RuleStatus.Outcome} {attempt : Nat} (latest : Rule) :
      Advances settings now ⟨id, execution, outcome, attempt, .reading⟩ (Except.ok latest)
        (.waiting ⟨id, execution, outcome, attempt,
          .writing (extended ⟨id, execution, outcome, attempt, .reading⟩ latest now.wall)⟩)
  | unread {id : RuleId} {execution : Execution} {outcome : RuleStatus.Outcome} {attempt : Nat} (fault : Fault) :
      Advances settings now ⟨id, execution, outcome, attempt, .reading⟩ (Except.error fault)
        (.finished (.error fault))
  | stored {id : RuleId} {execution : Execution} {outcome : RuleStatus.Outcome} {attempt : Nat} {given : Rule} :
      Advances settings now ⟨id, execution, outcome, attempt, .writing given⟩ (Except.ok ()) (.finished (.ok ()))
  | refused {id : RuleId} {execution : Execution} {outcome : RuleStatus.Outcome} {attempt : Nat} {given : Rule}
      {fault : Fault} (other : fault.isConflict = false) :
      Advances settings now ⟨id, execution, outcome, attempt, .writing given⟩ (Except.error fault)
        (.finished (.error fault))
  | spent {id : RuleId} {execution : Execution} {outcome : RuleStatus.Outcome} {attempt : Nat} {given : Rule}
      {fault : Fault} (conflict : fault.isConflict = true) (spent : budget settings ≤ attempt) :
      Advances settings now ⟨id, execution, outcome, attempt, .writing given⟩ (Except.error fault)
        (.finished (.error (conflicting ⟨id, execution, outcome, attempt, .writing given⟩)))
  | conflicted {id : RuleId} {execution : Execution} {outcome : RuleStatus.Outcome} {attempt : Nat} {given : Rule}
      {fault : Fault} (conflict : fault.isConflict = true) (left : attempt < budget settings) :
      Advances settings now ⟨id, execution, outcome, attempt, .writing given⟩ (Except.error fault)
        (.waiting ⟨id, execution, outcome, attempt, .pausing ⟨settings.statusRetryBase.nanos * attempt⟩⟩)
  | rested {id : RuleId} {execution : Execution} {outcome : RuleStatus.Outcome} {attempt : Nat} {span : Span}
      (answer : Unit) :
      Advances settings now ⟨id, execution, outcome, attempt, .pausing span⟩ answer
        (.waiting ⟨id, execution, outcome, attempt + 1, .reading⟩)

theorem resume_advances (settings : EngineSettings) (now : Moment) (r : Recording) (answer : r.demand.Answer) :
    r.Advances settings now answer (r.resume settings now answer) := by
  obtain ⟨id,execution,outcome,attempt,stage⟩ := r
  cases stage with
  | reading =>
    change Except Fault Rule at answer
    cases answer with
    | error fault => exact .unread fault
    | ok latest => exact .read latest
  | writing given =>
    change Except Fault Unit at answer
    cases answer with
    | ok _ => exact .stored
    | error fault =>
      change Advances _ _ _ _ (afterWriting settings ⟨id,execution,outcome,attempt,.writing given⟩ (.error fault))
      cases conflict : fault.isConflict with
      | false =>
        simp only [afterWriting,conflict,Bool.not_false,if_true]
        exact .refused conflict
      | true =>
        by_cases spent : budget settings ≤ attempt
        · simp only [afterWriting,conflict,Bool.not_true,Bool.false_eq_true,if_false,ge_iff_le,spent,if_true]
          exact .spent conflict spent
        · simp only [afterWriting,conflict,Bool.not_true,Bool.false_eq_true,if_false,ge_iff_le,spent]
          exact .conflicted conflict (Nat.lt_of_not_le spent)
  | pausing span => exact .rested answer

/-- What a recording that goes on has done. It stores the rule that it was given, extended. -/
structure GoesOn (r : Recording) (now : Moment) (answer : r.demand.Answer) (r' : Recording) : Prop where
  rule : r'.rule = r.rule
  execution : r'.execution = r.execution
  writes : ∀ given, r'.stage = .writing given →
    ∃ latest, r.Reads answer latest ∧ given = r'.extended latest now.wall

theorem resume_waiting {settings : EngineSettings} {now : Moment} {r r' : Recording} {answer : r.demand.Answer}
    (went : r.resume settings now answer = .waiting r') : r.GoesOn now answer r' := by
  have advances := r.resume_advances settings now answer
  rw [went] at advances
  cases advances with
  | read latest =>
    refine ⟨rfl,rfl,?_⟩
    intro given writing
    cases writing
    exact ⟨latest,rfl,rfl⟩
  | conflicted | rested => exact ⟨rfl,rfl,fun _ writing => by cases writing⟩

/-- A recording that ends well was told that the status is stored. -/
theorem stored_of_resume {settings : EngineSettings} {now : Moment} {r : Recording} {answer : r.demand.Answer}
    (went : r.resume settings now answer = .finished (.ok ())) : r.Stored answer := by
  have advances := r.resume_advances settings now answer
  rw [went] at advances
  cases advances with
  | stored => rfl

end Recording

/-! ## Dispatches -/

namespace Dispatch

/-- Whether the actions of the rule began to run. -/
def HasBegun (d : Dispatch) : Prop :=
  match d.stage with
  | .confirming => False
  | .reading _ _ _ _ _ | .running _ _ | .recording _ => True

instance : (d : Dispatch) → Decidable d.HasBegun
  | ⟨_, _, .confirming⟩ => .isFalse fun no => no
  | ⟨_, _, .reading _ _ _ _ _⟩ | ⟨_, _, .running _ _⟩ | ⟨_, _, .recording _⟩ => .isTrue trivial

/-- Whether the actions of a dispatch can begin with an answer: it goes on, and they have begun then. -/
def LetsBegin (d : Dispatch) (answer : d.demand.Answer) : Prop :=
  ¬d.HasBegun ∧ ∃ (settings : EngineSettings) (now : Moment) (registry registry' : Registry) (d' : Dispatch),
    d.resume settings now registry answer = (registry', .waiting d') ∧ d'.HasBegun

/-- The rule that a dispatch is given to extend its status. -/
def Reads : (d : Dispatch) → d.demand.Answer → Rule → Prop
  | ⟨_, _, .recording recording⟩, answer, latest => recording.Reads answer latest
  | ⟨_, _, .confirming⟩, _, _ | ⟨_, _, .reading _ _ _ _ _⟩, _, _ | ⟨_, _, .running _ _⟩, _, _ => False

/-- The answer to a dispatch that its record is stored. -/
def Stored : (d : Dispatch) → d.demand.Answer → Prop
  | ⟨_, _, .recording recording⟩, answer => recording.Stored answer
  | ⟨_, _, .confirming⟩, _ | ⟨_, _, .reading _ _ _ _ _⟩, _ | ⟨_, _, .running _ _⟩, _ => False

/-- A recording of the execution that a dispatch claims. -/
structure Records (d : Dispatch) (recording : Recording) : Prop where
  rule : recording.rule = d.rule.id
  object : recording.execution.object = d.claim.object
  event : recording.execution.event = d.claim.event

/-- A dispatch that goes on from another one, whose actions began. -/
structure Continues (d d' : Dispatch) : Prop where
  rule : d'.rule = d.rule
  event : d'.event = d.event
  begun : d'.HasBegun
  recording : ∀ recording, d'.stage = .recording recording → recording.stage = .reading ∧ d.Records recording

theorem record_continues (d : Dispatch) (now : Moment) (outcome : RuleStatus.Outcome) :
    d.Continues (d.record now outcome) := by
  refine ⟨rfl,rfl,trivial,?_⟩
  intro recording same
  cases same
  exact ⟨rfl,rfl,rfl,rfl⟩

theorem withHeaders_continues (d : Dispatch) (now : Moment) (action : Action) (rest : List Action)
    (query : Query (Except Misconfiguration (Dict String))) : d.Continues (d.withHeaders now action rest query) := by
  cases query with
  | ask space name next =>
    refine ⟨rfl,rfl,trivial,?_⟩
    intro recording same
    cases same
  | done result =>
    cases result with
    | error cause => exact d.record_continues now _
    | ok headers =>
      refine ⟨rfl,rfl,trivial,?_⟩
      intro recording same
      cases same

theorem perform_continues (d : Dispatch) (now : Moment) (actions : List Action) :
    d.Continues (d.perform now actions) := by
  cases actions with
  | nil => exact d.record_continues now _
  | cons action rest => exact d.withHeaders_continues now action rest _

theorem afterRunning_continues (d : Dispatch) (now : Moment) (rest : List Action) (result : Except Fault Unit) :
    d.Continues (d.afterRunning now rest result) := by
  cases result with
  | ok _ => exact d.perform_continues now rest
  | error fault => exact d.record_continues now _

/-- What becomes of a dispatch with an answer, and of the registry. -/
inductive Advances (settings : EngineSettings) (now : Moment) (registry : Registry) :
    (d : Dispatch) → d.demand.Answer → Outcome → Prop where
  | begins {rule : Rule} {event : Event} {fresh : Rule}
      (unexecuted : fresh.hasExecuted event.object.identity event.kind = false) :
      Advances settings now registry ⟨rule, event, .confirming⟩ (Except.ok fresh)
        (registry, .waiting (perform ⟨rule, event, .confirming⟩ now (immediate rule)))
  | executed {rule : Rule} {event : Event} {fresh : Rule}
      (executed : fresh.hasExecuted event.object.identity event.kind = true) :
      Advances settings now registry ⟨rule, event, .confirming⟩ (Except.ok fresh)
        ((registry.release (claimFor rule event)).1, .finished (.ok ()))
  | unconfirmed {rule : Rule} {event : Event} (fault : Fault) :
      Advances settings now registry ⟨rule, event, .confirming⟩ (Except.error fault)
        ((registry.release (claimFor rule event)).1, .finished (if fault.isNotFound then .ok () else .error fault))
  | read {rule : Rule} {event : Event} {action : Action} {rest : List Action} {space name : String}
      {next : Except Fault SecretData → Query (Except Misconfiguration (Dict String))}
      (answer : Except Fault SecretData) :
      Advances settings now registry ⟨rule, event, .reading action rest space name next⟩ answer
        (registry,
          .waiting (withHeaders ⟨rule, event, .reading action rest space name next⟩ now action rest (next answer)))
  | ran {rule : Rule} {event : Event} {call : Call} {rest : List Action} (answer : Except Fault Unit) :
      Advances settings now registry ⟨rule, event, .running call rest⟩ answer
        (registry, .waiting (afterRunning ⟨rule, event, .running call rest⟩ now rest answer))
  | records {rule : Rule} {event : Event} {recording later : Recording} {answer : recording.demand.Answer}
      (went : recording.resume settings now answer = .waiting later) :
      Advances settings now registry ⟨rule, event, .recording recording⟩ answer
        (registry, .waiting ⟨rule, event, .recording later⟩)
  | recorded {rule : Rule} {event : Event} {recording : Recording} {answer : recording.demand.Answer}
      (went : recording.resume settings now answer = .finished (.ok ())) :
      Advances settings now registry ⟨rule, event, .recording recording⟩ answer
        ((registry.release (claimFor rule event)).1, .finished recording.outcome)
  | unrecorded {rule : Rule} {event : Event} {recording : Recording} {answer : recording.demand.Answer}
      {fault : Fault} (went : recording.resume settings now answer = .finished (.error fault)) :
      Advances settings now registry ⟨rule, event, .recording recording⟩ answer (registry, .finished (.error fault))

theorem resume_advances (settings : EngineSettings) (now : Moment) (registry : Registry) (d : Dispatch)
    (answer : d.demand.Answer) : d.Advances settings now registry answer (d.resume settings now registry answer) := by
  obtain ⟨rule,event,stage⟩ := d
  cases stage with
  | confirming =>
    change Except Fault Rule at answer
    cases answer with
    | error fault => exact .unconfirmed fault
    | ok fresh =>
      change Advances _ _ _ _ _ (afterConfirming ⟨rule,event,.confirming⟩ now registry (.ok fresh))
      cases executed : fresh.hasExecuted event.object.identity event.kind with
      | true =>
        simp only [afterConfirming,executed,if_true]
        exact .executed executed
      | false =>
        simp only [afterConfirming,executed,Bool.false_eq_true,if_false]
        exact .begins executed
  | reading action rest space name next => exact .read answer
  | running call rest => exact .ran answer
  | recording recording =>
    change Advances _ _ _ _ _ (withRecording _ registry _ (recording.resume settings now answer))
    cases went : recording.resume settings now answer with
    | waiting later => exact .records went
    | finished result =>
      cases result with
      | ok _ => exact .recorded went
      | error fault => exact .unrecorded went

/-- What a dispatch that goes on has done. Its actions began, now or before, and what it records stays the same. -/
structure GoesOn (d : Dispatch) (now : Moment) (answer : d.demand.Answer) (d' : Dispatch) : Prop where
  rule : d'.rule = d.rule
  event : d'.event = d.event
  begun : d'.HasBegun
  records : ∀ recording, d'.stage = .recording recording →
    d.Records recording ∨ ∃ earlier, d.stage = .recording earlier ∧ recording.rule = earlier.rule ∧
      recording.execution = earlier.execution
  writes : ∀ recording given, d'.stage = .recording recording → recording.stage = .writing given →
    ∃ latest, d.Reads answer latest ∧ given = recording.extended latest now.wall

theorem Continues.goesOn {d d' : Dispatch} (continues : d.Continues d') {now : Moment} {answer : d.demand.Answer} :
    d.GoesOn now answer d' := by
  refine ⟨continues.rule,continues.event,continues.begun,?_,?_⟩
  · intro recording same
    exact .inl (continues.recording recording same).2
  · intro recording given same writing
    have reading := (continues.recording recording same).1
    rw [writing] at reading
    cases reading

theorem resume_waiting {settings : EngineSettings} {now : Moment} {registry registry' : Registry} {d d' : Dispatch}
    {answer : d.demand.Answer} (went : d.resume settings now registry answer = (registry',.waiting d')) :
    registry' = registry ∧ d.GoesOn now answer d' := by
  have advances := d.resume_advances settings now registry answer
  rw [went] at advances
  cases advances with
  | begins => exact ⟨rfl,(perform_continues _ now _).goesOn⟩
  | read => exact ⟨rfl,(withHeaders_continues _ now _ _ _).goesOn⟩
  | ran => exact ⟨rfl,(afterRunning_continues _ now _ _).goesOn⟩
  | @records rule event recording later answer step =>
    have goes := Recording.resume_waiting step
    refine ⟨rfl,rfl,rfl,trivial,?_,?_⟩
    · intro other same
      cases same
      exact .inr ⟨recording,rfl,goes.rule,goes.execution⟩
    · intro other given same writing
      cases same
      exact goes.writes given writing

/-- Actions only begin when the rule is there and has no record of the event. -/
theorem LetsBegin.confirmed {rule : Rule} {event : Event} {answer : Except Fault Rule}
    (begins : LetsBegin ⟨rule,event,.confirming⟩ answer) :
    ∃ fresh, answer = .ok fresh ∧ fresh.hasExecuted event.object.identity event.kind = false := by
  obtain ⟨_,settings,now,registry,registry',d',went,_⟩ := begins
  have advances := resume_advances settings now registry ⟨rule,event,.confirming⟩ answer
  rw [went] at advances
  cases advances with
  | begins unexecuted => exact ⟨_,rfl,unexecuted⟩

/-- An answer that ends a dispatch does not let its actions begin. -/
theorem not_letsBegin_of_finished {settings : EngineSettings} {now : Moment} {registry registry' : Registry}
    {d : Dispatch} {answer : d.demand.Answer} {result : Except Fault Unit}
    (went : d.resume settings now registry answer = (registry',.finished result)) : ¬d.LetsBegin answer := by
  intro begins
  have advances := d.resume_advances settings now registry answer
  rw [went] at advances
  cases advances with
  | executed executed =>
    obtain ⟨_,⟨⟩,unexecuted⟩ := begins.confirmed
    exact Bool.false_ne_true (unexecuted.symm.trans executed)
  | unconfirmed => obtain ⟨_,⟨⟩,_⟩ := begins.confirmed
  | recorded | unrecorded => exact begins.1 trivial

/-- How a dispatch ends. A claim is given up when nothing began, or when the record is stored. -/
inductive Ends (d : Dispatch) (answer : d.demand.Answer) (claims : List ClaimKey) : List ClaimKey → Prop where
  | unbegun (confirming : ¬d.HasBegun) (refused : ¬d.LetsBegin answer) :
      Ends d answer claims (claims.filter (· ≠ d.claim))
  | recorded (begun : d.HasBegun) (stored : d.Stored answer) : Ends d answer claims (claims.filter (· ≠ d.claim))
  | kept (begun : d.HasBegun) : Ends d answer claims claims

/-- No claim is given up but the one of the dispatch. -/
theorem Ends.others {d : Dispatch} {answer : d.demand.Answer} {claims claims' : List ClaimKey}
    (ends : d.Ends answer claims claims') {key : ClaimKey} (member : key ∈ claims) (other : key ≠ d.claim) :
    key ∈ claims' := by
  cases ends with
  | unbegun _ _ => exact List.mem_filter.mpr ⟨member,by simpa using other⟩
  | recorded _ _ => exact List.mem_filter.mpr ⟨member,by simpa using other⟩
  | kept _ => exact member

theorem Ends.own {d : Dispatch} {answer : d.demand.Answer} {claims claims' : List ClaimKey}
    (ends : d.Ends answer claims claims') (held : d.claim ∈ claims) :
    d.claim ∈ claims' ∨ ¬d.HasBegun ∨ d.Stored answer := by
  cases ends with
  | unbegun confirming _ => exact .inr (.inl confirming)
  | recorded _ stored => exact .inr (.inr stored)
  | kept _ => exact .inl held

theorem resume_finished {settings : EngineSettings} {now : Moment} {registry registry' : Registry} {d : Dispatch}
    {answer : d.demand.Answer} {result : Except Fault Unit}
    (went : d.resume settings now registry answer = (registry',.finished result)) :
    d.Ends answer registry.claims registry'.claims := by
  have refused := not_letsBegin_of_finished went
  have advances := d.resume_advances settings now registry answer
  rw [went] at advances
  cases advances with
  | executed | unconfirmed => exact .unbegun (fun no => no) refused
  | recorded step => exact .recorded trivial (Recording.stored_of_resume step)
  | unrecorded => exact .kept trivial

/-- A dispatch changes nothing in a registry but claims. -/
theorem resume_frame (settings : EngineSettings) (now : Moment) (registry : Registry) (d : Dispatch)
    (answer : d.demand.Answer) :
    ∃ claims, (d.resume settings now registry answer).1 = { registry with claims } := by
  have advances := d.resume_advances settings now registry answer
  generalize d.resume settings now registry answer = outcome at advances
  cases advances with
  | begins | read | ran | records | unrecorded => exact ⟨registry.claims,rfl⟩
  | executed | unconfirmed | recorded => exact ⟨_,rfl⟩

theorem start_frame (registry : Registry) (rule : Rule) (event : Event) :
    ∃ claims, (Dispatch.start registry rule event).1 = { registry with claims } := by
  unfold start
  split
  · exact ⟨registry.claims,rfl⟩
  · by_cases claimed : claimFor rule event ∈ registry.claims
    · exact ⟨registry.claims,by simp [Registry.claim,claimed]⟩
    · exact ⟨registry.claims ++ [claimFor rule event],by simp [Registry.claim,claimed]⟩

/-- A dispatch that starts claims an execution that was not claimed. -/
theorem start_waiting {registry registry' : Registry} {rule : Rule} {event : Event} {d : Dispatch}
    (started : Dispatch.start registry rule event = (registry',.waiting d)) :
    d = { rule, event } ∧ d.claim ∉ registry.claims ∧ registry'.claims = registry.claims ++ [d.claim] := by
  unfold start at started
  split at started
  · simp at started
  · by_cases claimed : claimFor rule event ∈ registry.claims
    · simp [Registry.claim,claimed] at started
    · simp only [Registry.claim,List.contains_eq_mem,claimed,decide_false,Bool.false_eq_true,if_false,
        Prod.mk.injEq,Progress.waiting.injEq] at started
      obtain ⟨rfl,rfl⟩ := started
      exact ⟨rfl,claimed,rfl⟩

theorem start_finished {registry registry' : Registry} {rule : Rule} {event : Event} {result : Except Fault Unit}
    (started : Dispatch.start registry rule event = (registry',.finished result)) : registry' = registry := by
  unfold start at started
  split at started
  · simp only [Prod.mk.injEq] at started
    exact started.1.symm
  · by_cases claimed : claimFor rule event ∈ registry.claims
    · simp only [Registry.claim,List.contains_eq_mem,claimed,decide_true,if_true,Prod.mk.injEq] at started
      exact started.1.symm
    · simp [Registry.claim,claimed] at started

end Dispatch
end Callout
