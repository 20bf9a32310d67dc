import Callout.Proofs.Outside
import Callout.Proofs.Reporting

/-!
How often a status is written. A recording is rounds of a read, a write and a pause: a round whose write meets a
conflict is followed by another one while the budget lasts, and any other round is the last (`Recording.Rounds`). So the
number of writes, the pauses and the result follow from the answers (`Recording.budget_kept`).
-/
namespace Callout

/-! ## Recordings from their beginning to their end -/

/-- What a recording does: it reads the rule, writes a status, or pauses. -/
inductive Errand where
  | read (answer : Except Fault Rule)
  | write (given : Rule) (answer : Except Fault Unit)
  | pause (span : Span)

namespace Errand

/-- Whether the rule is read, with whatever answer. -/
def isRead : Errand → Bool
  | .read _ => true
  | .write _ _ | .pause _ => false

/-- Whether a status is written, with whatever answer. -/
def isWrite : Errand → Bool
  | .write _ _ => true
  | .read _ | .pause _ => false

/-- Whether a status is written and meets a conflict. -/
def isConflict : Errand → Bool
  | .write _ (.error fault) => fault.isConflict
  | .write _ (.ok ()) | .read _ | .pause _ => false

end Errand

/-- What comes of a recording: when, the state outside, the errands in their order, the number of attempts, and the
result. -/
structure Filed (τ : Type) where
  time : Nat
  after : τ
  errands : List Errand
  attempts : Nat
  result : Except Fault Unit

namespace Recording

/-- What a recording does when it takes an answer. -/
def errand : (r : Recording) → r.demand.Answer → Errand
  | ⟨_, _, _, _, .reading⟩, answer => .read answer
  | ⟨_, _, _, _, .writing given⟩, answer => .write given answer
  | ⟨_, _, _, _, .pausing span⟩, _ => .pause span

/-- A recording from some time on, with the clock, to its end. -/
inductive Course {τ : Type} (o : Outside τ) (settings : EngineSettings) (clock : Nat → Moment) :
    Nat → τ → Recording → Filed τ → Prop where
  | ended {n : Nat} {t : τ} {r : Recording} {result : Except Fault Unit}
      (went : r.resume settings (clock n) (o.answerRecording t r).1 = .finished result) :
      Course o settings clock n t r
        ⟨n + 1, (o.answerRecording t r).2, [r.errand (o.answerRecording t r).1], r.attempt, result⟩
  | goes {n : Nat} {t : τ} {r r' : Recording} {f : Filed τ}
      (went : r.resume settings (clock n) (o.answerRecording t r).1 = .waiting r')
      (onward : Course o settings clock (n + 1) (o.answerRecording t r).2 r' f) :
      Course o settings clock n t r { f with errands := r.errand (o.answerRecording t r).1 :: f.errands }

/-- The fault of a recording whose attempts are used up. -/
def spentFault (r : Recording) (budget : Nat) : Fault :=
  .conflict ("status of " ++ r.rule.toText ++ " still conflicting after " ++ toString budget ++ " attempts")

/-- The errands of a recording from an attempt on, with the number of the last attempt and the result. -/
inductive Rounds (r : Recording) (budget : Nat) (base : Span) : Nat → List Errand → Nat → Except Fault Unit → Prop where
  /-- The rule could not be read. -/
  | unread {k : Nat} (fault : Fault) : Rounds r budget base k [.read (.error fault)] k (.error fault)
  /-- The status is stored. -/
  | stored {k : Nat} (latest : Rule) (now : Timestamp) :
      Rounds r budget base k [.read (.ok latest), .write (r.extended latest now) (.ok ())] k (.ok ())
  /-- The status was refused, and not for a conflict. -/
  | refused {k : Nat} (latest : Rule) (now : Timestamp) {fault : Fault} (other : fault.isConflict = false) :
      Rounds r budget base k [.read (.ok latest), .write (r.extended latest now) (.error fault)] k (.error fault)
  /-- A conflict in the last attempt. -/
  | spent (latest : Rule) (now : Timestamp) {fault : Fault} (conflict : fault.isConflict = true) :
      Rounds r budget base budget [.read (.ok latest), .write (r.extended latest now) (.error fault)] budget
        (.error (r.spentFault budget))
  /-- A conflict while attempts are left. -/
  | again {k last : Nat} {rest : List Errand} {result : Except Fault Unit} (latest : Rule) (now : Timestamp)
      {fault : Fault} (conflict : fault.isConflict = true) (left : k < budget)
      (later : Rounds r budget base (k + 1) rest last result) :
      Rounds r budget base k
        (.read (.ok latest) :: .write (r.extended latest now) (.error fault) :: .pause ⟨base.nanos * k⟩ :: rest) last
        result

/-- What stands around an errand of a recording, and what its result is if the errand is the last one. -/
def Around (r : Recording) (budget : Nat) (base : Span) (result : Except Fault Unit) (before after : List Errand) :
    Errand → Prop
  | .read (.ok _) => ∃ given answer later, after = .write given answer :: later
  | .read (.error fault) => after = [] ∧ result = .error fault
  | .write given answer =>
    (∃ earlier latest now, before = earlier ++ [.read (.ok latest)] ∧ given = r.extended latest now) ∧
      match answer with
      | .ok () => after = [] ∧ result = .ok ()
      | .error fault =>
        if fault.isConflict then
          let nth := before.countP Errand.isConflict + 1
          if nth < budget then ∃ answer later, after = .pause ⟨base.nanos * nth⟩ :: .read answer :: later
          else after = [] ∧ result = .error (r.spentFault budget)
        else after = [] ∧ result = .error fault
  | .pause span =>
    (∃ earlier given fault, before = earlier ++ [.write given (.error fault)] ∧ fault.isConflict = true) ∧
      before.countP Errand.isConflict < budget ∧ span = ⟨base.nanos * before.countP Errand.isConflict⟩ ∧
      ∃ answer later, after = .read answer :: later

/-! ## One attempt -/

section
variable {τ : Type} {o : Outside τ} {settings : EngineSettings} {clock : Nat → Moment} {n : Nat} {t : τ}
variable {id : RuleId} {execution : Execution} {outcome : RuleStatus.Outcome} {k : Nat} {f : Filed τ}

theorem Course.of_reading (course : Course o settings clock n t ⟨id,execution,outcome,k,.reading⟩ f) :
    (∃ fault, (o.read t).1 = .error fault ∧ f = ⟨n + 1,(o.read t).2,[.read (.error fault)],k,.error fault⟩) ∨
      ∃ latest g, (o.read t).1 = .ok latest ∧
        Course o settings clock (n + 1) (o.read t).2
          ⟨id,execution,outcome,k,
            .writing (extended ⟨id,execution,outcome,k,.reading⟩ latest (clock n).wall)⟩ g ∧
        f = { g with errands := .read (.ok latest) :: g.errands } := by
  cases course with
  | ended went =>
    change afterReading _ _ (o.read t).1 = _ at went
    cases read : (o.read t).1 with
    | ok latest => simp [read,afterReading] at went
    | error fault =>
      simp only [read,afterReading,Progress.finished.injEq] at went
      subst went
      exact .inl ⟨fault,rfl,by simp only [errand,Outside.answerRecording,read]⟩
  | goes went onward =>
    change afterReading _ _ (o.read t).1 = _ at went
    cases read : (o.read t).1 with
    | error fault => simp [read,afterReading] at went
    | ok latest =>
      simp only [read,afterReading,Progress.waiting.injEq] at went
      subst went
      exact .inr ⟨latest,_,rfl,onward,by simp only [errand,Outside.answerRecording,read]⟩

theorem Course.of_writing {given : Rule}
    (course : Course o settings clock n t ⟨id,execution,outcome,k,.writing given⟩ f) :
    (∃ result, f = ⟨n + 1,(o.store given t).2,[.write given (o.store given t).1],k,result⟩ ∧
      afterWriting settings ⟨id,execution,outcome,k,.writing given⟩ (o.store given t).1 = .finished result) ∨
      ∃ fault g, (o.store given t).1 = .error fault ∧ fault.isConflict = true ∧ k < budget settings ∧
        Course o settings clock (n + 1) (o.store given t).2
          ⟨id,execution,outcome,k,.pausing ⟨settings.statusRetryBase.nanos * k⟩⟩ g ∧
        f = { g with errands := .write given (.error fault) :: g.errands } := by
  cases course with
  | ended went => exact .inl ⟨_,rfl,went⟩
  | goes went onward =>
    change afterWriting _ _ (o.store given t).1 = _ at went
    cases write : (o.store given t).1 with
    | ok _ => simp [write,afterWriting] at went
    | error fault =>
      simp only [write,afterWriting] at went
      split at went
      · cases went
      next conflict =>
        split at went
        · cases went
        next left =>
          cases went
          refine .inr ⟨fault,_,rfl,by simpa using conflict,Nat.lt_of_not_le left,onward,?_⟩
          simp only [errand,Outside.answerRecording,write]

theorem Course.of_pausing {span : Span}
    (course : Course o settings clock n t ⟨id,execution,outcome,k,.pausing span⟩ f) :
    ∃ g, Course o settings clock (n + 1) t ⟨id,execution,outcome,k + 1,.reading⟩ g ∧
      f = { g with errands := .pause span :: g.errands } := by
  cases course with
  | ended went => cases went
  | goes went onward =>
    cases went
    exact ⟨_,onward,rfl⟩

/-- A write that ends a recording ends its last round. -/
theorem Rounds.of_last {given latest : Rule} {now : Timestamp} {answer result : Except Fault Unit}
    (extended : given = extended ⟨id,execution,outcome,k,.reading⟩ latest now) (within : k ≤ budget settings)
    (ends : afterWriting settings ⟨id,execution,outcome,k,.writing given⟩ answer = .finished result) :
    Rounds ⟨id,execution,outcome,1,.reading⟩ (budget settings) settings.statusRetryBase k
      [.read (.ok latest),.write given answer] k result := by
  subst extended
  cases answer with
  | ok _ =>
    cases ends
    exact .stored latest now
  | error fault =>
    simp only [afterWriting] at ends
    split at ends
    next other =>
      cases ends
      exact .refused latest now (by simpa using other)
    next conflict =>
      split at ends
      next spent =>
        cases Nat.le_antisymm within spent
        cases ends
        exact .spent latest now (by simpa using conflict)
      next => cases ends

/-- A recording that begins an attempt within its budget goes through rounds; each that meets a conflict leaves fewer
attempts. -/
theorem Course.rounds {n : Nat} {t : τ} {k : Nat} {f : Filed τ}
    (course : Course o settings clock n t ⟨id,execution,outcome,k,.reading⟩ f) (within : k ≤ budget settings) :
    Rounds ⟨id,execution,outcome,1,.reading⟩ (budget settings) settings.statusRetryBase k f.errands f.attempts
      f.result := by
  rcases course.of_reading with ⟨fault,_,rfl⟩ | ⟨latest,_,_,writes,rfl⟩
  · exact .unread fault
  rcases writes.of_writing with ⟨result,rfl,ends⟩ | ⟨fault,_,_,conflict,left,pauses,rfl⟩
  · exact .of_last rfl within ends
  · obtain ⟨_,later,rfl⟩ := pauses.of_pausing
    exact .again latest _ conflict left (Course.rounds later left)
termination_by budget settings - k

end

/-! ## What stands around an errand -/

namespace Rounds
variable {r : Recording} {budget k last : Nat} {base : Span} {log : List Errand} {result : Except Fault Unit}

theorem read_first (rounds : Rounds r budget base k log last result) : ∃ answer later, log = .read answer :: later := by
  cases rounds <;> exact ⟨_,_,rfl⟩

/-- What stands around the two errands of a round in which the rule could be read, given it for the second one. -/
theorem around_pair {earlier before after : List Errand} {latest given : Rule} {answer : Except Fault Unit}
    {errand : Errand}
    (ends : r.Around budget base result (earlier ++ [.read (.ok latest)]) [] (.write given answer))
    (place : [.read (.ok latest),.write given answer] = before ++ errand :: after) :
    r.Around budget base result (earlier ++ before) after errand := by
  rcases before with _ | ⟨_,_ | ⟨_,before⟩⟩
  · cases place
    exact ⟨_,_,_,rfl⟩
  · cases place
    exact ends
  · simp at place

/-- What stands around each errand of some rounds, after earlier ones that met a conflict each. -/
theorem around (rounds : Rounds r budget base k log last result) (earlier : List Errand)
    (counted : earlier.countP Errand.isConflict + 1 = k) {before after : List Errand} {errand : Errand}
    (place : log = before ++ errand :: after) : r.Around budget base result (earlier ++ before) after errand := by
  induction rounds generalizing earlier before with
  | unread fault =>
    rcases before with _ | ⟨_,before⟩
    · cases place
      exact ⟨rfl,rfl⟩
    · simp at place
  | stored latest now =>
    have ends : r.Around budget base (.ok ()) (earlier ++ [.read (.ok latest)]) []
        (.write (r.extended latest now) (.ok ())) := ⟨⟨earlier,latest,now,rfl,rfl⟩,rfl,rfl⟩
    exact around_pair ends place
  | @refused _ latest now fault other =>
    have ends : r.Around budget base (.error fault) (earlier ++ [.read (.ok latest)]) []
        (.write (r.extended latest now) (.error fault)) := ⟨⟨earlier,latest,now,rfl,rfl⟩,by simp [other]⟩
    exact around_pair ends place
  | @spent latest now fault conflict =>
    have ends : r.Around budget base (.error (r.spentFault budget)) (earlier ++ [.read (.ok latest)]) []
        (.write (r.extended latest now) (.error fault)) := by
      refine ⟨⟨earlier,latest,now,rfl,rfl⟩,?_⟩
      simp [conflict,List.countP_append,Errand.isConflict,counted]
    exact around_pair ends place
  | @again k last rest result latest now fault conflict left later ih =>
    obtain ⟨next,onward,rfl⟩ := later.read_first
    rcases before with _ | ⟨_,_ | ⟨_,_ | ⟨_,before⟩⟩⟩
    · cases place
      exact ⟨_,_,_,rfl⟩
    · cases place
      refine ⟨⟨earlier,latest,now,rfl,rfl⟩,?_⟩
      simp [conflict,List.countP_append,Errand.isConflict,counted,left]
    · cases place
      refine ⟨⟨earlier ++ [.read (.ok latest)],r.extended latest now,fault,by simp,conflict⟩,?_⟩
      simp [List.countP_append,Errand.isConflict,counted,left,conflict]
    · simp only [List.cons_append,List.cons.injEq] at place
      obtain ⟨rfl,rfl,rfl,place⟩ := place
      have placed := ih (earlier ++ [.read (.ok latest),.write (r.extended latest now) (.error fault),
        .pause ⟨base.nanos * k⟩]) (by simp [List.countP_append,Errand.isConflict,counted,conflict]) place
      simpa using placed

/-! ## Counts and results -/

/-- Rounds from an attempt on write once for each attempt that is left, at most, and the attempts are counted by their
reads. -/
theorem counts (rounds : Rounds r budget base k log last result) (within : k ≤ budget) :
    log.countP Errand.isWrite + k ≤ budget + 1 ∧ log.countP Errand.isRead + k = last + 1 ∧ last ≤ budget := by
  induction rounds with
  | unread | stored | refused | spent =>
    simp [List.countP_cons,Errand.isWrite,Errand.isRead]
    omega
  | again latest now conflict left later ih =>
    have := ih left
    simp [List.countP_cons,Errand.isWrite,Errand.isRead]
    omega

/-- When every attempt met a conflict, the result is the fault of a recording whose attempts are used up. -/
theorem result_of_conflicts (rounds : Rounds r budget base k log last result) (within : k ≤ budget)
    (all : log.countP Errand.isConflict + k = budget + 1) : result = .error (r.spentFault budget) := by
  induction rounds with
  | unread | stored =>
    simp [Errand.isConflict] at all
    omega
  | refused latest now other =>
    simp [Errand.isConflict,other] at all
    omega
  | spent => rfl
  | again latest now conflict left later ih =>
    simp only [List.countP_cons,Errand.isConflict,conflict] at all
    exact ih left (by simp at all; omega)

/-- Rounds end with a status that is stored, with a fault that the store told at last, or with attempts used up. -/
theorem ends (rounds : Rounds r budget base k log last result) :
    (result = .ok () ∧ ∃ given, log.getLast? = some (.write given (.ok ()))) ∨
      ∃ fault, result = .error fault ∧
        (log.getLast? = some (.read (.error fault)) ∨
          (∃ given, log.getLast? = some (.write given (.error fault)) ∧ fault.isConflict = false) ∨
          fault = r.spentFault budget ∧ log.countP Errand.isConflict + k = budget + 1) := by
  induction rounds with
  | unread fault => exact .inr ⟨fault,rfl,.inl rfl⟩
  | stored latest now => exact .inl ⟨rfl,_,rfl⟩
  | @refused _ latest now fault other => exact .inr ⟨fault,rfl,.inr (.inl ⟨_,rfl,other⟩)⟩
  | spent latest now conflict =>
    exact .inr ⟨_,rfl,.inr (.inr ⟨rfl,by simp [Errand.isConflict,conflict,Nat.add_comm]⟩)⟩
  | again latest now conflict left later ih =>
    obtain ⟨next,onward,rfl⟩ := later.read_first
    simp only [List.getLast?_cons_cons]
    refine ih.imp_right fun ⟨fault,told,last⟩ => ⟨fault,told,?_⟩
    refine last.imp_right (Or.imp_right (And.imp_right fun all => ?_))
    rw [List.countP_cons_of_neg (by simp [Errand.isConflict]),List.countP_cons_of_pos (by simpa [Errand.isConflict]),
      List.countP_cons_of_neg (by simp [Errand.isConflict])]
    omega

end Rounds

end Recording

/-! ## Dispatches that record -/

namespace Dispatch
variable {settings : EngineSettings} {now : Moment} (rule : Rule) (event : Event) {r : Recording}
  {answer : r.demand.Answer}

/-- A dispatch ends as its recording does, or else as its actions did. -/
theorem finishes_of_recording {filed : Except Fault Unit} (went : r.resume settings now answer = .finished filed) :
    Finishes settings now ⟨rule,event,.recording r⟩ answer (!filed.isOk) (filed.bind fun _ => r.outcome) := by
  intro registry
  change withRecording _ registry r.outcome (r.resume settings now answer) = _
  rw [went]
  cases filed <;> rfl

theorem goesTo_of_recording {later : Recording} (went : r.resume settings now answer = .waiting later) :
    GoesTo settings now ⟨rule,event,.recording r⟩ answer ⟨rule,event,.recording later⟩ := by
  intro registry
  change withRecording _ registry r.outcome (r.resume settings now answer) = _
  rw [went]
  rfl

/-- What comes of a dispatch that records is what comes of its recording. -/
theorem Course.recording {τ : Type} {o : Outside τ} {clock : Nat → Moment} {n : Nat} {t : τ} {rule : Rule}
    {event : Event} {r : Recording} {v : Verdict τ}
    (course : Course o settings clock n t ⟨rule,event,.recording r⟩ v) :
    ∃ f, Recording.Course o settings clock n t r f ∧
      v = ⟨f.time,f.after,[],!f.result.isOk,f.result.bind fun _ => r.outcome⟩ := by
  generalize place : Dispatch.mk rule event (.recording r) = d at course
  induction course generalizing r with
  | @ended n t d kept result finishes =>
    subst place
    cases step : r.resume settings (clock n) (o.answerRecording t r).1 with
    | waiting later => exact (finishes.not_goesTo (goesTo_of_recording rule event step)).elim
    | finished filed =>
      obtain ⟨rfl,rfl⟩ := finishes.unique (finishes_of_recording rule event step)
      exact ⟨_,.ended step,rfl⟩
  | @goes n t d d' v goes onward ih =>
    subst place
    cases step : r.resume settings (clock n) (o.answerRecording t r).1 with
    | finished filed => exact ((finishes_of_recording rule event step).not_goesTo goes).elim
    | waiting later =>
      obtain ⟨f,course,rfl⟩ := ih (goes.unique (goesTo_of_recording rule event step)).symm
      refine ⟨_,.goes step course,?_⟩
      rw [Recording.resume_outcome step]
      rfl

end Dispatch

namespace Recording

/-- A recording ends, whatever it is answered and whatever the clock shows. -/
theorem Course.exists {τ : Type} (o : Outside τ) (settings : EngineSettings) (clock : Nat → Moment) (n : Nat) (t : τ)
    (id : RuleId) (execution : Execution) (outcome : RuleStatus.Outcome) :
    ∃ f, Course o settings clock n t { rule := id, execution, outcome } f := by
  obtain ⟨v,course⟩ := Dispatch.terminates_recording default default id execution outcome 1 n t
  obtain ⟨f,filed,_⟩ := course.recording
  exact ⟨f,filed⟩

/-- Take any number of attempts that the engine is set to, with the usual pause, and any answers. A recording ends. It
writes at most as often as it is set to, or once if that is never, and each write comes directly after a read and is
made from what was read. What stands around each errand tells when the recording goes on, with which pause, and when it
ends. It ends well only with a status that was stored, and with a fault of its own exactly if every write met a
conflict. Neither the number of attempts nor a pause grows beyond what can be counted. -/
theorem budget_kept {τ : Type} (o : Outside τ) (attempts : UInt32) (clock : Nat → Moment) (n : Nat) (t : τ)
    (id : RuleId) (execution : Execution) (outcome : RuleStatus.Outcome) :
    let settings : EngineSettings := { statusAttempts := attempts.toNat }
    let budget := max 1 attempts.toNat
    let r : Recording := { rule := id, execution, outcome }
    (∃ f, Course o settings clock n t r f) ∧ ∀ f, Course o settings clock n t r f →
      f.errands.countP Errand.isWrite ≤ budget ∧
      (∃ answer later, f.errands = .read answer :: later) ∧
      (∀ before errand after, f.errands = before ++ errand :: after →
        r.Around budget (.ofMillis 10) f.result before after errand) ∧
      (f.result = .ok () → ∃ given, f.errands.getLast? = some (.write given (.ok ()))) ∧
      (f.errands.countP Errand.isConflict = budget → f.result = .error (r.spentFault budget)) ∧
      (f.result = .error (r.spentFault budget) → f.errands.countP Errand.isConflict = budget ∨
        f.errands.getLast? = some (.read (.error (r.spentFault budget)))) ∧
      f.errands.countP Errand.isRead = f.attempts ∧ f.attempts ≤ budget ∧ budget < 2 ^ 32 ∧
      ∀ span, .pause span ∈ f.errands → span.Representable := by
  intro settings budget r
  refine ⟨Course.exists o settings clock n t id execution outcome,fun f course => ?_⟩
  have size : budget < 2 ^ 32 := by have := attempts.toNat_lt; omega
  have set_to : Recording.budget settings = budget := Nat.max_comm _ _
  have rounds := course.rounds (Nat.le_trans (Nat.le_max_left 1 attempts.toNat) (Nat.le_of_eq set_to.symm))
  rw [set_to] at rounds
  have within : 1 ≤ budget := Nat.le_max_left _ _
  obtain ⟨writes,reads,last⟩ := rounds.counts within
  refine ⟨by omega,rounds.read_first,fun before errand after place => rounds.around [] rfl place,
    fun well => ?_,fun all => rounds.result_of_conflicts within (by omega),fun own => ?_,by omega,last,size,
    fun span paused => ?_⟩
  · rcases rounds.ends with ⟨_,stored⟩ | ⟨fault,fails,_⟩
    · exact stored
    · cases well.symm.trans fails
  · rcases rounds.ends with ⟨well,_⟩ | ⟨fault,fails,told⟩
    · cases own.symm.trans well
    cases own.symm.trans fails
    rcases told with unread | ⟨_,_,other⟩ | ⟨_,all⟩
    · exact .inr unread
    · cases other
    · exact .inl (by omega)
  · obtain ⟨before,after,place⟩ := List.append_of_mem paused
    obtain ⟨_,few,rfl,_⟩ := rounds.around [] rfl place
    change (10 * Span.perMilli) * _ < 2 ^ 64 * Span.perSecond
    simp only [List.nil_append,Span.perMilli,Span.perSecond] at few ⊢
    omega

end Recording

namespace Sample
open Recording

/-- A store that is always ahead of those who write to it. -/
def contested : Outside Unit where
  stored? _ := some onceRule
  read t := (.ok onceRule,t)
  store _ t := (.error (.conflict "changed"),t)
  secret _ name t := (.error (.notFound name),t)
  run _ t := (.ok (),t)

/-- With two attempts there are two writes, one pause between them, and a fault that tells both attempts. -/
theorem budget_kept_contested : ∃ f,
    Recording.Course contested { statusAttempts := 2 } (fun _ => moment) 0 ()
      { rule := onceRule.id, execution := ⟨"uid-a", .create, moment.wall⟩, outcome := .ok () } f ∧
    f.errands.countP Errand.isConflict = 2 ∧
    f.result = .error (.conflict "status of default/r still conflicting after 2 attempts") := by
  obtain ⟨f,course,conflicts⟩ : ∃ f,
      Recording.Course contested { statusAttempts := 2 } (fun _ => moment) 0 ()
        { rule := onceRule.id, execution := ⟨"uid-a",.create,moment.wall⟩, outcome := .ok () } f ∧
      f.errands.countP Errand.isConflict = 2 :=
    ⟨_,.goes rfl (.goes rfl (.goes rfl (.goes rfl (.ended rfl)))),rfl⟩
  obtain ⟨_,each⟩ := budget_kept contested 2 (fun _ => moment) 0 () onceRule.id ⟨"uid-a",.create,moment.wall⟩ (.ok ())
  obtain ⟨_,_,_,_,spent,_⟩ := each f course
  exact ⟨f,course,conflicts,spent conflicts⟩

end Sample
end Callout
