import Callout.Proofs.Teardown
import Callout.Rehearsal.Run

/-!
When the ticks of an interval task come, and what is done at each. A run is followed with what it was told and when
(`IntervalRun.Timed`), on a clock of milliseconds that gives ticks as a rehearsal does
(`Rehearsal.Run.reply_tick_eq_due_iff`). Its ticks are those of one ticker, so none is early, and none is late while all
were asked for in time (`Ticker.Takes`). What it was told falls into rounds, each a tick and all that is done at it
(`IntervalRun.Told`). So each tick runs the action at most once, and faults cost a tick but never the task
(`IntervalRun.Timed.keeps_pace`).
-/
namespace Callout

/-! ## A clock of milliseconds -/

namespace Rehearsal

/-- The first time from a time on that a clock of milliseconds shows. -/
def shown (nanos : Nat) : Nat := millisecond nanos * Span.perMilli

theorem le_shown (t : Nat) : t ≤ shown t := by
  simp only [shown,millisecond,Span.perMilli]
  omega

theorem shown_lt (t : Nat) : shown t < t + Span.perMilli := by
  simp only [shown,millisecond,Span.perMilli]
  omega

/-- Whole milliseconds move what the clock shows by as much. -/
theorem shown_add {span : Nat} (whole : Span.perMilli ∣ span) (t : Nat) : shown (t + span) = shown t + span := by
  obtain ⟨millis,rfl⟩ := whole
  simp only [shown,millisecond,Span.perMilli]
  omega

theorem shown_of_whole {t : Nat} (whole : Span.perMilli ∣ t) : shown t = t := by
  obtain ⟨millis,rfl⟩ := whole
  simp only [shown,millisecond,Span.perMilli]
  omega

/-- A tick is given from the time on at which the clock shows that it is due, unless its token is cancelled. -/
theorem Run.reply_tick_eq_due_iff {σ : Type} (r : Run σ) (again : Bool) (due : Nat) (token : Token) :
    (r.reply again (.tick due token)).2 = .now .due ↔
      r.registry.isCancelled token = false ∧ shown due ≤ r.moment.nanos := by
  have reached : millisecond due ≤ r.now ↔ shown due ≤ r.moment.nanos :=
    (Nat.mul_le_mul_right_iff (by decide : 0 < Span.perMilli)).symm
  simp only [reply,← reached]
  cases r.registry.isCancelled token with
  | true => simp only [if_true,Bool.true_eq_false,false_and,iff_false]; exact nofun
  | false => by_cases come : millisecond due ≤ r.now <;> simp [come]

end Rehearsal

open Rehearsal (shown le_shown shown_lt shown_add shown_of_whole)

/-! ## What a run is told -/

/-- A stage that goes on, unless the activity has ended. -/
def Progress.going? {σ α : Type} : Progress σ α → Option σ
  | .waiting stage => some stage
  | .finished _ => none

/-- A secret that was asked for, with what was told of it. -/
structure Query.Reading where
  space : String
  name : String
  answer : Except Fault SecretData

/-- Whether a query comes to another one when secrets are told. -/
inductive Query.Fed {α : Type} : Query α → List Query.Reading → Query α → Prop where
  | none (q : Query α) : Fed q [] q
  | told {space name : String} {next : Except Fault SecretData → Query α} {answer : Except Fault SecretData}
      {readings : List Query.Reading} {q : Query α} (later : Fed (next answer) readings q) :
      Fed (.ask space name next) (⟨space, name, answer⟩ :: readings) q

theorem Query.Fed.snoc {α : Type} {q : Query α} {readings : List Query.Reading} {space name : String}
    {next : Except Fault SecretData → Query α} (fed : q.Fed readings (.ask space name next))
    (answer : Except Fault SecretData) : q.Fed (readings ++ [⟨space,name,answer⟩]) (next answer) := by
  generalize last : Query.ask space name next = asked at fed
  induction fed with
  | none q =>
    subst last
    exact .told (.none _)
  | told _ ih => exact .told (ih last)

namespace IntervalRun

/-- What a run asked for, with what it was told. -/
inductive Deed where
  | tick (tick : Tick)
  | look (rule : RuleId) (answer : Except Fault Rule)
  | read (reading : Query.Reading)
  | call (call : Call) (answer : Except Fault Unit)

namespace Deed

/-- Whether a tick came. -/
def isTick : Deed → Bool
  | .tick .due => true
  | .tick .cancelled | .look _ _ | .read _ | .call _ _ => false

/-- Whether a run ends with what it is told: it is cancelled, or its rule is gone. -/
def Ends : Deed → Prop
  | .tick told => told = .cancelled
  | .look _ answer => ∃ fault, answer = .error fault ∧ fault.isNotFound = true
  | .read _ | .call _ _ => False

end Deed

/-- What a run was told: when it asked, and when it got the answer. -/
structure Note where
  asked : Nat
  deed : Deed
  time : Nat

/-- The ticks that came. -/
def ticks (log : List Note) : List Note := log.filter (·.deed.isTick)

/-- What an answer tells a run. -/
def deed : (r : IntervalRun) → r.demand.Answer → Deed
  | ⟨_, _, .waiting⟩, answer => .tick answer
  | ⟨task, _, .looking⟩, answer => .look task.key.rule answer
  | ⟨_, _, .reading space name _⟩, answer => .read ⟨space, name, answer⟩
  | ⟨_, _, .running call⟩, answer => .call call answer

/-- When a wait for a tick is over. The tick comes as soon as the clock shows that it is due, unless the token is
cancelled before; if both happen at once, either may be told. -/
inductive Waited (cancelled? : Option Nat) (due asked : Nat) : Tick → Nat → Prop where
  | due (alive : ∀ time ∈ cancelled?, max asked (shown due) ≤ time) :
      Waited cancelled? due asked .due (max asked (shown due))
  | cancelled {time : Nat} (cancelled : cancelled? = some time) (before : time ≤ max asked (shown due)) :
      Waited cancelled? due asked .cancelled (max asked time)

/-- Whether a run can be given an answer at a time. Answers other than ticks take any time. -/
def Timely (cancelled? : Option Nat) (asked : Nat) : (r : IntervalRun) → r.demand.Answer → Nat → Prop
  | ⟨_, ticker, .waiting⟩, answer, time => Waited cancelled? ticker.due asked answer time
  | ⟨_, _, .looking⟩, _, time | ⟨_, _, .reading _ _ _⟩, _, time | ⟨_, _, .running _⟩, _, time => asked ≤ time

/-- The courses of a task from its arming on, with all that it was told, what it has come to, and the time. It asks for
each thing as soon as it was told the one before. -/
inductive Timed (task : IntervalTask) (armed : Moment) (cancelled? : Option Nat) :
    List Note → Option IntervalRun → Nat → Prop where
  | start : Timed task armed cancelled? [] (some (.start task armed)) armed.nanos
  | step {log : List Note} {r : IntervalRun} {asked : Nat} (before : Timed task armed cancelled? log (some r) asked)
      {answer : r.demand.Answer} {now : Moment} (timely : r.Timely cancelled? asked answer now.nanos)
      (registry : Registry) :
      Timed task armed cancelled? (log ++ [⟨asked, r.deed answer, now.nanos⟩])
        (r.resume now registry answer).2.going? now.nanos

/-! ## What is done at a tick -/

/-- The headers of a task. -/
abbrev headersOf (task : IntervalTask) : Query (Except Misconfiguration (Dict String)) :=
  resolveHeaders task.space task.action.headers

/-- How a rule is found: it is there, or it is not looked up since the event was a deletion. -/
inductive Looked (task : IntervalTask) : List Deed → Prop where
  | spared (deletion : task.event.kind = .delete) : Looked task []
  | found (other : task.event.kind ≠ .delete) (rule : Rule) : Looked task [.look task.key.rule (.ok rule)]

/-- All that is done at a tick. -/
inductive Work (task : IntervalTask) : List Deed → Prop where
  /-- The rule could not be looked up, and may be there. -/
  | unknown (other : task.event.kind ≠ .delete) {fault : Fault} (present : fault.isNotFound = false) :
      Work task [.look task.key.rule (.error fault)]
  /-- The headers have no values. -/
  | unresolved {look : List Deed} {readings : List Query.Reading} {cause : Misconfiguration}
      (looked : Looked task look) (resolved : (headersOf task).Fed readings (.done (.error cause))) :
      Work task (look ++ readings.map .read)
  /-- The action is run once, as it was when the task was armed and for the object of then. -/
  | called {look : List Deed} {readings : List Query.Reading} {headers : Dict String}
      (looked : Looked task look) (resolved : (headersOf task).Fed readings (.done (.ok headers)))
      (answer : Except Fault Unit) :
      Work task (look ++ readings.map .read ++
        [.call ⟨task.action, task.event.object, task.space, headers⟩ answer])

/-- What is done at a tick so far. -/
inductive Under (task : IntervalTask) : Stage → List Deed → Prop where
  | looking (other : task.event.kind ≠ .delete) : Under task .looking []
  | reading {look : List Deed} {readings : List Query.Reading} {space name : String}
      {next : Except Fault SecretData → Query (Except Misconfiguration (Dict String))}
      (looked : Looked task look) (resolved : (headersOf task).Fed readings (.ask space name next)) :
      Under task (.reading space name next) (look ++ readings.map .read)
  | running {look : List Deed} {readings : List Query.Reading} {headers : Dict String}
      (looked : Looked task look) (resolved : (headersOf task).Fed readings (.done (.ok headers))) :
      Under task (.running ⟨task.action, task.event.object, task.space, headers⟩) (look ++ readings.map .read)

/-- What a run was told since its last tick, if that is not all that is done at it. -/
inductive Rest (task : IntervalTask) : Option IntervalRun → List Deed → Prop where
  | waiting {r : IntervalRun} (idle : r.stage = .waiting) : Rest task (some r) []
  | under {r : IntervalRun} {deeds : List Deed} (under : Under task r.stage deeds) :
      Rest task (some r) (.tick .due :: deeds)
  | cancelled : Rest task none [.tick .cancelled]
  | gone (other : task.event.kind ≠ .delete) {fault : Fault} (gone : fault.isNotFound = true) :
      Rest task none [.tick .due, .look task.key.rule (.error fault)]

/-- Whether what a run was told falls into rounds, each a tick and all that is done at it, and what is left. -/
def Told (task : IntervalTask) (state : Option IntervalRun) (deeds : List Deed) : Prop :=
  ∃ (rounds : List (List Deed)) (rest : List Deed), (∀ work ∈ rounds, Work task work) ∧
    deeds = rounds.flatMap (.tick .due :: ·) ++ rest ∧ Rest task state rest

/-! ## What a run does with an answer -/

@[simp] theorem withHeaders_ticker (r : IntervalRun) (q : Query (Except Misconfiguration (Dict String))) :
    (r.withHeaders q).ticker = r.ticker := by
  obtain (_ | _) | _ := q <;> rfl

/-- What becomes of a run at a time, by its stage and by what it is told. -/
inductive Moves (cancelled? : Option Nat) (asked time : Nat) : IntervalRun → Deed → Option IntervalRun → Prop where
  | cancelled {task : IntervalTask} {ticker : Ticker} (waited : Waited cancelled? ticker.due asked .cancelled time) :
      Moves cancelled? asked time ⟨task, ticker, .waiting⟩ (.tick .cancelled) none
  | performs {task : IntervalTask} {ticker : Ticker} (waited : Waited cancelled? ticker.due asked .due time)
      (deletion : task.event.kind = .delete) :
      Moves cancelled? asked time ⟨task, ticker, .waiting⟩ (.tick .due)
        (some (withHeaders ⟨task, ticker.take time, .waiting⟩ (headersOf task)))
  | looks {task : IntervalTask} {ticker : Ticker} (waited : Waited cancelled? ticker.due asked .due time)
      (other : task.event.kind ≠ .delete) :
      Moves cancelled? asked time ⟨task, ticker, .waiting⟩ (.tick .due) (some ⟨task, ticker.take time, .looking⟩)
  | found {task : IntervalTask} {ticker : Ticker} (later : asked ≤ time) (rule : Rule) :
      Moves cancelled? asked time ⟨task, ticker, .looking⟩ (.look task.key.rule (.ok rule))
        (some (withHeaders ⟨task, ticker, .looking⟩ (headersOf task)))
  | gone {task : IntervalTask} {ticker : Ticker} (later : asked ≤ time) {fault : Fault}
      (gone : fault.isNotFound = true) :
      Moves cancelled? asked time ⟨task, ticker, .looking⟩ (.look task.key.rule (.error fault)) none
  | passed {task : IntervalTask} {ticker : Ticker} (later : asked ≤ time) {fault : Fault}
      (present : fault.isNotFound = false) :
      Moves cancelled? asked time ⟨task, ticker, .looking⟩ (.look task.key.rule (.error fault))
        (some ⟨task, ticker, .waiting⟩)
  | read {task : IntervalTask} {ticker : Ticker} {space name : String}
      {next : Except Fault SecretData → Query (Except Misconfiguration (Dict String))} (later : asked ≤ time)
      (answer : Except Fault SecretData) :
      Moves cancelled? asked time ⟨task, ticker, .reading space name next⟩ (.read ⟨space, name, answer⟩)
        (some (withHeaders ⟨task, ticker, .reading space name next⟩ (next answer)))
  | ran {task : IntervalTask} {ticker : Ticker} {call : Call} (later : asked ≤ time) (answer : Except Fault Unit) :
      Moves cancelled? asked time ⟨task, ticker, .running call⟩ (.call call answer)
        (some ⟨task, ticker, .waiting⟩)

variable {cancelled? : Option Nat} {asked : Nat}

theorem resume_moves (r : IntervalRun) {answer : r.demand.Answer} {now : Moment}
    (timely : r.Timely cancelled? asked answer now.nanos) (registry : Registry) :
    Moves cancelled? asked now.nanos r (r.deed answer) (r.resume now registry answer).2.going? := by
  have moves (next? : Option IntervalRun) (advances : r.Advances now answer next?) :
      Moves cancelled? asked now.nanos r (r.deed answer) next? := by
    cases advances with
    | cancelled => exact .cancelled timely
    | performs deletion => exact .performs timely deletion
    | looks other => exact .looks timely other
    | found rule => exact .found timely rule
    | gone gone => exact .gone timely gone
    | passed present => exact .passed timely present
    | read answer => exact .read timely answer
    | ran answer => exact .ran timely answer
  rcases r.resume_advances now registry answer with ⟨advances,ended⟩ | ⟨r',advances,went⟩
  · rw [ended]
    exact moves none advances
  · rw [went]
    exact moves (some r') advances

namespace Moves
variable {time : Nat} {r : IntervalRun} {deed : Deed} {state : Option IntervalRun}

theorem later (moves : Moves cancelled? asked time r deed state) : asked ≤ time := by
  cases moves with
  | cancelled waited => cases waited with | cancelled => exact Nat.le_max_left _ _
  | performs waited | looks waited => cases waited with | due => exact Nat.le_max_left _ _
  | found later | gone later | passed later | read later | ran later => exact later

theorem ends_iff (moves : Moves cancelled? asked time r deed state) : deed.Ends ↔ state = none := by
  cases moves with
  | cancelled => exact iff_of_true (rfl : Tick.cancelled = .cancelled) rfl
  | performs | looks => exact iff_of_false (fun ends : Tick.due = .cancelled => by cases ends) (Option.some_ne_none _)
  | found =>
    refine iff_of_false ?_ (Option.some_ne_none _)
    rintro ⟨_,⟨⟩,_⟩
  | gone _ gone => exact iff_of_true ⟨_,rfl,gone⟩ rfl
  | passed _ present =>
    refine iff_of_false ?_ (Option.some_ne_none _)
    rintro ⟨_,⟨⟩,gone⟩
    cases gone.symm.trans present
  | read | ran => exact iff_of_false not_false (Option.some_ne_none _)

end Moves

/-! ## Rounds -/

variable {task : IntervalTask}

/-- A tick with all that is done at it makes another round. -/
theorem told_round {rounds : List (List Deed)} (works : ∀ work ∈ rounds, Work task work) {work : List Deed}
    (done : Work task work) {r : IntervalRun} (idle : r.stage = .waiting) :
    Told task (some r) (rounds.flatMap (.tick .due :: ·) ++ .tick .due :: work) := by
  refine ⟨rounds ++ [work],[],?_,by simp,.waiting idle⟩
  intro other member
  rcases List.mem_append.mp member with earlier | last
  · exact works other earlier
  · rw [List.mem_singleton.mp last]
    exact done

/-- A query that goes on, after the rule was found and secrets were told. -/
theorem told_withHeaders {rounds : List (List Deed)} (works : ∀ work ∈ rounds, Work task work) {r : IntervalRun}
    (same : r.task = task) {look : List Deed} (looked : Looked task look) {readings : List Query.Reading}
    {q : Query (Except Misconfiguration (Dict String))} (fed : (headersOf task).Fed readings q) :
    Told task (some (r.withHeaders q))
      (rounds.flatMap (.tick .due :: ·) ++ .tick .due :: (look ++ readings.map .read)) := by
  subst same
  match q with
  | .ask space name next => exact ⟨rounds,_,works,rfl,.under (.reading looked fed)⟩
  | .done (.ok headers) => exact ⟨rounds,_,works,rfl,.under (.running looked fed)⟩
  | .done (.error cause) => exact told_round works (.unresolved looked fed) rfl

theorem Rest.of_waiting {r : IntervalRun} {rest : List Deed} (left : Rest task (some r) rest)
    (idle : r.stage = .waiting) : rest = [] := by
  cases left with
  | waiting => rfl
  | under under =>
    rw [idle] at under
    cases under

theorem Rest.of_busy {r : IntervalRun} {rest : List Deed} (left : Rest task (some r) rest)
    (busy : r.stage ≠ .waiting) : ∃ deeds, rest = .tick .due :: deeds ∧ Under task r.stage deeds := by
  cases left with
  | waiting idle => exact absurd idle busy
  | under under => exact ⟨_,rfl,under⟩

/-- A run that was told something is not lost. -/
theorem Told.ne_lost {r : IntervalRun} {deeds : List Deed} (told : Told task (some r) deeds) : r.stage ≠ .lost := by
  obtain ⟨rounds,rest,_,_,left⟩ := told
  cases left with
  | waiting idle =>
    rw [idle]
    exact nofun
  | under under =>
    intro lost
    rw [lost] at under
    cases under

/-- What a run is told next goes on with its round or begins another one. -/
theorem Told.moves {r : IntervalRun} (same : r.task = task) {deeds : List Deed} (told : Told task (some r) deeds)
    {time : Nat} {deed : Deed} {state : Option IntervalRun} (moves : Moves cancelled? asked time r deed state) :
    Told task state (deeds ++ [deed]) := by
  obtain ⟨rounds,rest,works,split,left⟩ := told
  subst split same
  rw [List.append_assoc]
  cases moves with
  | cancelled =>
    obtain rfl := left.of_waiting rfl
    exact ⟨rounds,_,works,rfl,.cancelled⟩
  | performs _ deletion =>
    obtain rfl := left.of_waiting rfl
    refine told_withHeaders works ?_ (.spared deletion) (.none _)
    rfl
  | looks _ other =>
    obtain rfl := left.of_waiting rfl
    exact ⟨rounds,_,works,rfl,.under (.looking other)⟩
  | found _ rule =>
    obtain ⟨_,rfl,under⟩ := left.of_busy (by simp)
    cases under with
    | looking other => exact told_withHeaders works rfl (.found other rule) (.none _)
  | gone _ gone =>
    obtain ⟨_,rfl,under⟩ := left.of_busy (by simp)
    cases under with
    | looking other => exact ⟨rounds,_,works,rfl,.gone other gone⟩
  | passed _ present =>
    obtain ⟨_,rfl,under⟩ := left.of_busy (by simp)
    cases under with
    | looking other => exact told_round works (.unknown other present) rfl
  | read _ answer =>
    obtain ⟨_,rfl,under⟩ := left.of_busy (by simp)
    cases under with
    | reading looked fed =>
      have more := told_withHeaders works rfl looked (fed.snoc answer)
      rwa [List.map_append,← List.append_assoc] at more
  | ran _ answer =>
    obtain ⟨_,rfl,under⟩ := left.of_busy (by simp)
    dsimp only at under
    cases under with
    | running looked resolved => exact told_round works (.called looked resolved answer) rfl

end IntervalRun

/-! ## Ticks one after the other -/

namespace Ticker
open IntervalRun (Note)

/-- The next tick is due a period after one that is taken, and later if that was taken late. -/
theorem due_add_le_take (t : Ticker) (now : Nat) : t.due + t.period.nanos ≤ (t.take now).due := by
  by_cases late : t.due + grace < now
  · simp only [take,late,if_true]
    omega
  · simp only [take,late,if_false]
    exact Nat.le_refl _

theorem take_in_time {t : Ticker} {now : Nat} (soon : now ≤ t.due + grace) :
    (t.take now).due = t.due + t.period.nanos := by
  simp only [take]
  rw [if_neg (Nat.not_lt.mpr soon)]

/-- Ticks that are taken one after the other, each as soon as it was asked for and the clock shows that it is due. -/
inductive Takes : Ticker → List Note → Ticker → Prop where
  | none (t : Ticker) : Takes t [] t
  | tick {t t' : Ticker} {note : Note} {rest : List Note} (prompt : note.time = max note.asked (shown t.due))
      (later : Takes (t.take note.time) rest t') : Takes t (note :: rest) t'

variable {t t' : Ticker} {notes : List Note} {note : Note}

theorem Takes.snoc (takes : t.Takes notes t') (prompt : note.time = max note.asked (shown t'.due)) :
    t.Takes (notes ++ [note]) (t'.take note.time) := by
  induction takes with
  | none t => exact .tick prompt (.none _)
  | tick first _ ih => exact .tick first (ih prompt)

/-- No tick comes before its time. -/
theorem Takes.not_early (takes : t.Takes notes t') {i : Nat} (place : notes[i]? = some note) :
    t.due + i * t.period.nanos ≤ note.time := by
  induction takes generalizing i with
  | none t => cases place
  | @tick t _ first rest prompt _ ih =>
    have shows := le_shown t.due
    cases i with
    | zero =>
      cases place
      omega
    | succ i =>
      have step := t.due_add_le_take first.time
      have moved := ih place
      simp only [take] at moved step
      rw [Nat.succ_mul]
      omega

/-- A tick comes at its time if it was asked for by then, and so were all before it. -/
theorem Takes.on_time (takes : t.Takes notes t') {i : Nat} (place : notes[i]? = some note)
    (asked : ∀ k ≤ i, ∀ earlier ∈ notes[k]?, earlier.asked ≤ shown (t.due + k * t.period.nanos)) :
    note.time = shown (t.due + i * t.period.nanos) := by
  induction takes generalizing i with
  | none t => cases place
  | @tick t _ first rest prompt _ ih =>
    have soon := asked 0 (Nat.zero_le i) first rfl
    rw [Nat.zero_mul,Nat.add_zero] at soon
    have came : first.time = shown t.due := prompt.trans (Nat.max_eq_right soon)
    cases i with
    | zero =>
      cases place
      rwa [Nat.zero_mul,Nat.add_zero]
    | succ i =>
      -- the clock is late by less than a millisecond, so the ticks to come stay where they were
      have next : (t.take first.time).due = t.due + t.period.nanos := by
        have late := shown_lt t.due
        refine take_in_time ?_
        simp only [grace]
        omega
      have along (k : Nat) : (t.take first.time).due + k * (t.take first.time).period.nanos =
          t.due + (k + 1) * t.period.nanos := by
        rw [next,Nat.succ_mul]
        simp only [take]
        omega
      rw [← along]
      refine ih place fun k before earlier there => ?_
      rw [along]
      exact asked (k + 1) (Nat.succ_le_succ before) earlier there

end Ticker

namespace IntervalRun

/-! ## Courses -/

variable {cancelled? : Option Nat} {asked time : Nat} {task : IntervalTask} {armed : Moment} {log : List Note}
  {state : Option IntervalRun}

/-- A tick that comes moves the ticker, and nothing else does. -/
theorem Moves.takes {r : IntervalRun} {deed : Deed} {t : Ticker} (takes : t.Takes (ticks log) r.ticker)
    (moves : Moves cancelled? asked time r deed state) :
    ∃ t', t.Takes (ticks (log ++ [⟨asked,deed,time⟩])) t' ∧ ∀ r', state = some r' → r'.ticker = t' := by
  have still {deed : Deed} (other : deed.isTick = false) : ticks (log ++ [⟨asked,deed,time⟩]) = ticks log := by
    simp [ticks,other]
  have moved : ticks (log ++ [⟨asked,.tick .due,time⟩]) = ticks log ++ [⟨asked,.tick .due,time⟩] := by
    simp [ticks,Deed.isTick]
  cases moves with
  | cancelled | gone =>
    rw [still rfl]
    exact ⟨_,takes,fun _ same => absurd same.symm (Option.some_ne_none _)⟩
  | performs waited | looks waited =>
    rw [moved]
    cases waited with
    | due => exact ⟨_,takes.snoc rfl,fun r' same => by simp [← Option.some.inj same]⟩
  | found | passed | read | ran =>
    rw [still rfl]
    exact ⟨_,takes,fun r' same => by simp [← Option.some.inj same]⟩

theorem Moves.keeps_task {r : IntervalRun} {deed : Deed} (moves : Moves cancelled? asked time r deed state) :
    ∀ r', state = some r' → r'.task = r.task := by
  cases moves with
  | cancelled | gone => exact fun _ same => absurd same.symm (Option.some_ne_none _)
  | performs | looks | found | passed | read | ran =>
    exact fun r' same => by simp [← Option.some.inj same]

namespace Timed

theorem keeps_task (timed : Timed task armed cancelled? log state time) :
    ∀ r, state = some r → r.task = task := by
  induction timed with
  | start => exact fun r same => by rw [← Option.some.inj same]; rfl
  | @step _ r _ _ _ _ timely registry ih =>
    intro r' going
    rw [(resume_moves r timely registry).keeps_task r' going,ih r rfl]

/-- Nothing is asked for before the answer to what was asked for earlier. -/
theorem ordered (timed : Timed task armed cancelled? log state time) :
    log.Pairwise (fun a b => a.time ≤ b.asked) ∧ ∀ note ∈ log, note.asked ≤ note.time ∧ note.time ≤ time := by
  induction timed with
  | start => exact ⟨.nil,List.forall_mem_nil _⟩
  | @step _ r _ _ _ now timely registry ih =>
    obtain ⟨ordered,past⟩ := ih
    have later := (resume_moves r timely registry).later
    refine ⟨List.pairwise_append.mpr ⟨ordered,List.pairwise_singleton _ _,?_⟩,?_⟩
    · intro note member last is_last
      rw [List.mem_singleton.mp is_last]
      exact (past note member).2
    · intro note member
      rcases List.mem_append.mp member with earlier | last
      · exact ⟨(past note earlier).1,Nat.le_trans (past note earlier).2 later⟩
      · rw [List.mem_singleton.mp last]
        exact ⟨later,Nat.le_refl _⟩

/-- The ticks that came are those of a ticker that was started when the task was armed. -/
theorem takes (timed : Timed task armed cancelled? log state time)
    (inside : armed.nanos + task.period.nanos < Ticker.horizon) :
    ∃ t, (Ticker.mk (armed.nanos + task.period.nanos) task.period).Takes (ticks log) t ∧
      ∀ r, state = some r → r.ticker = t := by
  induction timed with
  | start => exact ⟨_,.none _,fun r same => by rw [← Option.some.inj same,start_of_lt inside]⟩
  | @step _ r _ _ _ _ timely registry ih =>
    obtain ⟨t,takes,current⟩ := ih
    rw [← current r rfl] at takes
    exact (resume_moves r timely registry).takes takes

theorem told (timed : Timed task armed cancelled? log state time)
    (inside : armed.nanos + task.period.nanos < Ticker.horizon) : Told task state (log.map (·.deed)) := by
  induction timed with
  | start => exact ⟨[],[],List.forall_mem_nil _,rfl,.waiting (by rw [start_of_lt inside])⟩
  | @step _ r _ before _ _ timely registry ih =>
    rw [List.map_append]
    exact ih.moves (before.keeps_task r rfl) (resume_moves r timely registry)

theorem ended_iff (timed : Timed task armed cancelled? log state time) :
    state = none ↔ ∃ note ∈ log, note.deed.Ends := by
  induction timed with
  | start => exact iff_of_false (Option.some_ne_none _) (by rintro ⟨_,⟨⟩,_⟩)
  | @step _ r _ _ _ _ timely registry ih =>
    rw [← (resume_moves r timely registry).ends_iff]
    constructor
    · exact fun ends => ⟨_,List.mem_append_right _ (List.mem_singleton_self _),ends⟩
    · rintro ⟨note,member,ends⟩
      rcases List.mem_append.mp member with earlier | last
      · exact absurd (ih.mpr ⟨note,earlier,ends⟩) (Option.some_ne_none _)
      · rwa [List.mem_singleton.mp last] at ends

end Timed

theorem exists_timely {r : IntervalRun} (alive : r.stage ≠ .lost) (cancelled? : Option Nat) (asked : Nat) :
    ∃ answer time, r.Timely cancelled? asked answer time := by
  obtain ⟨task,ticker,stage⟩ := r
  cases stage with
  | waiting =>
    change ∃ tick time, Waited cancelled? ticker.due asked tick time
    cases cancelled? with
    | none => exact ⟨.due,_,.due nofun⟩
    | some time =>
      rcases Nat.le_total time (max asked (shown ticker.due)) with before | alive
      · exact ⟨.cancelled,_,.cancelled rfl before⟩
      · exact ⟨.due,_,.due fun _ same => Option.some.inj same ▸ alive⟩
  | looking => exact ⟨.error default,asked,Nat.le_refl asked⟩
  | reading => exact ⟨.error default,asked,Nat.le_refl asked⟩
  | running => exact ⟨.ok (),asked,Nat.le_refl asked⟩
  | lost => exact (alive rfl).elim

theorem demand_ne_update (r : IntervalRun) (rule : Rule) : r.demand ≠ .update rule := by
  obtain ⟨task,ticker,stage⟩ := r
  cases stage <;> exact nofun

/-- Take any course of a task for whose first tick the clock has a time. What is asked for is told before the next thing
is asked for, so ticks never overlap. No tick comes before its time, which is so many periods after the arming. It comes
when the clock shows its time, if it was asked for by then and so were all before it; if period and arming time are
whole milliseconds, that is its very time. Each tick that came is followed by all that is done at it, and then by the
next one: the action is run once, as it was armed, if the rule was found or the event was a deletion and the headers
have values, and otherwise not at all. The task has ended exactly if it was cancelled or its rule is gone. Until then it
waits for what it is told in the end, and it never waits for a status to be stored. -/
theorem Timed.keeps_pace (timed : Timed task armed cancelled? log state time)
    (inside : armed.nanos + task.period.nanos < Ticker.horizon) :
    (log.Pairwise (fun a b => a.time ≤ b.asked) ∧ ∀ note ∈ log, note.asked ≤ note.time) ∧
      (∀ i note, (ticks log)[i]? = some note →
        armed.nanos + (i + 1) * task.period.nanos ≤ note.time ∧
        ((∀ k ≤ i, ∀ earlier ∈ (ticks log)[k]?,
            earlier.asked ≤ shown (armed.nanos + (k + 1) * task.period.nanos)) →
          note.time = shown (armed.nanos + (i + 1) * task.period.nanos) ∧
          (Span.perMilli ∣ task.period.nanos →
            note.time = shown armed.nanos + (i + 1) * task.period.nanos ∧
            (Span.perMilli ∣ armed.nanos → note.time = armed.nanos + (i + 1) * task.period.nanos)))) ∧
      Told task state (log.map (·.deed)) ∧
      (state = none ↔ ∃ note ∈ log, note.deed.Ends) ∧
      ∀ r, state = some r → (∀ rule, r.demand ≠ .update rule) ∧
        ∃ answer later, r.Timely cancelled? time answer later := by
  obtain ⟨ordered,past⟩ := timed.ordered
  obtain ⟨_,takes,_⟩ := timed.takes inside
  have told := timed.told inside
  have waits : ∀ r, state = some r → (∀ rule, r.demand ≠ .update rule) ∧
      ∃ answer later, r.Timely cancelled? time answer later := by
    rintro r rfl
    exact ⟨r.demand_ne_update,exists_timely told.ne_lost cancelled? time⟩
  refine ⟨⟨ordered,fun note member => (past note member).1⟩,fun i note place => ?_,told,timed.ended_iff,waits⟩
  have nth (k : Nat) :
      armed.nanos + task.period.nanos + k * task.period.nanos = armed.nanos + (k + 1) * task.period.nanos := by
    rw [Nat.succ_mul]
    omega
  refine ⟨nth i ▸ takes.not_early place,fun asked => ?_⟩
  have came : note.time = shown (armed.nanos + (i + 1) * task.period.nanos) := by
    rw [← nth]
    refine takes.on_time place fun k before earlier there => ?_
    rw [nth]
    exact asked k before earlier there
  refine ⟨came,fun whole => ?_⟩
  have moved := came.trans (shown_add (Nat.dvd_mul_left_of_dvd whole _) _)
  exact ⟨moved,fun on_clock => by rwa [shown_of_whole on_clock] at moved⟩

end IntervalRun

namespace Sample
open IntervalRun

/-- Some seconds after the moment. -/
def after (seconds : Nat) : Moment := { moment with nanos := seconds * Span.perSecond }

def beatCall : Call := ⟨beat, event.object, "default", Dict.empty⟩

/-- A run of the task whose last tick, or whose start, was some seconds after the moment. -/
def beatRun (seconds : Nat) (stage : Stage) : IntervalRun :=
  { IntervalRun.start (beatTask ⟨2⟩) (after seconds) with stage }

/-- The first call of a task fails after twelve seconds, so its second tick is late. Then its rule cannot be looked up,
and it is cancelled before its third tick. -/
def beatLog : List Note :=
  [⟨(after 0).nanos, .tick .due, (after 10).nanos⟩,
   ⟨(after 10).nanos, .look beatKey.rule (.ok beatRule), (after 10).nanos⟩,
   ⟨(after 10).nanos, .call beatCall (.error (.status 500 "")), (after 22).nanos⟩,
   ⟨(after 22).nanos, .tick .due, (after 22).nanos⟩,
   ⟨(after 22).nanos, .look beatKey.rule (.error (.network "timed out")), (after 22).nanos⟩,
   ⟨(after 22).nanos, .tick .cancelled, (after 25).nanos⟩]

theorem beatLog_timed : Timed (beatTask ⟨2⟩) moment (some (after 25).nanos) beatLog none (after 25).nanos := by
  have soon : (beatRun 0 .waiting).Timely (some (after 25).nanos) (after 0).nanos Tick.due (after 10).nanos :=
    .due (by decide)
  have found : (beatRun 10 .looking).Timely (some (after 25).nanos) (after 10).nanos (Except.ok beatRule)
      (after 10).nanos := Nat.le_refl _
  have slow : (beatRun 10 (.running beatCall)).Timely (some (after 25).nanos) (after 10).nanos
      (Except.error (.status 500 "")) (after 22).nanos := (by decide : (after 10).nanos ≤ (after 22).nanos)
  have late : (beatRun 10 .waiting).Timely (some (after 25).nanos) (after 22).nanos Tick.due (after 22).nanos :=
    .due (by decide)
  have missed : (beatRun 22 .looking).Timely (some (after 25).nanos) (after 22).nanos
      (Except.error (.network "timed out")) (after 22).nanos := Nat.le_refl _
  have stopped : (beatRun 22 .waiting).Timely (some (after 25).nanos) (after 22).nanos Tick.cancelled
      (after 25).nanos := .cancelled rfl (by decide)
  exact (((((Timed.start.step soon {}).step found {}).step slow {}).step late {}).step missed {}).step stopped {}

/-- The first tick comes when it is due. The second one is asked for two seconds too late, and comes at once. The fault
of the call and that of the store do not end the task. -/
theorem keeps_pace_through_faults :
    Timed (beatTask ⟨2⟩) moment (some (after 25).nanos) beatLog none (after 25).nanos ∧
      moment.nanos + (beatTask ⟨2⟩).period.nanos < Ticker.horizon ∧
      (∃ first second, ticks beatLog = [first, second] ∧ first.time = (after 10).nanos ∧
        (after 20).nanos ≤ second.time ∧ second.time = (after 22).nanos) ∧
      Told (beatTask ⟨2⟩) none (beatLog.map (·.deed)) ∧ ∃ note ∈ beatLog, note.deed.Ends := by
  have inside : moment.nanos + (beatTask ⟨2⟩).period.nanos < Ticker.horizon := by decide
  obtain ⟨_,times,told,ended,_⟩ := beatLog_timed.keeps_pace inside
  refine ⟨beatLog_timed,inside,⟨_,_,rfl,?_,(times 1 _ rfl).1,rfl⟩,told,ended.mp rfl⟩
  refine ((times 0 _ rfl).2 fun k zero earlier there => ?_).1
  obtain rfl := Nat.le_zero.mp zero
  have first : earlier.asked = 0 := by rw [← Option.some.inj there]; rfl
  exact Nat.le_trans (Nat.le_of_eq first) (Nat.zero_le _)

/-- Some nanoseconds after the moment. -/
def past (nanos : Nat) : Moment := { moment with nanos }

/-- A task that is armed with the longest schedule there is breaks off: it gets no tick, and does not end when it is
cancelled. One that is armed half a millisecond past the moment waits for its first tick half a millisecond longer than
its period, since the clock does not show the time at which it is due. -/
theorem pace_lost_or_late :
    (∀ cancelled? log state time, Timed (distantTask ⟨2⟩) moment cancelled? log state time →
      log = [] ∧ ∃ r, state = some r ∧ r.stage = .lost) ∧
      ∃ log state time tick, Timed (beatTask ⟨2⟩) (past 500000) none log state time ∧ ticks log = [tick] ∧
        tick.asked = 500000 ∧ Span.perMilli ∣ (beatTask ⟨2⟩).period.nanos ∧
        tick.time ≠ 500000 + (beatTask ⟨2⟩).period.nanos := by
  constructor
  · intro cancelled? log state time timed
    induction timed with
    | start => exact ⟨rfl,_,rfl,distant_lost ⟨2⟩⟩
    | @step log r asked before answer now timely registry ih =>
      obtain ⟨_,_,⟨⟩,lost⟩ := ih
      obtain ⟨task,ticker,stage⟩ := r
      change stage = .lost at lost
      subst lost
      exact answer.elim
  · have inside : (past 500000).nanos + (beatTask ⟨2⟩).period.nanos < Ticker.horizon := by decide
    have course := @Timed.start (beatTask ⟨2⟩) (past 500000) none
    rw [start_of_lt inside] at course
    have tick : Timely none 500000 ⟨beatTask ⟨2⟩,⟨10000500000,⟨10000000000⟩⟩,.waiting⟩ Tick.due
        (past 10001000000).nanos := .due nofun
    exact ⟨_,_,_,_,course.step tick {},rfl,rfl,by decide,by decide⟩

end Sample
end Callout
