import Callout.Rehearsal.Activity

/-!
Running activities side by side on a clock that stands still while anything can be done. An activity runs until it
waits; then the next one that can go on does. When all wait, the clock goes to the next moment at which one of
them goes on. What an activity asks for is answered by stand-ins.
-/
namespace Callout.Rehearsal

/-- What stand-ins say to a demand. -/
inductive Reply (d : Demand) where
  | now (answer : d.Answer)
  /-- From a time on, in milliseconds: an answer, or a demand that is asked again. -/
  | later (time : Nat) (answer? : Option d.Answer)
  /-- Nothing yet. -/
  | pending
  /-- Nothing, ever. -/
  | never

/-- Stand-ins for what is around the engine. -/
structure StandIns (σ : Type) where
  /-- What is said to a demand at a time, when it is asked at first or again. -/
  reply : Nat → Bool → σ → (d : Demand) → σ × Reply d
  /-- A session began. -/
  opened : σ → Session → σ
  /-- Times at which a stand-in moves by itself. -/
  alarms : σ → List Nat := fun _ => []

/-- How an activity waits. -/
inductive Waiting (d : Demand) where
  /-- It asks, or asks again. -/
  | asking (again : Bool)
  /-- Its answer is there from a time on. -/
  | holding (time : Nat) (answer? : Option d.Answer)
  | forever

/-- An activity that runs beside others. -/
structure Running where
  id : Nat
  activity : Activity
  waiting : Waiting activity.demand := .asking false
  /-- When it began to wait, among all that do. -/
  turn : Nat := 0

/-- Activities that run side by side. -/
structure Run (σ : Type) where
  settings : EngineSettings := {}
  standIns : StandIns σ
  state : σ
  /-- The time in milliseconds. -/
  now : Nat := 0
  registry : Registry := {}
  activities : List Running := []
  /-- Those that can go on, in order. -/
  queue : List Nat := []
  /-- How many activities began. -/
  begun : Nat := 0
  /-- How many turns ended. -/
  turns : Nat := 0
  results : List (Nat × Activity.Result) := []

/-- The millisecond in which a time, in nanoseconds, has come. -/
def millisecond (nanos : Nat) : Nat := (nanos + Span.perMilli - 1) / Span.perMilli

namespace Run
variable {σ : Type}

/-- What a calendar shows: the clock begins on the first of January 1970. -/
def calendar (millis : Nat) : Timestamp :=
  ⟨Int.ofNat (millis / 86400000), millis / 1000 % 86400, millis % 1000 * Span.perMilli⟩

/-- The moment on the clock. -/
def moment (r : Run σ) : Moment := ⟨r.now * Span.perMilli, calendar r.now⟩

/-- What is said to a demand. Waits that only need the clock or a token need no stand-in. -/
def reply (r : Run σ) (again : Bool) (d : Demand) : σ × Reply d :=
  match d with
  | .pause span =>
    let time := millisecond (r.now * Span.perMilli + span.nanos)
    (r.state, if time ≤ r.now then .now () else .later time (some ()))
  | .tick due token =>
    (r.state,
      if r.registry.isCancelled token then .now .cancelled
      else if millisecond due ≤ r.now then .now .due else .pending)
  | .notification session =>
    if r.registry.isCancelled session.token then (r.state, .now .cancelled)
    else r.standIns.reply r.now again r.state (.notification session)
  | .news due =>
    if r.registry.isCancelled Registry.root then (r.state, .now .cancelled)
    else if millisecond due ≤ r.now then (r.state, .now .due)
    else r.standIns.reply r.now again r.state (.news due)
  | d => r.standIns.reply r.now again r.state d

/-- One more activity, which goes on after those that can. -/
def begin (r : Run σ) (activity : Activity) : Run σ :=
  { r with
    activities := r.activities ++ [{ id := r.begun, activity }], queue := r.queue ++ [r.begun],
    begun := r.begun + 1 }

/-- One more session, with its activity. -/
def beginSession (r : Run σ) (session : Session) : Run σ :=
  { r with state := r.standIns.opened r.state session }.begin (.watch (.start session))

/-- One more interval task, with its activity. -/
def beginTask (r : Run σ) (task : IntervalTask) : Run σ := r.begin (.task (.start task r.moment))

/-- An activity in place of what it was. -/
def put (r : Run σ) (running : Running) : Run σ :=
  { r with activities := r.activities.map fun p => if p.id = running.id then running else p }

/-- An activity that waits: the next one goes on. -/
def suspend (r : Run σ) (running : Running) : Run σ :=
  { r with queue := r.queue.filter (· ≠ running.id), turns := r.turns + 1 }.put { running with turn := r.turns }

/-- An activity that ended. -/
def finish (r : Run σ) (id : Nat) (result : Activity.Result) : Run σ :=
  { r with
    activities := r.activities.filter (·.id ≠ id), queue := r.queue.filter (· ≠ id),
    results := r.results ++ [(id, result)] }

/-- An activity given an answer. -/
def answered (r : Run σ) (id : Nat) (activity : Activity) (answer : activity.demand.Answer) : Run σ :=
  let o := activity.resume r.settings r.moment r.registry answer
  let r := { r with registry := o.registry }
  let r := match o.progress with
    | .waiting activity => r.put { id, activity }
    | .finished result => r.finish id result
  o.sessions.foldl beginSession (o.armed.foldl beginTask r)

/-- An activity as it asks. -/
def ask (r : Run σ) (running : Running) (again : Bool) : Run σ :=
  let (state, reply) := r.reply again running.activity.demand
  let r := { r with state }
  match reply with
  | .now answer => r.answered running.id running.activity answer
  | .later time answer? => r.suspend { running with waiting := .holding time answer? }
  | .pending => r.suspend { running with waiting := .asking again }
  | .never => r.suspend { running with waiting := .forever }

/-- The turn of an activity. -/
def turn (r : Run σ) (running : Running) : Run σ :=
  match running with
  | ⟨_, _, .asking again, _⟩ => r.ask running again
  | ⟨id, activity, .holding time answer?, _⟩ =>
    if r.now < time then r.suspend running
    else
      match answer? with
      | some answer => r.answered id activity answer
      | none => r.ask running true
  | ⟨_, _, .forever, _⟩ => r.suspend running

/-- Whether an activity can go on. -/
def canGoOn (r : Run σ) (running : Running) : Bool :=
  match running.waiting with
  | .asking again =>
    match (r.reply again running.activity.demand).2 with
    | .pending => false
    | _ => true
  | .holding time _ => time ≤ r.now
  | .forever => false

/-- Those that can go on join the queue, in the order in which they began to wait. -/
def wake (r : Run σ) : Run σ :=
  let ready := r.activities.filter fun p => !r.queue.contains p.id && r.canGoOn p
  { r with queue := r.queue ++ (ready.mergeSort (·.turn ≤ ·.turn)).map (·.id) }

/-- Activities run until all of them wait, for a bounded number of turns. -/
def settleWithin : Nat → Run σ → Run σ
  | 0, r => r
  | bound + 1, r =>
    let r := if r.queue.isEmpty then r.wake else r
    match r.queue with
    | [] => r
    | id :: rest =>
      match r.activities.find? (·.id = id) with
      | none => settleWithin bound { r with queue := rest }
      | some running => settleWithin bound (r.turn running)

/-- How many turns are taken at most while the clock stands still. -/
def patience : Nat := 1000000

/-- Activities run until all of them wait. -/
def settle (r : Run σ) : Run σ := settleWithin patience r

/-- The time at which an activity goes on by itself. -/
def alarm? (running : Running) : Option Nat :=
  match running.waiting with
  | .holding time _ => some time
  | .forever => none
  | .asking _ =>
    match running.activity.demand with
    | .tick due _ | .news due => some (millisecond due)
    | _ => none

/-- The next time at which anything goes on by itself. -/
def nextAlarm? (r : Run σ) : Option Nat :=
  ((r.activities.filterMap alarm? ++ r.standIns.alarms r.state).filter (r.now < ·)).min?

/-- The clock goes on to a time; all that is due on the way is done when it is due. -/
def reach : Nat → Nat → Run σ → Run σ
  | 0, _, r => r
  | bound + 1, time, r =>
    let r := r.settle
    match r.nextAlarm? with
    | some alarm => if alarm ≤ time then reach bound time { r with now := alarm } else { r with now := time }.settle
    | none => { r with now := time }.settle

/-- The clock goes on for some milliseconds. -/
def advance (r : Run σ) (millis : Nat) : Run σ := reach patience (r.now + millis) r

/-- Whether an activity ended. -/
def hasEnded (r : Run σ) (id : Nat) : Bool := r.results.any (·.1 = id)

/-- The clock goes on until some activities have ended. -/
def awaitWithin : Nat → List Nat → Run σ → Run σ
  | 0, _, r => r
  | bound + 1, ids, r =>
    let r := r.settle
    if ids.all r.hasEnded then r
    else
      match r.nextAlarm? with
      | none => r
      | some alarm => awaitWithin bound ids { r with now := alarm }

/-- What activities that begin together end with. The clock goes on until all have ended. -/
def await (r : Run σ) (activities : List Activity) : Run σ × List Activity.Result :=
  let ids := (List.range activities.length).map (r.begun + ·)
  let r := awaitWithin patience ids (activities.foldl begin r)
  (r, ids.filterMap (r.results.lookup ·))

end Run
end Callout.Rehearsal
