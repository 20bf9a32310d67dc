import Callout.Proofs.Archive
import Callout.Proofs.Basic
import Callout.Rehearsal.Activity

/-!
The engine among its surroundings. Any number of activities wait at the same time, and any of them may be the next
one to go on (`Step`). A demand to the outside is met at some time between the one at which it is made and the one
at which its answer is taken, and others may step in on both sides; a wait for a token or a notification is
decided when the activity goes on. A run keeps all that happened, latest first (`Run`).
-/
namespace Callout

/-- An activity that waits, and the answer that is on its way to it. -/
structure Pending where
  activity : Activity
  answer? : Option activity.demand.Answer := none

/-- The engine with all activities that wait, and the stored rules. -/
structure World where
  registry : Registry := {}
  pending : List Pending := []
  archive : Archive := {}

/-! ## Decisions of the moment -/

/-- A cancelled token goes before a tick that is due. -/
def Tick.Fits (cancelled : Bool) : Tick → Prop
  | .due => cancelled = false
  | .cancelled => cancelled = true

/-- A cancelled token goes before a notification. -/
def Item.Fits (cancelled : Bool) : Item → Prop
  | .next _ | .ended => cancelled = false
  | .cancelled => cancelled = true

/-- A cancelled token goes before news. -/
def News.Fits (cancelled : Bool) : News → Prop
  | .due | .next _ | .ended => cancelled = false
  | .cancelled => cancelled = true

/-- What may come of a wait that is decided when its activity goes on. -/
def Registry.Decides (r : Registry) : (d : Demand) → d.Answer → Prop
  | .tick _ token, answer => Tick.Fits (r.isCancelled token) answer
  | .notification session, answer => Item.Fits (r.isCancelled session.token) answer
  | .news _, answer => News.Fits (r.isCancelled root) answer
  | .rules, _ | .rule _, _ | .update _, _ | .secret _ _, _ | .run _, _ | .resolve _, _ | .pause _, _ => False
  | .never, _ => False

/-- An answer with which an activity may go on: the one that is there for it, or one of the moment. -/
def Pending.Takes (p : Pending) (r : Registry) (answer : p.activity.demand.Answer) : Prop :=
  p.answer? = some answer ∨ p.answer? = none ∧ r.Decides p.activity.demand answer

namespace Activity

/-- What the engine may be asked for at any time. -/
def IsRequest : Activity → Prop
  | .delivery (.listing _) | .arming _ | .unopened _ | .opening _ | .reconciling _ | .reconciler _ => True
  | .delivery (.dispatching _ _ _) | .task _ | .watch _ => False

/-- The activity itself after a step, unless it ended. -/
def Outcome.next (o : Outcome) : List Pending :=
  match o.progress with
  | .waiting activity => [⟨activity, none⟩]
  | .finished _ => []

/-- What waits after a step in place of an activity: itself, and the tasks and sessions that it began. -/
def Outcome.pending (o : Outcome) (now : Moment) : List Pending :=
  o.next ++ o.armed.map (fun task => ⟨.task (.start task now), none⟩) ++
    o.sessions.map (fun session => ⟨.watch (.start session), none⟩)

/-- What waits after a step, of one kind. -/
theorem Outcome.filterMap_pending {α : Type} (o : Outcome) (now : Moment) (kind : Pending → Option α) :
    (o.pending now).filterMap kind =
      o.next.filterMap kind ++ o.armed.filterMap (fun task => kind ⟨.task (.start task now),none⟩) ++
        o.sessions.filterMap (fun session => kind ⟨.watch (.start session),none⟩) := by
  simp only [Outcome.pending,List.filterMap_append,List.filterMap_map]
  rfl

end Activity

/-! ## Steps -/

/-- What happens at a step. -/
inductive Happening where
  /-- The engine is asked for an activity. -/
  | requested (activity : Activity)
  /-- A demand is met, on an archive; a rule may be stored with it. -/
  | served (archive : Archive) (activity : Activity) (answer : activity.demand.Answer) (stored? : Option Rule)
  /-- An activity takes an answer and goes on. -/
  | resumed (registry : Registry) (activity : Activity) (answer : activity.demand.Answer)
      (outcome : Activity.Outcome)
  /-- A type is watched no longer; its session, if it had one, is over. -/
  | stopped (type : ResourceType) (session? : Option Session)
  | shutDown
  /-- Others changed the stored rules. -/
  | changed
  /-- The process was replaced by a new one. -/
  | restarted

/-- One step. Everything that is inside the engine is lost when its process is replaced. -/
inductive Step (settings : EngineSettings) (w : World) : Happening → World → Prop where
  | request (activity : Activity) (asked : activity.IsRequest) :
      Step settings w (.requested activity) { w with pending := ⟨activity, none⟩ :: w.pending }
  | serve (before : List Pending) {after : List Pending} {activity : Activity}
      (place : w.pending = before ++ ⟨activity, none⟩ :: after) (answer : activity.demand.Answer)
      (stored? : Option Rule) (served : w.archive.Serves stored? activity.demand answer) :
      Step settings w (.served w.archive activity answer stored?)
        { w with
          pending := before ++ ⟨activity, some answer⟩ :: after, archive := w.archive.putIfSome stored? }
  | resume (before : List Pending) {after : List Pending} {p : Pending} {answer : p.activity.demand.Answer}
      {o : Activity.Outcome} (now : Moment) (place : w.pending = before ++ p :: after)
      (taken : p.Takes w.registry answer) (went : p.activity.resume settings now w.registry answer = o) :
      Step settings w (.resumed w.registry p.activity answer o)
        { w with registry := o.registry, pending := before ++ o.pending now ++ after }
  | stop (type : ResourceType) :
      Step settings w (.stopped type (w.registry.session? type))
        { w with registry := (w.registry.stopWatching type).1 }
  | shutDown : Step settings w .shutDown { w with registry := w.registry.shutdown }
  | change {archive : Archive} (changed : w.archive.Change archive) :
      Step settings w .changed { w with archive }
  | restart : Step settings w .restarted { archive := w.archive }

/-- A run from nothing, with what happened in it, latest first. -/
inductive Run (settings : EngineSettings) : List Happening → World → Prop where
  | start : Run settings [] {}
  | step {history : List Happening} {w w' : World} {happening : Happening} :
      Run settings history w → Step settings w happening w' → Run settings (happening :: history) w'

/-! ## Steps of the activity in front -/

theorem Run.told {settings : EngineSettings} {history : List Happening} {registry : Registry} {activity : Activity}
    {rest : List Pending} {archive : Archive}
    (run : Run settings history ⟨registry,⟨activity,none⟩ :: rest,archive⟩) (answer : activity.demand.Answer)
    {stored? : Option Rule} (served : archive.Serves stored? activity.demand answer) :
    Run settings (.served archive activity answer stored? :: history)
      ⟨registry,⟨activity,some answer⟩ :: rest,archive.putIfSome stored?⟩ :=
  run.step (.serve [] rfl answer stored? served)

theorem Run.goes {settings : EngineSettings} {history : List Happening} {registry : Registry} {activity : Activity}
    {answer : activity.demand.Answer} {rest : List Pending} {archive : Archive}
    (run : Run settings history ⟨registry,⟨activity,some answer⟩ :: rest,archive⟩) (now : Moment)
    {o : Activity.Outcome} (went : activity.resume settings now registry answer = o) :
    Run settings (.resumed registry activity answer o :: history)
      ⟨o.registry,o.pending now ++ rest,archive⟩ :=
  run.step (@Step.resume _ _ [] rest ⟨activity,some answer⟩ answer o now rfl (.inl rfl) went)

theorem Run.decides {settings : EngineSettings} {history : List Happening} {registry : Registry}
    {activity : Activity} {rest : List Pending} {archive : Archive}
    (run : Run settings history ⟨registry,⟨activity,none⟩ :: rest,archive⟩) (now : Moment)
    (answer : activity.demand.Answer) (decided : registry.Decides activity.demand answer)
    {o : Activity.Outcome} (went : activity.resume settings now registry answer = o) :
    Run settings (.resumed registry activity answer o :: history)
      ⟨o.registry,o.pending now ++ rest,archive⟩ :=
  run.step (@Step.resume _ _ [] rest ⟨activity,none⟩ answer o now rfl (.inr ⟨rfl,decided⟩) went)

/-! ## A rule, an event and a moment, for runs of a few steps -/

namespace Sample

/-- The type of config maps. -/
def type : ResourceType := ⟨"", "v1", "ConfigMap"⟩

/-- A rule that runs an action when a config map is created. -/
def rule (action : Action) : Rule where
  metadata := { name? := some "r", space? := some "default", version? := some "1", uid? := some "uid-1" }
  spec := { selector := type, events := [.create], actions := [action] }

/-- A config map. -/
def raw : Json :=
  .object
    [("metadata", .object
      [("name", .text "cm-a"), ("namespace", .text "default"), ("resourceVersion", .text "1"),
        ("uid", .text "uid-a")])]

/-- The config map is created. -/
def event : Event where
  kind := .create
  type := type
  lastKnown := false
  object := { name := "cm-a", space? := some "default", uid := "uid-a", version? := some "1", labels := .empty, raw }

/-- The first of January 2024. -/
def moment : Moment := ⟨0, ⟨19723, 0, 0⟩⟩

/-- A rule with the record of the event, as a dispatch stores it. -/
def recorded (rule : Rule) (version : String) : Rule :=
  rule.restated
    (some ((rule.status?.getD {}).record ⟨event.object.identity, event.kind, moment.wall⟩ (.ok ())
      rule.metadata.generation? moment.wall))
    (some version)

/-- A rule that runs one action once. -/
def onceRule : Rule := rule { url := "http://hook/once" }

theorem created (rule : Rule) : Archive.Change {} (Archive.put {} rule) :=
  .create rfl (by simp [Archive.versions]) (by simp [Archive.Admits,Archive.versions])

theorem recorded_admitted : Archive.Admits ⟨[(onceRule.id,some onceRule)]⟩ (recorded onceRule "2") := by
  intro old member id version
  cases List.mem_singleton.mp (show old ∈ [onceRule] from member)
  exact absurd version (by decide)

end Sample

end Callout
