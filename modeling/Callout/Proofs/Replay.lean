import Callout.Tracking

/-!
What the events of a watch say, replayed. A creation and an update put an object among those that exist, and a
deletion takes it out (`replay`). A tracker goes from act to act: it is shown an object, or tells that one is gone
(`Tracker.Acts`); which of the objects that are gone it tells first is left open. Along every such course the events
replay to the objects that are tracked (`Tracker.Course.sound`), and every notification is a course
(`Tracker.Course.push`), so the same holds after all notifications (`follow_replays`).
-/
namespace Callout

/-! ## Replaying -/

/-- Which objects exist, by identity, after an event. -/
def Event.replay (e : Event) (live : String → Bool) : String → Bool :=
  fun id => if id = e.object.identity then e.kind ≠ .delete else live id

/-- Which objects exist, by identity, after some events. -/
def replay (events : List Event) : String → Bool := events.foldl (fun live e => e.replay live) fun _ => false

/-- The last of some snapshots that is one of an object. -/
def latest (seen : List Snapshot) (id : String) : Option Snapshot := (seen.filter (·.identity = id)).getLast?

theorem replay_append (before after : List Event) :
    replay (before ++ after) = after.foldl (fun live e => e.replay live) (replay before) := List.foldl_append

theorem latest_append (seen : List Snapshot) (object : Snapshot) (id : String) :
    latest (seen ++ [object]) id = if id = object.identity then some object else latest seen id := by
  unfold latest
  by_cases same : object.identity = id
  · simp [same]
  · simp [same,Ne.symm same]

/-! ## Notifications -/

/-- The objects that a notification shows to exist. -/
def Notification.shown : Notification → List Snapshot
  | .applied object => (Snapshot.ofRaw object).toList
  | .deleted _ => []
  | .restarted objects => objects.filterMap Snapshot.ofRaw

/-- The objects that a notification tells of. -/
def Notification.objects : Notification → List Snapshot
  | .applied object | .deleted object => (Snapshot.ofRaw object).toList
  | .restarted objects => objects.filterMap Snapshot.ofRaw

/-- No object has an identifier that is the name of one. -/
def Apart (objects : List Snapshot) : Prop :=
  ∀ object ∈ objects, ∀ other ∈ objects, object.uid ≠ "" → object.uid ≠ other.key

instance (objects : List Snapshot) : Decidable (Apart objects) :=
  inferInstanceAs (Decidable (∀ object ∈ objects, ∀ other ∈ objects, object.uid ≠ "" → object.uid ≠ other.key))

/-- A tracker after some notifications, and the events that they amount to. -/
def Tracker.follow (t : Tracker) : List Notification → Tracker × List Event
  | [] => (t, [])
  | notification :: rest =>
    let (t, events) := t.push notification
    let (t, more) := t.follow rest
    (t, events ++ more)

/-! ## Acts -/

/-- What a tracker does at one time: it may be shown an object that exists, and it may tell an event. -/
structure Act where
  seen? : Option Snapshot
  event? : Option Event

/-- The objects that were shown. -/
def sights (acts : List Act) : List Snapshot := acts.filterMap (·.seen?)

/-- The events that were told. -/
def told (acts : List Act) : List Event := acts.filterMap (·.event?)

@[simp] theorem sights_append (before after : List Act) : sights (before ++ after) = sights before ++ sights after :=
  List.filterMap_append

@[simp] theorem told_append (before after : List Act) : told (before ++ after) = told before ++ told after :=
  List.filterMap_append

@[simp] theorem sights_single (act : Act) : sights [act] = act.seen?.toList := by
  simp only [sights,List.filterMap_cons,List.filterMap_nil]
  cases act.seen? <;> rfl

@[simp] theorem told_single (act : Act) : told [act] = act.event?.toList := by
  simp only [told,List.filterMap_cons,List.filterMap_nil]
  cases act.event? <;> rfl

/-- What an act may be after others. A creation is told of an object that does not exist, an update of one that does
and that has no version or another one than when it was last shown. An object that does not exist and is shown is
told to be created. -/
structure Act.Fits (type : ResourceType) (past : List Act) (act : Act) : Prop where
  create : ∀ e ∈ act.event?, e.kind = .create → act.seen? = some e.object ∧
    replay (told past) e.object.identity = false
  update : ∀ e ∈ act.event?, e.kind = .update → act.seen? = some e.object ∧
    replay (told past) e.object.identity = true ∧ ∃ previous, latest (sights past) e.object.identity = some previous ∧
      (previous.version? = none ∨ previous.version? ≠ e.object.version?)
  appear : ∀ object ∈ act.seen?, replay (told past) object.identity = false →
    act.event? = some ⟨.create, type, false, object⟩

namespace Tracker

/-- The acts of a tracker, of objects among some. -/
inductive Acts (objects : List Snapshot) (t : Tracker) : Act → Tracker → Prop where
  /-- An object that exists is shown. -/
  | observed {object : Snapshot} (among : object ∈ objects) :
      Acts objects t ⟨some object, (t.observe object).2⟩ (t.observe object).1
  /-- An object with an identifier is gone. -/
  | deleted {object : Snapshot} (named : object.uid ≠ "") :
      Acts objects t ⟨none, some (t.live .delete object)⟩ { t with known := t.known.erase object.uid }
  /-- A tracked object is gone. -/
  | lost {id : String} {last : Snapshot} (tracked : t.known.get? id = some last) :
      Acts objects t ⟨none, some (t.tombstone last)⟩ { t with known := t.known.erase id }
  /-- An object is gone that has no identifier, and whose name no tracked object has. -/
  | unknown {object : Snapshot} (among : object ∈ objects) (unnamed : object.uid = "")
      (missing : ∀ id last, t.known.get? id = some last → last.key ≠ object.key) :
      Acts objects t ⟨none, some (t.tombstone object)⟩ t

/-- A tracker that has seen nothing at first, after some acts. -/
inductive Course (objects : List Snapshot) (type : ResourceType) : List Act → Tracker → Prop where
  | start : Course objects type [] (.new type)
  | act {acts : List Act} {t t' : Tracker} {act : Act} :
      Course objects type acts t → t.Acts objects act t' → Course objects type (acts ++ [act]) t'

/-- What is tracked after some acts: the objects that exist, each as it was last shown. -/
structure Sound (objects : List Snapshot) (type : ResourceType) (acts : List Act) (t : Tracker) : Prop where
  type : t.type = type
  live : ∀ id, (t.known.get? id).isSome = replay (told acts) id
  last : ∀ id object, t.known.get? id = some object →
    object.identity = id ∧ latest (sights acts) id = some object ∧ object ∈ objects

theorem observe_fst (t : Tracker) (object : Snapshot) :
    (t.observe object).1 = { t with known := t.known.insert object.identity object } := by
  unfold observe
  dsimp only
  split
  · rfl
  · split <;> rfl

theorem observe_of_untracked {t : Tracker} {object : Snapshot} (free : t.known.get? object.identity = none) :
    (t.observe object).2 = some (t.live .create object) := by
  simp [observe,free]

theorem observe_of_tracked {t : Tracker} {object previous : Snapshot}
    (tracked : t.known.get? object.identity = some previous) :
    (t.observe object).2 = if previous.version?.isSome ∧ previous.version? = object.version? then none
      else some (t.live .update object) := by
  simp only [observe,tracked]
  split <;> rfl

/-! ## Sound courses -/

namespace Sound
variable {objects : List Snapshot} {type : ResourceType} {acts : List Act} {t : Tracker}

theorem start (objects : List Snapshot) (type : ResourceType) : Sound objects type [] (.new type) := by
  refine ⟨rfl,fun id => rfl,?_⟩
  intro id object tracked
  cases tracked

/-- An object that is tracked no longer, and the event that says so. -/
theorem erase (sound : Sound objects type acts t) {e : Event} (deletes : e.kind = .delete) :
    Sound objects type (acts ++ [⟨none,some e⟩]) { t with known := t.known.erase e.object.identity } := by
  refine ⟨sound.type,?_,?_⟩
  · intro id
    simp only [Dict.get?_erase,told_append,told_single,Option.toList_some,replay_append,Event.replay,List.foldl_cons,
      List.foldl_nil,deletes]
    split
    · simp
    · exact sound.live id
  · intro id object tracked
    rw [Dict.get?_erase] at tracked
    split at tracked
    · cases tracked
    · simpa using sound.last id object tracked

/-- An object that is tracked from now on, as it is shown. -/
theorem insert (sound : Sound objects type acts t) {object : Snapshot} (among : object ∈ objects)
    {event? : Option Event} (exists_after : ∀ id,
      (event?.toList.foldl (fun live e => e.replay live) (replay (told acts))) id =
        if id = object.identity then true else replay (told acts) id) :
    Sound objects type (acts ++ [⟨some object,event?⟩])
      { t with known := t.known.insert object.identity object } := by
  refine ⟨sound.type,?_,?_⟩
  · intro id
    rw [told_append,told_single,replay_append,exists_after,Dict.get?_insert]
    split
    · rfl
    · exact sound.live id
  · intro id last tracked
    rw [Dict.get?_insert] at tracked
    rw [sights_append,sights_single,Option.toList_some,latest_append]
    split at tracked
    · rename_i here
      cases tracked
      simp [here,among]
    · rename_i other
      simpa [other] using sound.last id last tracked

theorem observe (sound : Sound objects type acts t) {object : Snapshot} (among : object ∈ objects) :
    Act.Fits type acts ⟨some object,(t.observe object).2⟩ ∧
      Sound objects type (acts ++ [⟨some object,(t.observe object).2⟩]) (t.observe object).1 := by
  have live := sound.live object.identity
  rw [observe_fst]
  cases tracked : t.known.get? object.identity with
  | none =>
    rw [tracked] at live
    rw [observe_of_untracked tracked]
    refine ⟨⟨?_,?_,?_⟩,sound.insert among fun id => ?_⟩
    · rintro e ⟨⟩ _
      exact ⟨rfl,live.symm⟩
    · rintro e ⟨⟩ ⟨⟩
    · rintro other ⟨⟩ _
      simp [Tracker.live,sound.type]
    · simp [Event.replay,Tracker.live]
  | some previous =>
    rw [tracked] at live
    obtain ⟨_,shown,_⟩ := sound.last object.identity previous tracked
    rw [observe_of_tracked tracked]
    split
    · -- the version was seen before, and nothing is told
      refine ⟨⟨?_,?_,?_⟩,sound.insert among fun id => ?_⟩
      · rintro e ⟨⟩
      · rintro e ⟨⟩
      · rintro other ⟨⟩ gone
        cases live.trans gone
      · by_cases here : id = object.identity
        · simpa [here] using live.symm
        · simp [here]
    · rename_i changed
      refine ⟨⟨?_,?_,?_⟩,sound.insert among fun id => ?_⟩
      · rintro e ⟨⟩ ⟨⟩
      · rintro e ⟨⟩ _
        refine ⟨rfl,live.symm,previous,shown,?_⟩
        cases version : previous.version? with
        | none => exact .inl rfl
        | some seen => exact .inr (by simpa [version,Tracker.live] using changed)
      · rintro other ⟨⟩ gone
        cases live.trans gone
      · simp [Event.replay,Tracker.live]

/-- An object without identifier does not exist when no tracked object has its name. -/
theorem not_live (sound : Sound objects type acts t) (apart : Apart objects) {object : Snapshot}
    (among : object ∈ objects) (missing : ∀ id last, t.known.get? id = some last → last.key ≠ object.key) :
    t.known.get? object.key = none := by
  cases tracked : t.known.get? object.key with
  | none => rfl
  | some last =>
    obtain ⟨identity,_,inside⟩ := sound.last _ last tracked
    unfold Snapshot.identity at identity
    split at identity
    · exact (missing _ last tracked identity).elim
    · rename_i named
      exact (apart last inside object among named identity).elim

theorem act (sound : Sound objects type acts t) (apart : Apart objects) {act : Act} {t' : Tracker}
    (acted : t.Acts objects act t') : act.Fits type acts ∧ Sound objects type (acts ++ [act]) t' := by
  have deletes : ∀ {e : Event}, e.kind = .delete → Act.Fits type acts ⟨none,some e⟩ := by
    rintro e deletes
    refine ⟨?_,?_,?_⟩
    · rintro e ⟨⟩ creates
      cases deletes.symm.trans creates
    · rintro e ⟨⟩ updates
      cases deletes.symm.trans updates
    · rintro object ⟨⟩
  cases acted with
  | observed among => exact sound.observe among
  | @deleted object named =>
    refine ⟨deletes rfl,?_⟩
    have identity : (t.live .delete object).object.identity = object.uid := by
      simp [Tracker.live,Snapshot.identity,named]
    rw [← identity]
    exact sound.erase rfl
  | @lost id last tracked =>
    refine ⟨deletes rfl,?_⟩
    have identity : (t.tombstone last).object.identity = id := (sound.last id last tracked).1
    rw [← identity]
    exact sound.erase rfl
  | @unknown object among unnamed missing =>
    refine ⟨deletes rfl,sound.type,?_,?_⟩
    · have identity : (t.tombstone object).object.identity = object.key := by
        simp [tombstone,Snapshot.identity,unnamed]
      intro id
      simp only [told_append,told_single,Option.toList_some,replay_append,Event.replay,List.foldl_cons,List.foldl_nil,
        identity]
      split
      · rename_i here
        rw [here,sound.not_live apart among missing]
        rfl
      · exact sound.live id
    · intro id last tracked
      simpa using sound.last id last tracked

end Sound

/-- Along every course the tracked objects are those that exist, and every act fits those before it. -/
theorem Course.sound {objects : List Snapshot} {type : ResourceType} (apart : Apart objects) {acts : List Act}
    {t : Tracker} (course : Course objects type acts t) :
    Sound objects type acts t ∧ ∀ past act rest, acts = past ++ act :: rest → act.Fits type past := by
  induction course with
  | start => exact ⟨.start objects type,fun past act rest same => by simp at same⟩
  | @act acts t t' act course acted ih =>
    obtain ⟨sound,fits⟩ := ih
    obtain ⟨new,sound⟩ := sound.act apart acted
    refine ⟨sound,fun past other rest same => ?_⟩
    rcases List.eq_nil_or_concat rest with rfl | ⟨rest,last,rfl⟩
    · obtain ⟨rfl,rfl⟩ : acts = past ∧ act = other := by simpa using List.append_inj' same rfl
      exact new
    · rw [List.concat_eq_append,← List.cons_append,← List.append_assoc] at same
      obtain ⟨rfl,_⟩ := List.append_inj' same rfl
      exact fits past other rest rfl

/-! ## Notifications are courses -/

namespace Course
variable {objects : List Snapshot} {type : ResourceType} {acts : List Act} {t : Tracker}

/-- Some acts more, with the events told and the objects shown in them. -/
def Goes (objects : List Snapshot) (type : ResourceType) (acts : List Act) (t' : Tracker) (events : List Event)
    (shown : List Snapshot) : Prop :=
  ∃ more, Course objects type (acts ++ more) t' ∧ told more = events ∧ sights more = shown

theorem type_eq (course : Course objects type acts t) : t.type = type := by
  induction course with
  | start => rfl
  | @act acts t t' act course acted ih =>
    cases acted with
    | observed among =>
      rw [observe_fst]
      exact ih
    | deleted named => exact ih
    | lost tracked => exact ih
    | unknown among unnamed missing => exact ih

theorem goes_nothing (course : Course objects type acts t) : Goes objects type acts t [] [] :=
  ⟨[],by simpa using course,rfl,rfl⟩

theorem goes_act (course : Course objects type acts t) {act : Act} {t' : Tracker} (acted : t.Acts objects act t') :
    Goes objects type acts t' act.event?.toList act.seen?.toList :=
  ⟨[act],course.act acted,told_single act,sights_single act⟩

theorem Goes.trans {t₁ t₂ : Tracker} {events more : List Event} {shown others : List Snapshot}
    (goes : Goes objects type acts t₁ events shown)
    (next : ∀ {acts : List Act}, Course objects type acts t₁ → Goes objects type acts t₂ more others) :
    Goes objects type acts t₂ (events ++ more) (shown ++ others) := by
  obtain ⟨first,course,rfl,rfl⟩ := goes
  obtain ⟨second,course,rfl,rfl⟩ := next course
  exact ⟨first ++ second,by simpa using course,by simp,by simp⟩

theorem observeAll (course : Course objects type acts t) (list : List Snapshot)
    (among : ∀ object ∈ list, object ∈ objects) :
    Goes objects type acts (t.observeAll list).1 (t.observeAll list).2 list := by
  induction list generalizing acts t with
  | nil => exact course.goes_nothing
  | cons object rest ih =>
    have first := course.goes_act (.observed (among object List.mem_cons_self))
    exact first.trans fun course => ih course fun other member => among other (List.mem_cons_of_mem _ member)

/-- Tracked objects are gone, one after the other. -/
theorem lose (course : Course objects type acts t) (gone : List (String × Snapshot))
    (distinct : gone.Pairwise fun a b => a.1 ≠ b.1) (tracked : ∀ e ∈ gone, t.known.get? e.1 = some e.2) :
    Goes objects type acts { t with known := gone.foldl (fun known e => known.erase e.1) t.known }
      (gone.map fun e => t.tombstone e.2) [] := by
  induction gone generalizing acts t with
  | nil => exact course.goes_nothing
  | cons e rest ih =>
    obtain ⟨apart,distinct⟩ := List.pairwise_cons.mp distinct
    have first := course.goes_act (.lost (tracked e List.mem_cons_self))
    refine first.trans fun course => ih course distinct fun other member => ?_
    rw [Dict.get?_erase,if_neg (apart other member).symm]
    exact tracked other (List.mem_cons_of_mem _ member)

theorem relist (course : Course objects type acts t) (list : List Snapshot)
    (among : ∀ object ∈ list, object ∈ objects) :
    Goes objects type acts (t.relist list).1 (t.relist list).2 list := by
  have all := (course.observeAll list among).trans fun {acts} course' =>
    course'.lose ((t.observeAll list).1.known.entries.filter fun e => !(list.map Snapshot.identity).contains e.1)
      (by
        refine List.Pairwise.filter _ ((t.observeAll list).1.known.ordered.imp fun less => ?_)
        exact Std.ne_of_lt less)
      (by
        intro e member
        exact (Dict.get?_eq_some_iff _ _ _).mpr (List.mem_filter.mp member).1)
  have kept : (t.observeAll list).1.type = t.type := by
    obtain ⟨_,course',_⟩ := course.observeAll list among
    rw [course'.type_eq,course.type_eq]
  simpa [Tracker.relist,tombstone,kept] using all

theorem push (course : Course objects type acts t) (n : Notification) (among : ∀ object ∈ n.objects, object ∈ objects) :
    Goes objects type acts (t.push n).1 (t.push n).2 n.shown := by
  cases n with
  | restarted list => exact course.relist _ among
  | applied raw =>
    simp only [Notification.objects] at among
    simp only [Tracker.push,Notification.shown]
    cases shaped : Snapshot.ofRaw raw with
    | none => exact course.goes_nothing
    | some object => exact course.goes_act (.observed (among object (by simp [shaped])))
  | deleted raw =>
    simp only [Notification.objects] at among
    simp only [Tracker.push,Notification.shown]
    cases shaped : Snapshot.ofRaw raw with
    | none => exact course.goes_nothing
    | some object =>
      have inside := among object (by simp [shaped])
      by_cases named : object.uid = ""
      · simp only [forget,named,ne_eq,not_true_eq_false,if_false]
        split
        · rename_i id last found
          refine course.goes_act (.lost ((Dict.get?_eq_some_iff _ _ _).mpr (List.mem_of_find?_eq_some found)))
        · rename_i missing
          refine course.goes_act (.unknown inside named fun id last tracked => ?_)
          have entry := List.find?_eq_none.mp missing _ ((Dict.get?_eq_some_iff _ _ _).mp tracked)
          simpa using entry
      · simp only [forget,named,ne_eq,not_false_eq_true,if_true]
        exact course.goes_act (.deleted named)

theorem follow (course : Course objects type acts t) (notifications : List Notification)
    (among : ∀ object ∈ notifications.flatMap Notification.objects, object ∈ objects) :
    Goes objects type acts (t.follow notifications).1 (t.follow notifications).2
      (notifications.flatMap Notification.shown) := by
  induction notifications generalizing acts t with
  | nil => exact course.goes_nothing
  | cons n rest ih =>
    simp only [List.flatMap_cons,List.mem_append] at among
    have first := course.push n fun object member => among object (.inl member)
    exact first.trans fun course => ih course fun object member => among object (.inr member)

end Course

end Tracker

/-- After all notifications, the events that they amount to replay to the objects that are tracked, each under the
identity of the snapshot that was shown last. -/
theorem follow_replays (type : ResourceType) (notifications : List Notification)
    (apart : Apart (notifications.flatMap Notification.objects)) :
    (∀ id, ((Tracker.new type).follow notifications).1.known.contains id =
        replay ((Tracker.new type).follow notifications).2 id) ∧
      (∀ id object, ((Tracker.new type).follow notifications).1.known.get? id = some object →
        object.identity = id ∧ latest (notifications.flatMap Notification.shown) id = some object) ∧
      ∃ acts, told acts = ((Tracker.new type).follow notifications).2 ∧
        sights acts = notifications.flatMap Notification.shown ∧
        ∀ past act rest, acts = past ++ act :: rest → act.Fits type past := by
  have begun : Tracker.Course (notifications.flatMap Notification.objects) type [] (.new type) := .start
  obtain ⟨acts,course,events,shown⟩ := begun.follow notifications fun _ member => member
  obtain ⟨sound,fits⟩ := course.sound apart
  simp only [List.nil_append] at sound fits
  refine ⟨?_,?_,acts,events,shown,fits⟩
  · intro id
    rw [← events]
    exact sound.live id
  · intro id object tracked
    rw [← shown]
    exact ⟨(sound.last id object tracked).1,(sound.last id object tracked).2.1⟩

namespace Sample

/-- A config map. -/
def configMap (name uid version : String) : Json :=
  .object [("metadata", .object
    [("name", .text name), ("namespace", .text "default"), ("resourceVersion", .text version), ("uid", .text uid)])]

/-- Two config maps are created, and one of them is shown again as it was. It is deleted without its identifier; then
a list has another one under its name, in two versions, and the second one no more. -/
def stream : List Notification :=
  [.applied (configMap "a" "u1" "1"), .applied (configMap "b" "u2" "1"), .applied (configMap "a" "u1" "1"),
    .deleted (configMap "a" "" "2"), .restarted [configMap "a" "u3" "3", configMap "a" "u3" "4"]]

theorem follow_replays_of_stream :
    Apart (stream.flatMap Notification.objects) ∧
      (((Tracker.new ⟨"", "v1", "ConfigMap"⟩).follow stream).2.map fun e => (e.kind, e.object.identity)) =
        [(.create, "u1"), (.create, "u2"), (.delete, "u1"), (.create, "u3"), (.update, "u3"), (.delete, "u2")] ∧
      ∀ id, ((Tracker.new ⟨"", "v1", "ConfigMap"⟩).follow stream).1.known.contains id =
        replay ((Tracker.new ⟨"", "v1", "ConfigMap"⟩).follow stream).2 id := by
  have apart : Apart (stream.flatMap Notification.objects) := by decide
  exact ⟨apart,by decide,(follow_replays _ stream apart).1⟩

end Sample
end Callout
