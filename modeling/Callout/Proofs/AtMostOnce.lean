import Callout.Proofs.Ledger

/-!
The actions of a rule begin at most once for an object and a kind of event, as long as no name gets another rule. An
execution that began is claimed by a dispatch that began, or kept claimed for good, or settled: its rule is gone or
has the record (`Desk.Sound`). A claim is only given up when the execution is settled, and what is told of a settled
rule lets nothing begin. Since records are stored, they hold across processes (`Run.begins_at_most_once`).
-/
namespace Callout

/-! ## What began -/

/-- The claims of the executions that began in the process that runs. -/
def begun : List Deed → List ClaimKey
  | .began dispatch :: rest => dispatch.claim :: begun rest
  | .stored _ _ _ :: rest => begun rest
  | .restarted :: _ | [] => []

/-- The claims of the executions whose records were stored. -/
def recorded : List Deed → List ClaimKey
  | .stored dispatch _ _ :: rest => dispatch.claim :: recorded rest
  | .began _ :: rest | .restarted :: rest => recorded rest
  | [] => []

/-- The claims of the executions whose records were stored by the processes before. -/
def inherited : List Deed → List ClaimKey
  | .restarted :: rest => recorded rest
  | .began _ :: rest | .stored _ _ _ :: rest => inherited rest
  | [] => []

theorem recorded_of_inherited {deeds : List Deed} {key : ClaimKey} (member : key ∈ inherited deeds) :
    key ∈ recorded deeds := by
  induction deeds with
  | nil => cases member
  | cons deed rest ih =>
    cases deed with
    | restarted => exact member
    | began d => exact ih member
    | stored d archive rule => exact List.mem_cons_of_mem _ (ih member)

/-! ## Settled executions -/

namespace Archive

/-- An execution that needs no claim any more: its rule is gone, or has the record. -/
def Settled (a : Archive) (key : ClaimKey) : Prop :=
  ∀ rule ∈ a.versions, rule.incarnation = key.rule → ∀ current, a.current? rule.id = some current →
    current.hasExecuted key.object key.event = true

/-- Whether the rule of an execution was ever stored. -/
def Knows (a : Archive) (key : ClaimKey) : Prop := ∃ rule ∈ a.versions, rule.incarnation = key.rule

/-- A name that had a rule and has none stays without one. -/
theorem NeverRecreates.occupied {a : Archive} (orderly : a.Orderly) {rule old : Rule}
    (never : (a.put rule).NeverRecreates) (member : old ∈ a.versions) (same : old.id = rule.id) :
    a.current? rule.id ≠ none := by
  intro free
  obtain ⟨entry,inside,holds⟩ := List.mem_filterMap.mp member
  have named : entry.1 = rule.id := (orderly.keyed entry inside old holds).symm.trans same
  have some_first : (a.log.find? (·.1 = rule.id)).isSome := List.find?_isSome.mpr ⟨entry,inside,by simpa using named⟩
  obtain ⟨first,found⟩ := Option.isSome_iff_exists.mp some_first
  have gone : first.2 = none := by simpa [current?,found] using free
  have id : first.1 = rule.id := by simpa using List.find?_some found
  have later := (List.pairwise_cons.mp never).1 first (List.mem_of_find?_eq_some found) id.symm gone
  cases later

theorem Settled.remove {a : Archive} {key : ClaimKey} (settled : a.Settled key) (id : RuleId) :
    (a.remove id).Settled key := by
  intro rule member same current found
  rw [versions_remove] at member
  by_cases name : rule.id = id
  · rw [name,current?_remove_self] at found
    cases found
  · rw [current?_remove_of_ne a (Ne.symm name)] at found
    exact settled rule member same current found

/-- A settled execution stays so when a rule that keeps its ledger takes the place of an earlier state of it. -/
theorem Settled.replace {a : Archive} {key : ClaimKey} (settled : a.Settled key) (orderly : a.Orderly)
    {old rule : Rule} (present : a.current? rule.id = some old) (uid : rule.metadata.uid? = old.metadata.uid?)
    (kept : ∀ object event, old.hasExecuted object event → rule.hasExecuted object event) :
    (a.put rule).Settled key := by
  have id : old.id = rule.id := orderly.id_of_current? present
  have identity : rule.incarnation = old.incarnation := by simp [Rule.incarnation,uid,id]
  intro other member same current found
  rw [versions_put] at member
  by_cases name : other.id = rule.id
  · rw [name,current?_put_self] at found
    cases found
    refine kept _ _ ?_
    rcases List.mem_cons.mp member with latest | member
    · rw [latest,identity] at same
      exact settled old (mem_versions_of_current? present) same old (by rw [id]; exact present)
    · exact settled other member same old (by rw [name]; exact present)
  · rcases List.mem_cons.mp member with latest | member
    · rw [latest] at name
      exact (name rfl).elim
    · rw [current?_put_of_ne a (Ne.symm name)] at found
      exact settled other member same current found

/-- A settled execution of a known rule stays so when a rule is created under a name that never had one. -/
theorem Settled.create {a : Archive} {key : ClaimKey} (settled : a.Settled key) (known : a.Knows key)
    (orderly : a.Orderly) {rule : Rule} (free : a.current? rule.id = none)
    (distinct : ∀ old ∈ a.versions, old.incarnation ≠ rule.incarnation) (never : (a.put rule).NeverRecreates) :
    (a.put rule).Settled key := by
  intro other member same current found
  rw [versions_put] at member
  rcases List.mem_cons.mp member with latest | member
  · obtain ⟨old,inside,identity⟩ := known
    rw [latest] at same
    exact (distinct old inside (identity.trans same.symm)).elim
  · by_cases name : other.id = rule.id
    · exact (never.occupied orderly member name free).elim
    · rw [current?_put_of_ne a (Ne.symm name)] at found
      exact settled other member same current found

theorem Settled.change {a a' : Archive} {key : ClaimKey} (settled : a.Settled key) (known : a.Knows key)
    (orderly : a.Orderly) (change : a.Change a') (never : a'.NeverRecreates) : a'.Settled key := by
  cases change with
  | create free distinct admitted => exact settled.create known orderly free distinct never
  | edit present same kept admitted => exact settled.replace orderly present same kept
  | delete id => exact settled.remove id

theorem Settled.store {a : Archive} {key : ClaimKey} (settled : a.Settled key) (orderly : a.Orderly) {d : Dispatch}
    {before after : Rule} (records : a.Records d before after) : (a.put after).Settled key :=
  settled.replace orderly (by rw [records.id]; exact records.current) records.uid? fun _ _ => records.appends.kept

/-- A stored record settles its execution. -/
theorem Records.settles {a : Archive} {d : Dispatch} {before after : Rule} (records : a.Records d before after)
    (orderly : (a.put after).Orderly) (known : d.rule ∈ a.versions) : (a.put after).Settled d.claim := by
  intro rule member same current found
  have id : rule.id = after.id :=
    (orderly.named rule member d.rule (by simp [known]) same).trans records.id.symm
  rw [id,current?_put_self] at found
  cases found
  exact records.appends.hasExecuted

/-- What is told of the rule of a settled execution lets nothing begin. -/
theorem Settled.not_letsBegin {a : Archive} {stored? : Option Rule} {d : Dispatch} {answer : d.demand.Answer}
    (settled : a.Settled d.claim) (known : d.rule ∈ a.versions) (served : a.Serves stored? d.demand answer) :
    ¬d.LetsBegin answer := by
  intro begins
  obtain ⟨rule,event,stage⟩ := d
  cases stage with
  | confirming =>
    obtain ⟨fresh,rfl,unexecuted⟩ := begins.confirmed
    have executed : fresh.hasExecuted event.object.identity event.kind = true :=
      settled rule known rfl fresh served.2
    exact Bool.false_ne_true (unexecuted.symm.trans executed)
  | reading action rest space name next => exact begins.1 trivial
  | running call rest => exact begins.1 trivial
  | recording recording => exact begins.1 trivial

theorem Serves.stored {a : Archive} {stored? : Option Rule} {d : Dispatch} {answer : d.demand.Answer}
    (served : a.Serves stored? d.demand answer) (told : d.Stored answer) : ∃ rule, stored? = some rule := by
  obtain ⟨rule,event,stage⟩ := d
  cases stage with
  | confirming => exact told.elim
  | reading action rest space name next => exact told.elim
  | running call rest => exact told.elim
  | recording recording =>
    obtain ⟨id,execution,outcome,attempt,stage⟩ := recording
    cases stage with
    | reading => exact told.elim
    | pausing span => exact told.elim
    | writing given =>
      change Except Fault Unit at answer
      change answer = .ok () at told
      subst told
      obtain ⟨rule,same,_⟩ := served
      exact ⟨rule,same⟩

theorem Knows.grow {a a' : Archive} {key : ClaimKey} (known : a.Knows key)
    (more : ∀ rule ∈ a.versions, rule ∈ a'.versions) : a'.Knows key := by
  obtain ⟨rule,member,same⟩ := known
  exact ⟨rule,more rule member,same⟩

end Archive

/-! ## Sound desks -/

namespace Desk

/-- An execution that began is claimed, by a dispatch that began or by none, unless it is settled. -/
def Covers (k : Desk) (key : ClaimKey) : Prop :=
  key ∈ k.claims ∧ (∀ p ∈ k.active, p.dispatch.claim = key → p.dispatch.HasBegun) ∨ k.archive.Settled key

/-- What holds of every desk, after what dispatches did. -/
structure Sound (k : Desk) (deeds : List Deed) : Prop where
  faithful : k.Faithful
  /-- No two dispatches under way have the same claim. -/
  single : (k.active.map (·.dispatch.claim)).Nodup
  claimed : ∀ p ∈ k.active, p.dispatch.claim ∈ k.claims
  known : ∀ key, key ∈ begun deeds ∨ key ∈ recorded deeds → k.archive.Knows key
  covered : ∀ key ∈ begun deeds, k.Covers key
  settled : ∀ key ∈ recorded deeds, k.archive.Settled key
  /-- An answer that is on its way lets only begin what has not. -/
  told : ∀ p ∈ k.active, ∀ answer ∈ p.answer?, p.dispatch.LetsBegin answer →
    p.dispatch.claim ∉ begun deeds ∧ p.dispatch.claim ∉ inherited deeds
  /-- An answer that a record is stored tells the truth. -/
  stored : ∀ p ∈ k.active, ∀ answer ∈ p.answer?, p.dispatch.Stored answer → k.archive.Settled p.dispatch.claim
  once : (begun deeds).Nodup
  fresh : ∀ key ∈ inherited deeds, key ∉ begun deeds

/-- An archive only gets longer. -/
theorem Step.grows {settings : EngineSettings} {k k' : Desk} {new : List Deed} (step : k.Step settings new k') :
    ∃ newer, k'.archive.log = newer ++ k.archive.log := by
  cases step with
  | @serve before after d answer stored? place served =>
    cases stored? with
    | none => exact ⟨[],rfl⟩
    | some rule => exact ⟨[(rule.id,some rule)],rfl⟩
  | goOn => exact ⟨[],rfl⟩
  | finish => exact ⟨[],rfl⟩
  | start => exact ⟨[],rfl⟩
  | change changed =>
    cases changed with
    | create => exact ⟨[_],rfl⟩
    | edit => exact ⟨[_],rfl⟩
    | delete id => exact ⟨[_],rfl⟩
  | restart => exact ⟨[],rfl⟩

theorem Step.never {settings : EngineSettings} {k k' : Desk} {new : List Deed} (step : k.Step settings new k')
    (never : k'.archive.NeverRecreates) : k.archive.NeverRecreates := by
  obtain ⟨newer,same⟩ := step.grows
  have all : k'.archive.log.Pairwise _ := never
  rw [same] at all
  exact (List.pairwise_append.mp all).2.1

theorem nodup_middle {before after : List ActiveDispatch} {p : ActiveDispatch} :
    ((before ++ p :: after).map (·.dispatch.claim)).Nodup ↔
      (∀ q ∈ before ++ after, q.dispatch.claim ≠ p.dispatch.claim) ∧
        ((before ++ after).map (·.dispatch.claim)).Nodup := by
  rw [(List.perm_middle.map _).nodup_iff,List.map_cons,List.nodup_cons]
  simp [-List.map_append]

/-! ## Steps of a sound desk -/

/-- Settled executions stay settled, so all holds of a later archive, too. -/
theorem Sound.advance {k : Desk} {deeds : List Deed} (sound : k.Sound deeds) {archive : Archive}
    (faithful : Faithful { k with archive }) (more : ∀ rule ∈ k.archive.versions, rule ∈ archive.versions)
    (settle : ∀ key, k.archive.Knows key → k.archive.Settled key → archive.Settled key) :
    Sound { k with archive } deeds := by
  refine ⟨faithful,sound.single,sound.claimed,?_,?_,?_,sound.told,?_,sound.once,sound.fresh⟩
  · intro key member
    exact (sound.known key member).grow more
  · intro key member
    rcases sound.covered key member with held | settled
    · exact .inl held
    · exact .inr (settle key (sound.known key (.inl member)) settled)
  · intro key member
    exact settle key (sound.known key (.inr member)) (sound.settled key member)
  · intro p member answer held stored
    exact settle _ ⟨_,(sound.faithful.active p member).known,rfl⟩ (sound.stored p member answer held stored)

/-- The record of a dispatch is stored. -/
theorem Sound.record {k : Desk} {deeds : List Deed} (sound : k.Sound deeds) {d : Dispatch} {before after : Rule}
    (known : d.rule ∈ k.archive.versions) (records : k.archive.Records d before after)
    (faithful : Faithful { k with archive := k.archive.put after }) :
    Sound { k with archive := k.archive.put after } (.stored d k.archive after :: deeds) := by
  have advanced := sound.advance faithful (fun _ member => by simp [member])
    fun _ _ settled => settled.store sound.faithful.orderly records
  refine ⟨faithful,advanced.single,advanced.claimed,?_,advanced.covered,?_,advanced.told,advanced.stored,
    advanced.once,advanced.fresh⟩
  · intro key member
    rcases member with member | member
    · exact advanced.known key (.inl member)
    · rcases List.mem_cons.mp member with rfl | member
      · exact ⟨d.rule,by simp [known],rfl⟩
      · exact advanced.known key (.inr member)
  · intro key member
    rcases List.mem_cons.mp member with rfl | member
    · exact records.settles faithful.orderly known
    · exact advanced.settled key member

/-- An answer is on its way to a dispatch. -/
theorem Sound.answer {k : Desk} {deeds : List Deed} (sound : k.Sound deeds) {before after : List ActiveDispatch}
    {d : Dispatch} {answer : d.demand.Answer} (place : k.active = before ++ ⟨d,none⟩ :: after)
    (faithful : Faithful { k with active := before ++ ⟨d,some answer⟩ :: after })
    (begins : d.LetsBegin answer → d.claim ∉ begun deeds ∧ d.claim ∉ inherited deeds)
    (stored : d.Stored answer → k.archive.Settled d.claim) :
    Sound { k with active := before ++ ⟨d,some answer⟩ :: after } deeds := by
  have old : ∀ q ∈ before ++ after, q ∈ k.active := fun _ => mem_beside place
  have asking : ⟨d,none⟩ ∈ k.active := mem_of_place place
  refine ⟨faithful,?_,?_,sound.known,?_,sound.settled,?_,?_,sound.once,sound.fresh⟩
  · have single := sound.single
    rw [place] at single
    simpa using single
  · intro p member
    rcases mem_middle.mp member with rfl | member
    · exact sound.claimed ⟨d,none⟩ asking
    · exact sound.claimed p (old p member)
  · intro key member
    rcases sound.covered key member with ⟨claimed,begun⟩ | settled
    · refine .inl ⟨claimed,fun p inside same => ?_⟩
      rcases mem_middle.mp inside with rfl | inside
      · exact begun ⟨d,none⟩ asking same
      · exact begun p (old p inside) same
    · exact .inr settled
  · intro p member told held
    rcases mem_middle.mp member with rfl | member
    · cases held
      exact begins
    · exact sound.told p (old p member) told held
  · intro p member told held
    rcases mem_middle.mp member with rfl | member
    · cases held
      exact stored
    · exact sound.stored p (old p member) told held

/-- Nothing begins with an answer that is given after it began, or after its record was stored. -/
theorem Sound.begins {k : Desk} {deeds : List Deed} (sound : k.Sound deeds) {d : Dispatch}
    {answer : d.demand.Answer} {stored? : Option Rule} (active : ⟨d,none⟩ ∈ k.active)
    (served : k.archive.Serves stored? d.demand answer) (begins : d.LetsBegin answer) :
    d.claim ∉ begun deeds ∧ d.claim ∉ inherited deeds := by
  have known := (sound.faithful.active _ active).known
  have unsettled : ¬k.archive.Settled d.claim := fun settled => settled.not_letsBegin known served begins
  refine ⟨fun member => ?_,fun member => unsettled (sound.settled _ (recorded_of_inherited member))⟩
  rcases sound.covered _ member with ⟨_,begun⟩ | settled
  · exact begins.1 (begun _ active rfl)
  · exact unsettled settled

theorem Sound.serve (settings : EngineSettings) {k : Desk} {deeds : List Deed} (sound : k.Sound deeds)
    {before after : List ActiveDispatch} {d : Dispatch} {answer : d.demand.Answer} {stored? : Option Rule}
    (place : k.active = before ++ ⟨d,none⟩ :: after) (served : k.archive.Serves stored? d.demand answer) :
    Sound ⟨k.claims,before ++ ⟨d,some answer⟩ :: after,k.archive.putIfSome stored?⟩
      (stored?.toList.map (.stored d k.archive) ++ deeds) := by
  have asking : ⟨d,none⟩ ∈ k.active := mem_of_place place
  have faithful := sound.faithful.step (@Step.serve settings k _ _ _ _ _ place served)
  have known := (sound.faithful.active _ asking).known
  have begins := sound.begins asking served
  cases stored? with
  | none =>
    refine sound.answer place faithful begins fun told => ?_
    obtain ⟨rule,same⟩ := served.stored told
    cases same
  | some rule =>
    obtain ⟨old,records⟩ := sound.faithful.stores asking served
    have orderly := sound.faithful.orderly.serves served
    have recorded := sound.record known records
      ⟨orderly,fun p member => (sound.faithful.active p member).grow fun _ inside => by simp [inside]⟩
    exact recorded.answer place faithful begins fun _ => records.settles orderly known

/-- A dispatch goes on, and holds no answer any more. -/
theorem Sound.proceed {k : Desk} {deeds : List Deed} (sound : k.Sound deeds) {before after : List ActiveDispatch}
    {p : ActiveDispatch} {d' : Dispatch} (place : k.active = before ++ p :: after)
    (faithful : Faithful { k with active := before ++ ⟨d',none⟩ :: after })
    (claim : d'.claim = p.dispatch.claim) (begun : d'.HasBegun) :
    Sound { k with active := before ++ ⟨d',none⟩ :: after } deeds := by
  have old : ∀ q ∈ before ++ after, q ∈ k.active := fun _ => mem_beside place
  refine ⟨faithful,?_,?_,sound.known,?_,sound.settled,?_,?_,sound.once,sound.fresh⟩
  · have single := sound.single
    rw [place] at single
    simpa [claim] using single
  · intro q member
    rcases mem_middle.mp member with rfl | member
    · change d'.claim ∈ k.claims
      rw [claim]
      exact sound.claimed p (mem_of_place place)
    · exact sound.claimed q (old q member)
  · intro key member
    rcases sound.covered key member with ⟨claimed,all⟩ | settled
    · refine .inl ⟨claimed,fun q inside same => ?_⟩
      rcases mem_middle.mp inside with rfl | inside
      · exact begun
      · exact all q (old q inside) same
    · exact .inr settled
  · intro q member told held
    rcases mem_middle.mp member with rfl | member
    · cases held
    · exact sound.told q (old q member) told held
  · intro q member told held
    rcases mem_middle.mp member with rfl | member
    · cases held
    · exact sound.stored q (old q member) told held

/-- The actions of a rule begin. The dispatch holds no answer any more. -/
theorem Sound.begin {k : Desk} {deeds : List Deed} (sound : k.Sound deeds) {d : Dispatch}
    (known : k.archive.Knows d.claim) (claimed : d.claim ∈ k.claims)
    (alone : ∀ p ∈ k.active, p.dispatch.claim = d.claim → p.dispatch.HasBegun ∧ p.answer? = none)
    (new : d.claim ∉ begun deeds ∧ d.claim ∉ inherited deeds) : k.Sound (.began d :: deeds) := by
  refine ⟨sound.faithful,sound.single,sound.claimed,?_,?_,sound.settled,?_,sound.stored,?_,?_⟩
  · intro key member
    rcases member with member | member
    · rcases List.mem_cons.mp member with rfl | member
      · exact known
      · exact sound.known key (.inl member)
    · exact sound.known key (.inr member)
  · intro key member
    rcases List.mem_cons.mp member with rfl | member
    · exact .inl ⟨claimed,fun p inside same => (alone p inside same).1⟩
    · exact sound.covered key member
  · intro p member answer held begins
    obtain ⟨unbegun,unrecorded⟩ := sound.told p member answer held begins
    refine ⟨fun inside => ?_,unrecorded⟩
    rcases List.mem_cons.mp inside with same | inside
    · rw [(alone p member same).2] at held
      cases held
    · exact unbegun inside
  · exact List.nodup_cons.mpr ⟨new.1,sound.once⟩
  · intro key member inside
    rcases List.mem_cons.mp inside with rfl | inside
    · exact new.2 member
    · exact sound.fresh key member inside

theorem Sound.goOn {settings : EngineSettings} {k : Desk} {deeds : List Deed} (sound : k.Sound deeds)
    {before after : List ActiveDispatch} {d d' : Dispatch} {answer : d.demand.Answer} {now : Moment}
    {registry registry' : Registry} (place : k.active = before ++ ⟨d,some answer⟩ :: after)
    (claims : registry.claims = k.claims)
    (went : d.resume settings now registry answer = (registry',.waiting d')) :
    Sound ⟨registry'.claims,before ++ ⟨d',none⟩ :: after,k.archive⟩
      (deedsBetween (some ⟨d,some answer⟩) (some ⟨d',none⟩) ++ deeds) := by
  obtain ⟨same,goes⟩ := Dispatch.resume_waiting went
  have faithful := sound.faithful.step (.goOn place claims went)
  have here : ⟨d,some answer⟩ ∈ k.active := mem_of_place place
  have told := sound.told _ here answer rfl
  have known := (sound.faithful.active _ here).known
  have claim : d'.claim = d.claim := by simp only [Dispatch.claim,goes.rule,goes.event]
  subst same
  rw [claims] at faithful ⊢
  have later := sound.proceed place faithful claim goes.begun
  by_cases before : d.HasBegun
  · rw [deedsBetween_of_begun before]
    exact later
  · rw [deedsBetween_of_unbegun before goes.begun]
    have begins : d.LetsBegin answer := ⟨before,settings,now,_,_,d',went,goes.begun⟩
    refine later.begin ⟨d.rule,known,congrArg (·.rule) claim.symm⟩ ?_ ?_ (claim ▸ told begins)
    · exact later.claimed ⟨d',none⟩ (mem_middle.mpr (.inl rfl))
    · intro p member same
      rcases mem_middle.mp member with rfl | member
      · exact ⟨goes.begun,rfl⟩
      · exact ((nodup_middle.mp later.single).1 p member same).elim

/-- A dispatch ends. Its claim is given up only when its execution is settled, or did not begin. -/
theorem Sound.finish {settings : EngineSettings} {k : Desk} {deeds : List Deed} (sound : k.Sound deeds)
    {before after : List ActiveDispatch} {d : Dispatch} {answer : d.demand.Answer} {now : Moment}
    {registry registry' : Registry} {result : Except Fault Unit}
    (place : k.active = before ++ ⟨d,some answer⟩ :: after) (claims : registry.claims = k.claims)
    (went : d.resume settings now registry answer = (registry',.finished result)) :
    Sound ⟨registry'.claims,before ++ after,k.archive⟩ deeds := by
  have here : ⟨d,some answer⟩ ∈ k.active := mem_of_place place
  have old : ∀ q ∈ before ++ after, q ∈ k.active := fun _ => mem_beside place
  have single := sound.single
  rw [place,nodup_middle] at single
  have ends := Dispatch.resume_finished went
  rw [claims] at ends
  -- the claim is either still held, or given up for an execution that did not begin or is settled
  have own : d.claim ∈ registry'.claims ∨ ¬d.HasBegun ∨ k.archive.Settled d.claim :=
    (ends.own (sound.claimed ⟨d,some answer⟩ here)).imp_right (.imp_right (sound.stored _ here answer rfl))
  refine ⟨sound.faithful.step (.finish place claims went),single.2,?_,sound.known,?_,sound.settled,?_,?_,sound.once,
    sound.fresh⟩
  · intro q member
    exact ends.others (sound.claimed q (old q member)) (single.1 q member)
  · intro key member
    rcases sound.covered key member with ⟨claimed,begun⟩ | settled
    · have rest : ∀ q ∈ before ++ after, q.dispatch.claim = key → q.dispatch.HasBegun :=
        fun q inside same => begun q (old q inside) same
      by_cases same : key = d.claim
      · rcases own with held | unbegun | settled
        · exact .inl ⟨by rw [same]; exact held,rest⟩
        · exact (unbegun (begun _ here same.symm)).elim
        · exact .inr (by rw [same]; exact settled)
      · exact .inl ⟨ends.others claimed same,rest⟩
    · exact .inr settled
  · exact fun q member => sound.told q (old q member)
  · exact fun q member => sound.stored q (old q member)

/-- A dispatch starts, with a claim that none had. -/
theorem Sound.start (settings : EngineSettings) {k : Desk} {deeds : List Deed} (sound : k.Sound deeds)
    {before after : List ActiveDispatch} {rule : Rule} {event : Event} {d : Dispatch}
    {registry registry' : Registry} (place : k.active = before ++ after) (claims : registry.claims = k.claims)
    (known : rule ∈ k.archive.versions) (started : Dispatch.start registry rule event = (registry',.waiting d)) :
    Sound ⟨registry'.claims,before ++ ⟨d,none⟩ :: after,k.archive⟩ deeds := by
  obtain ⟨_,free,more⟩ := Dispatch.start_waiting started
  rw [claims] at free more
  have kept : ∀ key ∈ k.claims, key ∈ registry'.claims := fun key member => by simp [more,member]
  refine ⟨sound.faithful.step (@Step.start settings k _ _ _ _ _ _ _ place claims known started),?_,?_,sound.known,
    ?_,sound.settled,?_,?_,sound.once,sound.fresh⟩
  · have single := sound.single
    rw [place] at single
    refine nodup_middle.mpr ⟨fun q member same => free ?_,single⟩
    change q.dispatch.claim = d.claim at same
    rw [← same]
    exact sound.claimed q (by rw [place]; exact member)
  · intro q member
    rcases mem_middle.mp member with rfl | member
    · simp [more]
    · exact kept _ (sound.claimed q (by rw [place]; exact member))
  · intro key member
    rcases sound.covered key member with ⟨claimed,begun⟩ | settled
    · refine .inl ⟨kept key claimed,fun q inside same => ?_⟩
      rcases mem_middle.mp inside with rfl | inside
      · rw [← same] at claimed
        exact (free claimed).elim
      · exact begun q (by rw [place]; exact inside) same
    · exact .inr settled
  · intro q member told held
    rcases mem_middle.mp member with rfl | member
    · cases held
    · exact sound.told q (by rw [place]; exact member) told held
  · intro q member told held
    rcases mem_middle.mp member with rfl | member
    · cases held
    · exact sound.stored q (by rw [place]; exact member) told held

/-- All dispatches are lost. What was recorded stays settled. -/
theorem Sound.restart {k : Desk} {deeds : List Deed} (sound : k.Sound deeds) :
    Sound { archive := k.archive } (.restarted :: deeds) := by
  refine ⟨⟨sound.faithful.orderly,?_⟩,List.nodup_nil,?_,?_,?_,sound.settled,?_,?_,List.nodup_nil,?_⟩
  · exact fun p member => by cases member
  · exact fun p member => by cases member
  · intro key member
    rcases member with member | member
    · cases member
    · exact sound.known key (.inr member)
  · exact fun key member => by cases member
  · exact fun p member => by cases member
  · exact fun p member => by cases member
  · exact fun key _ member => by cases member

theorem Sound.step {settings : EngineSettings} {k k' : Desk} {deeds new : List Deed} (sound : k.Sound deeds)
    (step : k.Step settings new k') (never : k'.archive.NeverRecreates) : k'.Sound (new ++ deeds) := by
  cases step with
  | serve place served => exact sound.serve settings place served
  | goOn place claims went => exact sound.goOn place claims went
  | finish place claims went => exact sound.finish place claims went
  | start place claims known started => exact sound.start settings place claims known started
  | change changed =>
    exact sound.advance (sound.faithful.step (@Step.change settings k _ changed)) (fun _ => changed.mem_versions)
      fun key known settled => settled.change known sound.faithful.orderly changed never
  | restart => exact sound.restart

theorem Run.sound {settings : EngineSettings} {deeds : List Deed} {k : Desk} (run : Desk.Run settings deeds k)
    (never : k.archive.NeverRecreates) : k.Sound deeds := by
  induction run with
  | start =>
    refine ⟨⟨Archive.orderly_empty,?_⟩,List.nodup_nil,?_,?_,?_,?_,?_,?_,List.nodup_nil,?_⟩
    · exact fun p member => by cases member
    · exact fun p member => by cases member
    · exact fun key member => by rcases member with member | member <;> cases member
    · exact fun key member => by cases member
    · exact fun key member => by cases member
    · exact fun p member => by cases member
    · exact fun p member => by cases member
    · exact fun key member => by cases member
  | step _ step ih => exact (ih (step.never never)).step step never

end Desk

/-- In every run in which no name gets another rule, the actions of a rule begin at most once in a process for an
object and a kind of event, and never again after their record was stored by a process before. -/
theorem Run.begins_at_most_once {settings : EngineSettings} {history : List Happening} {w : World}
    (run : Run settings history w) (never : w.archive.NeverRecreates) :
    (begun (deeds history)).Nodup ∧ ∀ key ∈ inherited (deeds history), key ∉ begun (deeds history) := by
  have sound := run.desk_and_listed.1.sound never
  exact ⟨sound.once,sound.fresh⟩

namespace Sample

/-- An event is delivered twice at the same time, then again by a new process that is told of the rule as it was
at first. The action runs for the first delivery only. -/
theorem begins_at_most_once_redelivered : ∃ history w, Run {} history w ∧ w.archive.NeverRecreates ∧
    (∃ d, .began d ∈ deeds history) ∧ inherited (deeds history) = [⟨"uid-1","uid-a",.create⟩] ∧
    (begun (deeds history)).Nodup ∧ ∀ key ∈ inherited (deeds history), key ∉ begun (deeds history) := by
  have listed : ∀ rule ∈ [onceRule], rule ∈ [onceRule] := fun _ member => member
  have run := (Run.start : Run {} [] {}).step (.change (created onceRule))
  -- one delivery is told of the rule before another one begins
  replace run := run.step (.request (.delivery (.listing event)) trivial)
  replace run := run.told (Except.ok [onceRule]) ⟨rfl,listed⟩
  replace run := run.step (.request (.delivery (.listing event)) trivial)
  replace run := (run.told (Except.ok [onceRule]) ⟨rfl,listed⟩).goes moment rfl
  -- the other one runs the action and records it
  replace run := (run.told (Except.ok onceRule) ⟨rfl,rfl⟩).goes moment rfl
  replace run := (run.told (Except.ok ()) rfl).goes moment rfl
  replace run := (run.told (Except.ok onceRule) ⟨rfl,rfl⟩).goes moment rfl
  replace run := (run.told (Except.ok ()) ⟨recorded onceRule "2",rfl,_,rfl,rfl,rfl,recorded_admitted⟩).goes moment rfl
  -- the first one only now looks at the rule, and finds the record
  replace run := run.goes moment rfl
  replace run := (run.told (Except.ok (recorded onceRule "2")) ⟨rfl,rfl⟩).goes moment rfl
  -- so does one of the next process
  replace run := run.step .restart
  replace run := run.step (.request (.delivery (.listing event)) trivial)
  replace run := (run.told (Except.ok [onceRule]) ⟨rfl,fun _ member => .tail _ member⟩).goes moment rfl
  replace run := (run.told (Except.ok (recorded onceRule "2")) ⟨rfl,rfl⟩).goes moment rfl
  have never : Archive.NeverRecreates ⟨[(onceRule.id,some (recorded onceRule "2")),(onceRule.id,some onceRule)]⟩ := by
    simp [Archive.NeverRecreates]
  exact ⟨_,_,run,never,⟨_,.tail _ (.tail _ (.head _))⟩,rfl,run.begins_at_most_once never⟩

end Sample
end Callout
