import Callout.Proofs.Dispatching

/-!
What dispatches write to ledgers. Whatever a dispatch stores, it made from a state that the rule of its name was in
(`Desk.Run.faithful`); a store takes it only while the rule still is in that state, so nothing is lost from a ledger
and at most the record of the dispatch joins it (`Desk.Faithful.stores`).
-/
namespace Callout

/-! ## Ledgers -/

namespace Rule

/-- The ledger of a rule, oldest first. -/
def ledger (rule : Rule) : List Execution := (rule.status?.map (·.executions)).getD []

theorem hasExecuted_iff (rule : Rule) (object : String) (event : EventKind) :
    rule.hasExecuted object event = true ↔ ∃ e ∈ rule.ledger, e.object = object ∧ e.event = event := by
  cases status : rule.status? <;> simp [hasExecuted,ledger,RuleStatus.hasExecuted,status]

@[simp] theorem restated_id (rule : Rule) (status? : Option RuleStatus) (version? : Option String) :
    (rule.restated status? version?).id = rule.id := rfl

/-- A rule whose ledger is the one of another rule, to which a record of an event for an object was added unless
there was one. -/
def Appends (before after : Rule) (object : String) (event : EventKind) : Prop :=
  before.hasExecuted object event = true ∧ after.ledger = before.ledger ∨
    before.hasExecuted object event = false ∧
      ∃ execution : Execution, execution.object = object ∧ execution.event = event ∧
        after.ledger = before.ledger ++ [execution]

theorem Appends.hasExecuted {before after : Rule} {object : String} {event : EventKind}
    (appends : before.Appends after object event) : after.hasExecuted object event = true := by
  rcases appends with ⟨executed,same⟩ | ⟨_,execution,rfl,rfl,longer⟩
  · rw [hasExecuted_iff] at executed ⊢
    rw [same]
    exact executed
  · rw [hasExecuted_iff,longer]
    exact ⟨execution,by simp,rfl,rfl⟩

theorem Appends.kept {before after : Rule} {object : String} {event : EventKind}
    (appends : before.Appends after object event) {other : String} {kind : EventKind}
    (executed : before.hasExecuted other kind = true) : after.hasExecuted other kind = true := by
  rw [hasExecuted_iff] at executed ⊢
  rcases appends with ⟨_,same⟩ | ⟨_,execution,_,_,longer⟩
  · rw [same]
    exact executed
  · obtain ⟨e,member,named⟩ := executed
    rw [longer]
    exact ⟨e,by simp [member],named⟩

theorem Appends.restate {before after after' : Rule} {object : String} {event : EventKind}
    (appends : before.Appends after object event) (same : after'.status? = after.status?) :
    before.Appends after' object event := by
  have ledger : after'.ledger = after.ledger := by simp only [Rule.ledger,same]
  simpa only [Appends,ledger] using appends

end Rule

theorem Recording.extended_appends (r : Recording) (latest : Rule) (now : Timestamp) :
    latest.Appends (r.extended latest now) r.execution.object r.execution.event := by
  have ledger : (r.extended latest now).ledger =
      if latest.hasExecuted r.execution.object r.execution.event then latest.ledger
      else latest.ledger ++ [r.execution] := by
    cases status : latest.status? with
    | none => simp [extended,Rule.ledger,RuleStatus.record,Rule.hasExecuted,RuleStatus.hasExecuted,status]
    | some held =>
      simp only [extended,Rule.ledger,RuleStatus.record,Rule.hasExecuted,status,Option.map_some,
        Option.getD_some]
  cases executed : latest.hasExecuted r.execution.object r.execution.event with
  | true => exact .inl ⟨executed,by simpa [executed] using ledger⟩
  | false => exact .inr ⟨executed,r.execution,rfl,rfl,by simpa [executed] using ledger⟩

/-! ## Orderly archives -/

namespace Archive

theorem Orderly.put {a : Archive} (orderly : a.Orderly) {rule : Rule} (admitted : a.Admits rule)
    (named : ∀ old ∈ a.versions, old.incarnation = rule.incarnation → old.id = rule.id) : (a.put rule).Orderly := by
  refine ⟨?_,?_,?_⟩
  · intro entry member stored inside
    rcases List.mem_cons.mp member with rfl | member
    · cases inside
      rfl
    · exact orderly.keyed entry member stored inside
  · intro stored member old inside
    rw [versions_put] at member inside
    rcases List.mem_cons.mp member with newest | member
    · rcases List.mem_cons.mp inside with latest | inside
      · exact fun _ _ => latest.trans newest.symm
      · rw [newest]
        exact admitted old inside
    · rcases List.mem_cons.mp inside with latest | inside
      · rw [latest]
        exact fun id version => (admitted stored member id.symm version.symm).symm
      · exact orderly.versioned stored member old inside
  · intro old inside stored member same
    rw [versions_put] at member inside
    rcases List.mem_cons.mp member with newest | member
    · rcases List.mem_cons.mp inside with latest | inside
      · rw [latest,newest]
      · rw [newest] at same ⊢
        exact named old inside same
    · rcases List.mem_cons.mp inside with latest | inside
      · rw [latest] at same ⊢
        exact (named stored member same.symm).symm
      · exact orderly.named old inside stored member same

/-- A rule in the place of one with the same name and identifier. -/
theorem Orderly.replace {a : Archive} (orderly : a.Orderly) {old rule : Rule}
    (present : a.current? rule.id = some old) (same : rule.metadata.uid? = old.metadata.uid?)
    (admitted : a.Admits rule) : (a.put rule).Orderly := by
  refine orderly.put admitted fun other member incarnation => ?_
  have id : old.id = rule.id := orderly.id_of_current? present
  have identity : rule.incarnation = old.incarnation := by simp [Rule.incarnation,same,id]
  rw [← id]
  exact orderly.named other member old (mem_versions_of_current? present) (incarnation.trans identity)

theorem Orderly.change {a a' : Archive} (orderly : a.Orderly) (change : a.Change a') : a'.Orderly := by
  cases change with
  | create free distinct admitted =>
    exact orderly.put admitted fun old member same => (distinct old member same).elim
  | edit present same kept admitted => exact orderly.replace present same admitted
  | delete id =>
    refine ⟨?_,?_,?_⟩
    · intro entry member stored inside
      rcases List.mem_cons.mp member with rfl | member
      · cases inside
      · exact orderly.keyed entry member stored inside
    · intro rule member old inside
      rw [versions_remove] at member inside
      exact orderly.versioned rule member old inside
    · intro old inside rule member
      rw [versions_remove] at member inside
      exact orderly.named old inside rule member

/-- What lands takes the place of a rule with its name and identifier. -/
theorem Lands.replaces {a : Archive} (orderly : a.Orderly) {given rule : Rule} (lands : a.Lands given rule) :
    ∃ stored, a.current? rule.id = some stored ∧ stored.metadata.version? = given.metadata.version? ∧
      rule.id = given.id ∧ rule.metadata.uid? = stored.metadata.uid? ∧ rule.status? = given.status? ∧
      a.Admits rule := by
  obtain ⟨stored,present,version,same,admitted⟩ := lands
  have id : rule.id = given.id := by
    rw [same,Rule.restated_id]
    exact orderly.id_of_current? present
  refine ⟨stored,by rw [id]; exact present,version,id,?_,?_,admitted⟩
  · rw [same]
    rfl
  · rw [same]
    rfl

theorem Orderly.lands {a : Archive} (orderly : a.Orderly) {given rule : Rule} (lands : a.Lands given rule) :
    (a.put rule).Orderly := by
  obtain ⟨stored,present,_,_,uid,_,admitted⟩ := lands.replaces orderly
  exact orderly.replace present uid admitted

/-- Nothing is stored with an answer but what was to be stored. -/
theorem Serves.lands {a : Archive} {stored? : Option Rule} {d : Demand} {answer : d.Answer}
    (served : a.Serves stored? d answer) {rule : Rule} (stored : stored? = some rule) :
    ∃ given, d = .update given ∧ a.Lands given rule := by
  cases d with
  | update given =>
    refine ⟨given,rfl,?_⟩
    change Except Fault Unit at answer
    change a.Stores given stored? answer at served
    cases answer with
    | ok _ =>
      obtain ⟨other,same,lands⟩ := served
      cases stored.symm.trans same
      exact lands
    | error fault => exact served rule stored
  | rules => cases stored.symm.trans served.1
  | rule id => cases stored.symm.trans served.1
  | secret space name => cases stored.symm.trans served
  | run call => cases stored.symm.trans served
  | resolve type => cases stored.symm.trans served
  | pause span => cases stored.symm.trans served
  | tick due token => exact served.elim
  | notification session => exact served.elim
  | news due => exact served.elim
  | never => exact answer.elim

theorem Orderly.serves {a : Archive} (orderly : a.Orderly) {stored? : Option Rule} {d : Demand} {answer : d.Answer}
    (served : a.Serves stored? d answer) : (a.putIfSome stored?).Orderly := by
  cases stored? with
  | none => exact orderly
  | some rule =>
    obtain ⟨given,_,lands⟩ := served.lands rfl
    exact orderly.lands lands

end Archive

/-! ## Faithful dispatches -/

/-- A dispatch stores a status only while it records. -/
theorem Dispatch.writing_of_update {d : Dispatch} {given : Rule} (asks : d.demand = .update given) :
    ∃ recording, d.stage = .recording recording ∧ recording.stage = .writing given := by
  obtain ⟨rule,event,stage⟩ := d
  cases stage with
  | confirming => cases asks
  | reading action rest space name next => cases asks
  | running call rest => cases asks
  | recording recording =>
    obtain ⟨id,execution,outcome,attempt,stage⟩ := recording
    cases stage with
    | reading => cases asks
    | pausing span => cases asks
    | writing rule =>
      cases asks
      exact ⟨_,rfl,rfl⟩

/-- A rule that is read to be extended is the one of the recording, as it is. -/
theorem Dispatch.Reads.current {archive : Archive} {stored? : Option Rule} {d : Dispatch} {answer : d.demand.Answer}
    {latest : Rule} (reads : d.Reads answer latest) (served : archive.Serves stored? d.demand answer) :
    ∃ recording, d.stage = .recording recording ∧ archive.current? recording.rule = some latest := by
  obtain ⟨rule,event,stage⟩ := d
  cases stage with
  | confirming => exact reads.elim
  | reading action rest space name next => exact reads.elim
  | running call rest => exact reads.elim
  | recording recording =>
    obtain ⟨id,execution,outcome,attempt,stage⟩ := recording
    cases stage with
    | pausing span => exact reads.elim
    | writing given => exact reads.elim
    | reading =>
      change Except Fault Rule at answer
      change answer = .ok latest at reads
      subst reads
      exact ⟨_,rfl,served.2⟩

/-- What a dispatch is told, and makes of it, comes from states that its rule was in. -/
structure ActiveDispatch.Faithful (archive : Archive) (p : ActiveDispatch) : Prop where
  known : p.dispatch.rule ∈ archive.versions
  records : ∀ recording, p.dispatch.stage = .recording recording → p.dispatch.Records recording
  told : ∀ answer ∈ p.answer?, ∀ latest, p.dispatch.Reads answer latest →
    latest ∈ archive.versions ∧ latest.id = p.dispatch.rule.id
  writes : ∀ recording given, p.dispatch.stage = .recording recording → recording.stage = .writing given →
    ∃ latest now, latest ∈ archive.versions ∧ latest.id = p.dispatch.rule.id ∧ given = recording.extended latest now

theorem ActiveDispatch.Faithful.grow {archive archive' : Archive} {p : ActiveDispatch} (faithful : p.Faithful archive)
    (more : ∀ rule ∈ archive.versions, rule ∈ archive'.versions) : p.Faithful archive' := by
  refine ⟨more _ faithful.known,faithful.records,?_,?_⟩
  · intro answer held latest reads
    obtain ⟨member,id⟩ := faithful.told answer held latest reads
    exact ⟨more _ member,id⟩
  · intro recording given same writing
    obtain ⟨latest,now,member,rest⟩ := faithful.writes recording given same writing
    exact ⟨latest,now,more _ member,rest⟩

/-- An archive that is orderly, and dispatches that are faithful to it. -/
structure Desk.Faithful (k : Desk) : Prop where
  orderly : k.archive.Orderly
  active : ∀ p ∈ k.active, p.Faithful k.archive

theorem ActiveDispatch.Faithful.fresh {archive : Archive} {rule : Rule} (known : rule ∈ archive.versions)
    (event : Event) : ActiveDispatch.Faithful archive ⟨{ rule, event },none⟩ := by
  refine ⟨known,?_,?_,?_⟩
  · intro recording same
    cases same
  · intro answer held
    cases held
  · intro recording given same
    cases same

theorem ActiveDispatch.Faithful.serve {archive : Archive} (orderly : archive.Orderly) {stored? : Option Rule}
    {d : Dispatch} {answer : d.demand.Answer} (faithful : ActiveDispatch.Faithful archive ⟨d,none⟩)
    (served : archive.Serves stored? d.demand answer) : ActiveDispatch.Faithful archive ⟨d,some answer⟩ := by
  refine ⟨faithful.known,faithful.records,?_,faithful.writes⟩
  intro told held latest reads
  cases held
  obtain ⟨recording,same,current⟩ := reads.current served
  exact ⟨Archive.mem_versions_of_current? current,
    (orderly.id_of_current? current).trans (faithful.records recording same).rule⟩

theorem ActiveDispatch.Faithful.goOn {archive : Archive} {d d' : Dispatch} {answer : d.demand.Answer} {now : Moment}
    (faithful : ActiveDispatch.Faithful archive ⟨d,some answer⟩) (goes : d.GoesOn now answer d') :
    ActiveDispatch.Faithful archive ⟨d',none⟩ := by
  have claim : d'.claim = d.claim := by simp only [Dispatch.claim,goes.rule,goes.event]
  have kept : ∀ recording, d.Records recording → d'.Records recording := fun recording records =>
    ⟨by rw [goes.rule]; exact records.rule,by rw [claim]; exact records.object,by rw [claim]; exact records.event⟩
  refine ⟨?_,?_,?_,?_⟩
  · change d'.rule ∈ archive.versions
    rw [goes.rule]
    exact faithful.known
  · intro recording same
    rcases goes.records recording same with records | ⟨earlier,before,rule,execution⟩
    · exact kept recording records
    · obtain ⟨named,object,event⟩ := faithful.records earlier before
      exact kept recording ⟨rule.trans named,by rw [execution]; exact object,by rw [execution]; exact event⟩
  · intro told held
    cases held
  · intro recording given same writing
    obtain ⟨latest,reads,extended⟩ := goes.writes recording given same writing
    obtain ⟨member,id⟩ := faithful.told answer rfl latest reads
    refine ⟨latest,now.wall,member,?_,extended⟩
    change latest.id = d'.rule.id
    rw [goes.rule]
    exact id

theorem Desk.Faithful.step {settings : EngineSettings} {k k' : Desk} {new : List Deed} (faithful : k.Faithful)
    (step : k.Step settings new k') : k'.Faithful := by
  obtain ⟨orderly,active⟩ := faithful
  cases step with
  | @serve before after d answer stored? place served =>
    have more : ∀ rule ∈ k.archive.versions, rule ∈ (k.archive.putIfSome stored?).versions :=
      fun _ member => Archive.mem_versions_putIfSome stored? member
    rw [place,forall_middle] at active
    obtain ⟨own,others⟩ := active
    refine ⟨orderly.serves served,forall_middle.mpr ⟨?_,fun p member => (others p member).grow more⟩⟩
    exact (own.serve orderly served).grow more
  | goOn place claims went =>
    rw [place,forall_middle] at active
    obtain ⟨own,others⟩ := active
    exact ⟨orderly,forall_middle.mpr ⟨own.goOn (Dispatch.resume_waiting went).2,others⟩⟩
  | finish place claims went =>
    rw [place,forall_middle] at active
    exact ⟨orderly,active.2⟩
  | start place claims known started =>
    obtain ⟨rfl,_,_⟩ := Dispatch.start_waiting started
    rw [place] at active
    exact ⟨orderly,forall_middle.mpr ⟨.fresh known _,active⟩⟩
  | change changed =>
    exact ⟨orderly.change changed,fun p member => (active p member).grow fun _ => changed.mem_versions⟩
  | restart => exact ⟨orderly,fun p member => by simp at member⟩

theorem Desk.Run.faithful {settings : EngineSettings} {deeds : List Deed} {k : Desk}
    (run : Desk.Run settings deeds k) : k.Faithful := by
  induction run with
  | start => exact ⟨Archive.orderly_empty,fun p member => by simp at member⟩
  | step _ step ih => exact ih.step step

/-- What was stored for a dispatch: the rule of its name as it was, with the record of the dispatch. -/
structure Archive.Records (a : Archive) (d : Dispatch) (before after : Rule) : Prop where
  current : a.current? d.rule.id = some before
  id : after.id = d.rule.id
  uid? : after.metadata.uid? = before.metadata.uid?
  admitted : a.Admits after
  appends : before.Appends after d.claim.object d.claim.event

/-- A store takes the rule of a dispatch only if it is the latest state, extended by the recording. -/
theorem Desk.Faithful.extends {k : Desk} (faithful : k.Faithful) {d : Dispatch} (active : ⟨d,none⟩ ∈ k.active)
    {answer : d.demand.Answer} {rule : Rule} (served : k.archive.Serves (some rule) d.demand answer) :
    ∃ recording before now, d.stage = .recording recording ∧ d.Records recording ∧
      k.archive.current? d.rule.id = some before ∧ rule.id = d.rule.id ∧ rule.metadata.uid? = before.metadata.uid? ∧
      k.archive.Admits rule ∧ rule.status? = (recording.extended before now).status? := by
  obtain ⟨given,asks,lands⟩ := served.lands rfl
  obtain ⟨recording,same,writing⟩ := Dispatch.writing_of_update asks
  obtain ⟨latest,now,known,id,extended⟩ := (faithful.active _ active).writes recording given same writing
  obtain ⟨stored,present,version,named,uid,status,admitted⟩ := lands.replaces faithful.orderly
  have name : rule.id = d.rule.id := by
    rw [named,extended]
    exact id
  -- the stored rule is in the version of the one that was read, so it is that one
  have unchanged : latest = stored := by
    refine faithful.orderly.versioned stored (Archive.mem_versions_of_current? present) latest known ?_ ?_
    · rw [faithful.orderly.id_of_current? present,name]
      exact id
    · rw [version,extended]
      rfl
  subst unchanged
  exact ⟨recording,latest,now,same,(faithful.active _ active).records recording same,by rw [← name]; exact present,name,
    uid,admitted,by rw [status,extended]⟩

/-- A store takes the rule of a dispatch only if it is the latest state with the record of the dispatch. -/
theorem Desk.Faithful.stores {k : Desk} (faithful : k.Faithful) {d : Dispatch} (active : ⟨d,none⟩ ∈ k.active)
    {answer : d.demand.Answer} {rule : Rule} (served : k.archive.Serves (some rule) d.demand answer) :
    ∃ before, k.archive.Records d before rule := by
  obtain ⟨recording,before,now,_,records,current,name,uid,admitted,status⟩ := faithful.extends active served
  refine ⟨before,current,name,uid,admitted,?_⟩
  have appends := recording.extended_appends before now
  rw [records.object,records.event] at appends
  exact appends.restate status

end Callout
