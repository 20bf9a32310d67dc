import Callout.Proofs.Ledger

/-!
Where the record of a dispatch lands when rules are deleted and created anew. A dispatch addresses the rule by its
name, so its record joins the ledger of whatever rule has the name then: the rule whose actions ran exactly if it was
not deleted since it was in the state that was listed (`Run.record_lands`).
-/
namespace Callout
namespace Archive

/-- Whether the name of a rule lost it since it was in a state. -/
def DeletedSince (a : Archive) (rule : Rule) : Prop :=
  ∃ newer older, a.log = newer ++ (rule.id, some rule) :: older ∧ (rule.id, none) ∈ newer

/-- The rule of a name is the one that a state belongs to exactly if the name did not lose it since. -/
def Steady (a : Archive) : Prop :=
  ∀ rule ∈ a.versions, ∀ current, a.current? rule.id = some current →
    (current.metadata.uid? = rule.metadata.uid? ↔ ¬a.DeletedSince rule)

theorem DeletedSince.mem_versions {a : Archive} {rule : Rule} (deleted : a.DeletedSince rule) :
    rule ∈ a.versions := by
  obtain ⟨newer,older,same,_⟩ := deleted
  exact List.mem_filterMap.mpr ⟨(rule.id,some rule),by simp [same],rfl⟩

/-- Only a deletion under its name deletes a rule. -/
theorem deletedSince_cons {a : Archive} {entry : RuleId × Option Rule} {rule : Rule}
    (other : entry ≠ (rule.id,none)) : DeletedSince ⟨entry :: a.log⟩ rule ↔ a.DeletedSince rule := by
  constructor
  · rintro ⟨newer,older,same,gone⟩
    cases newer with
    | nil => cases gone
    | cons first newer =>
      obtain ⟨rfl,rest⟩ := List.cons.inj same
      rcases List.mem_cons.mp gone with here | gone
      · exact (other here.symm).elim
      · exact ⟨newer,older,rest,gone⟩
  · rintro ⟨newer,older,same,gone⟩
    exact ⟨entry :: newer,older,by rw [List.cons_append,← same],.tail _ gone⟩

theorem deletedSince_put {a : Archive} {rule stored : Rule} :
    (a.put stored).DeletedSince rule ↔ a.DeletedSince rule :=
  deletedSince_cons (by simp)

/-- A rule whose name has none any more was deleted. -/
theorem Orderly.deletedSince {a : Archive} (orderly : a.Orderly) {rule : Rule} (member : rule ∈ a.versions)
    (free : a.current? rule.id = none) : a.DeletedSince rule := by
  obtain ⟨entry,inside,holds⟩ := List.mem_filterMap.mp member
  have named : rule.id = entry.1 := orderly.keyed entry inside rule holds
  obtain rfl : entry = (rule.id,some rule) := Prod.ext named.symm holds
  have some_first : (a.log.find? (·.1 = rule.id)).isSome := List.find?_isSome.mpr ⟨_,inside,by simp⟩
  obtain ⟨first,found⟩ := Option.isSome_iff_exists.mp some_first
  have gone : first.2 = none := by simpa [current?,found] using free
  obtain ⟨id,newer,older,same,_⟩ := List.find?_eq_some_iff_append.mp found
  obtain rfl : first = (rule.id,none) := Prod.ext (by simpa using id) gone
  rw [same] at inside
  rcases List.mem_append.mp inside with before | after
  · exact absurd (‹∀ entry ∈ newer, _› _ before) (by simp)
  · rcases List.mem_cons.mp after with here | after
    · cases here
    · obtain ⟨between,older,rfl⟩ := List.append_of_mem after
      exact ⟨newer ++ (rule.id,none) :: between,older,by rw [same]; simp,by simp⟩

theorem steady_empty : Steady {} := fun rule member => by simp [versions] at member

/-- A rule in the place of one with the same name and identifier. -/
theorem Steady.replace {a : Archive} (steady : a.Steady) {old rule : Rule} (present : a.current? rule.id = some old)
    (same : rule.metadata.uid? = old.metadata.uid?) : (a.put rule).Steady := by
  intro state member current found
  rw [deletedSince_put]
  by_cases name : state.id = rule.id
  · rw [name,current?_put_self] at found
    cases found
    rw [same]
    by_cases known : state ∈ a.versions
    · exact steady state known old (by rw [name]; exact present)
    · have latest : state = rule := by simpa [known] using member
      rw [latest,same]
      refine iff_of_true rfl fun deleted => known ?_
      rw [latest]
      exact deleted.mem_versions
  · have known : state ∈ a.versions := by
      rw [versions_put] at member
      rcases List.mem_cons.mp member with rfl | member
      · exact (name rfl).elim
      · exact member
    rw [current?_put_of_ne a (Ne.symm name)] at found
    exact steady state known current found

theorem Steady.create {a : Archive} (steady : a.Steady) (orderly : a.Orderly) {rule : Rule}
    (free : a.current? rule.id = none) (distinct : ∀ old ∈ a.versions, old.incarnation ≠ rule.incarnation) :
    (a.put rule).Steady := by
  intro state member current found
  rw [deletedSince_put]
  by_cases known : state ∈ a.versions
  · by_cases name : state.id = rule.id
    · rw [name,current?_put_self] at found
      cases found
      have deleted := orderly.deletedSince known (by rw [name]; exact free)
      refine iff_of_false (fun same => distinct state known ?_) (fun kept => kept deleted)
      simp [Rule.incarnation,same,name]
    · rw [current?_put_of_ne a (Ne.symm name)] at found
      exact steady state known current found
  · have latest : state = rule := by simpa [known] using member
    rw [latest,current?_put_self] at found
    cases found
    rw [latest]
    refine iff_of_true rfl fun deleted => known ?_
    rw [latest]
    exact deleted.mem_versions

theorem Steady.remove {a : Archive} (steady : a.Steady) (id : RuleId) : (a.remove id).Steady := by
  intro state member current found
  rw [versions_remove] at member
  by_cases name : state.id = id
  · rw [name,current?_remove_self] at found
    cases found
  · rw [current?_remove_of_ne a (Ne.symm name)] at found
    have kept : (a.remove id).DeletedSince state ↔ a.DeletedSince state :=
      deletedSince_cons (by simpa using fun same => name same.symm)
    rw [kept]
    exact steady state member current found

end Archive

theorem Desk.Run.steady {settings : EngineSettings} {deeds : List Deed} {k : Desk}
    (run : Desk.Run settings deeds k) : k.archive.Steady := by
  induction run with
  | start => exact Archive.steady_empty
  | @step _ _ k _ run step ih =>
    have orderly := run.faithful.orderly
    cases step with
    | @serve before after d answer stored? place served =>
      cases stored? with
      | none => exact ih
      | some rule =>
        obtain ⟨old,records⟩ := run.faithful.stores (by simp [place]) served
        exact ih.replace (by rw [records.id]; exact records.current) records.uid?
    | goOn => exact ih
    | finish => exact ih
    | start => exact ih
    | change changed =>
      cases changed with
      | create free distinct admitted => exact ih.create orderly free distinct
      | edit present same kept admitted => exact ih.replace present same
      | delete id => exact ih.remove id
    | restart => exact ih

/-! ## What is stored -/

/-- Whether the actions of a dispatch began to run for its event. -/
def Dispatch.BeganIn (d : Dispatch) (deeds : List Deed) : Prop :=
  ∃ first : Dispatch, .began first ∈ deeds ∧ first.rule = d.rule ∧ first.event = d.event

theorem Dispatch.BeganIn.later {d : Dispatch} {deeds deeds' : List Deed} (began : d.BeganIn deeds)
    (more : ∀ deed ∈ deeds, deed ∈ deeds') : d.BeganIn deeds' := by
  obtain ⟨first,member,same⟩ := began
  exact ⟨first,more _ member,same⟩

/-- The actions of every dispatch that is past its beginning began. -/
theorem Desk.Run.began {settings : EngineSettings} {deeds : List Deed} {k : Desk} (run : Desk.Run settings deeds k) :
    ∀ p ∈ k.active, p.dispatch.HasBegun → p.dispatch.BeganIn deeds := by
  induction run with
  | start => exact fun p member => by cases member
  | @step deeds new k _ run step ih =>
    have later : ∀ {d : Dispatch}, d.BeganIn deeds → d.BeganIn (new ++ deeds) :=
      fun began => began.later fun _ => List.mem_append_right _
    cases step with
    | serve place served =>
      rw [place,forall_middle] at ih
      exact forall_middle.mpr ⟨fun begun => later (ih.1 begun),fun p member begun => later (ih.2 p member begun)⟩
    | @goOn before after d d' answer now registry registry' place claims went =>
      rw [place,forall_middle] at ih
      refine forall_middle.mpr ⟨fun _ => ?_,fun p member begun => later (ih.2 p member begun)⟩
      obtain ⟨_,goes⟩ := Dispatch.resume_waiting went
      by_cases before : d.HasBegun
      · obtain ⟨first,old,rule,event⟩ := later (ih.1 before)
        exact ⟨first,old,rule.trans goes.rule.symm,event.trans goes.event.symm⟩
      · exact ⟨d',by simp [deedsBetween_of_unbegun before goes.begun],rfl,rfl⟩
    | finish place claims went =>
      rw [place,forall_middle] at ih
      exact ih.2
    | start place claims known started =>
      rw [place] at ih
      obtain ⟨rfl,_⟩ := Dispatch.start_waiting started
      exact forall_middle.mpr ⟨fun begun => begun.elim,ih⟩
    | change changed => exact ih
    | restart => exact fun p member => by cases member

/-- Only a dispatch that began has its record stored. -/
theorem Dispatch.hasBegun_of_update {d : Dispatch} {given : Rule} (asks : d.demand = .update given) : d.HasBegun := by
  obtain ⟨recording,same,_⟩ := writing_of_update asks
  simp [HasBegun,same]

/-- Whatever was stored for a dispatch was stored at some desk, at which the dispatch waited for it. -/
theorem Desk.Run.stored {settings : EngineSettings} {deeds : List Deed} {k : Desk} (run : Desk.Run settings deeds k)
    {d : Dispatch} {archive : Archive} {rule : Rule} (member : .stored d archive rule ∈ deeds) :
    ∃ earlier claims active answer, Desk.Run settings earlier ⟨claims,active,archive⟩ ∧
      (∀ deed ∈ earlier, deed ∈ deeds) ∧ ⟨d,none⟩ ∈ active ∧ archive.Serves (some rule) d.demand answer := by
  induction run with
  | start => cases member
  | @step deeds new k k' run step ih =>
    rcases List.mem_append.mp member with now | before
    · cases step with
      | @serve before after d' answer stored? place served =>
        cases stored? with
        | none => cases now
        | some rule' =>
          cases List.mem_singleton.mp now
          exact ⟨deeds,k.claims,k.active,answer,run,fun _ => List.mem_append_right _,by simp [place],served⟩
      | @goOn before after d' _ answer now' registry registry' place claims went =>
        simp only [deedsBetween] at now
        split at now
        · cases List.mem_singleton.mp now
        · cases now
      | finish => cases now
      | start => cases now
      | change => cases now
      | restart => cases List.mem_singleton.mp now
    · obtain ⟨earlier,claims,active,answer,ran,inside,rest⟩ := ih before
      exact ⟨earlier,claims,active,answer,ran,fun deed old => List.mem_append_right _ (inside deed old),rest⟩

/-- Whenever something is stored for a dispatch, its actions ran for the event, and the rule that has its name gets
the record. That is the rule whose actions ran exactly if it was not deleted since it was in the state that was
listed. -/
theorem Run.record_lands {settings : EngineSettings} {history : List Happening} {w : World}
    (run : Run settings history w) {d : Dispatch} {archive : Archive} {after : Rule}
    (member : .stored d archive after ∈ deeds history) :
    d.BeganIn (deeds history) ∧
      ∃ before, archive.current? d.rule.id = some before ∧ after.id = d.rule.id ∧
        after.metadata.uid? = before.metadata.uid? ∧
        before.Appends after d.event.object.identity d.event.kind ∧
        (before.metadata.uid? = d.rule.metadata.uid? ↔ ¬archive.DeletedSince d.rule) := by
  obtain ⟨earlier,claims,active,answer,ran,inside,waits,served⟩ := run.desk_and_listed.1.stored member
  obtain ⟨given,asks,_⟩ := served.lands rfl
  have began := ran.began _ waits (Dispatch.hasBegun_of_update asks)
  obtain ⟨before,records⟩ := ran.faithful.stores waits served
  refine ⟨began.later inside,before,records.current,records.id,records.uid?,records.appends,?_⟩
  exact ran.steady d.rule (ran.faithful.active _ waits).known before records.current

namespace Sample

/-- The action of a rule runs, and the rule gets the record. -/
theorem record_lands_on_listed_rule : ∃ history w d archive after,
    Run {} history w ∧ .stored d archive after ∈ deeds history ∧ d.BeganIn (deeds history) ∧
      onceRule.Appends after "uid-a" .create ∧ ¬archive.DeletedSince d.rule := by
  have run := (Run.start : Run {} [] {}).step (.change (created onceRule))
  replace run := run.step (.request (.delivery (.listing event)) trivial)
  replace run := (run.told (Except.ok [onceRule]) ⟨rfl,fun _ member => member⟩).goes moment rfl
  replace run := (run.told (Except.ok onceRule) ⟨rfl,rfl⟩).goes moment rfl
  replace run := (run.told (Except.ok ()) rfl).goes moment rfl
  replace run := (run.told (Except.ok onceRule) ⟨rfl,rfl⟩).goes moment rfl
  replace run := run.told (Except.ok ()) ⟨recorded onceRule "2",rfl,_,rfl,rfl,rfl,recorded_admitted⟩
  obtain ⟨began,before,current,_,_,appends,kept⟩ := run.record_lands (.head _)
  obtain rfl : onceRule = before := Option.some.inj current
  exact ⟨_,_,_,_,_,run,.head _,began,appends,kept.mp rfl⟩

/-- A rule under the same name, created after the other one was deleted. -/
def anewRule : Rule :=
  { onceRule with metadata := { onceRule.metadata with version? := some "2", uid? := some "uid-2" } }

private theorem anew_recorded_admitted : Archive.Admits
    ⟨[(anewRule.id,some anewRule),(onceRule.id,none),(onceRule.id,some onceRule)]⟩ (recorded anewRule "3") := by
  intro old member id version
  rcases List.mem_cons.mp (show old ∈ [anewRule,onceRule] from member) with rfl | member
  · exact absurd version (by decide)
  · cases List.mem_singleton.mp member
    exact absurd version (by decide)

/-- While the action of a rule runs, the rule is deleted and another one is created under its name. The record joins
the ledger of that one, for which nothing ran. -/
theorem record_lands_on_recreated_rule : ∃ history w d archive after,
    Run {} history w ∧ .stored d archive after ∈ deeds history ∧ d.rule.metadata.uid? = some "uid-1" ∧
      after.metadata.uid? = some "uid-2" ∧ after.hasExecuted "uid-a" .create = true ∧
      ∀ first, .began first ∈ deeds history → first.rule.metadata.uid? = some "uid-1" := by
  have run := (Run.start : Run {} [] {}).step (.change (created onceRule))
  replace run := run.step (.request (.delivery (.listing event)) trivial)
  replace run := (run.told (Except.ok [onceRule]) ⟨rfl,fun _ member => member⟩).goes moment rfl
  replace run := (run.told (Except.ok onceRule) ⟨rfl,rfl⟩).goes moment rfl
  -- the action runs, and the rule is replaced
  replace run := run.step (.change (.delete onceRule.id))
  replace run := run.step (.change (@Archive.Change.create _ anewRule rfl (by
    intro old member
    cases List.mem_singleton.mp (show old ∈ [onceRule] from member)
    decide) (by
    intro old member id version
    cases List.mem_singleton.mp (show old ∈ [onceRule] from member)
    exact absurd version (by decide))))
  replace run := (run.told (Except.ok ()) rfl).goes moment rfl
  replace run := (run.told (Except.ok anewRule) ⟨rfl,rfl⟩).goes moment rfl
  replace run := run.told (Except.ok ()) ⟨recorded anewRule "3",rfl,_,rfl,rfl,rfl,anew_recorded_admitted⟩
  refine ⟨_,_,_,_,recorded anewRule "3",run,.head _,rfl,rfl,by decide,?_⟩
  intro first member
  rcases List.mem_cons.mp (show .began first ∈ [Deed.stored _ _ _,.began _] from member) with no | member
  · cases no
  · cases List.mem_singleton.mp member
    rfl

end Sample
end Callout
