import Callout.Proofs.Contention
import Callout.Proofs.Reporting

/-!
Which generation of a rule a status is about. A dispatch runs the actions of the rule as it was listed, but the
generation that it reports is the one of the rule as it is when the status is stored: the one whose actions ran exactly
if the rule was given no other specification since it was listed (`Run.observes_stored`).
-/
namespace Callout

/-- The number of a generation; a rule without one is in none yet. -/
def generationNumber (generation? : Option Int64) : Int := (generation?.map Int64.toInt).getD 0

/-- The number of a rule's generation. -/
def Rule.generation (rule : Rule) : Int := generationNumber rule.metadata.generation?

/-- Whether a rule takes the place of another one as generations have it: another specification makes for a later
generation, and anything else keeps it. -/
def Rule.Succeeds (rule old : Rule) : Prop :=
  rule.spec = old.spec ∧ rule.generation = old.generation ∨ rule.spec ≠ old.spec ∧ old.generation < rule.generation

namespace Archive

/-- Whether every rule in an archive took the place of the one before it as generations have it. -/
def Graded (a : Archive) : Prop :=
  ∀ newer older rule old, a.log = newer ++ (rule.id, some rule) :: older →
    current? ⟨older⟩ rule.id = some old → rule.Succeeds old

/-- Whether a rule was given another specification since it was in a state. -/
def EditedSince (a : Archive) (rule : Rule) : Prop :=
  ∃ newer older, a.log = newer ++ (rule.id, some rule) :: older ∧
    ∃ state, (rule.id, some state) ∈ newer ∧ state.spec ≠ rule.spec

/-- How a rule stands to a state that its name was in, given what was stored since: it was given no other
specification and is in the same generation, or it was and is in a later one. -/
def Outlives (current rule : Rule) (newer : List (RuleId × Option Rule)) : Prop :=
  (∀ state, (rule.id, some state) ∈ newer → state.spec = rule.spec) ∧ current.spec = rule.spec ∧
      current.generation = rule.generation ∨
    (∃ state, (rule.id, some state) ∈ newer ∧ state.spec ≠ rule.spec) ∧ rule.generation < current.generation

/-! ## Archives with generations -/

theorem graded_empty : Graded {} := fun newer _ _ _ place => absurd place (by simp)

theorem Graded.put {a : Archive} (graded : a.Graded) {rule : Rule}
    (succeeds : ∀ old, a.current? rule.id = some old → rule.Succeeds old) : (a.put rule).Graded := by
  intro newer older other old place found
  cases newer with
  | nil =>
    obtain ⟨same,rfl⟩ := List.cons.inj place
    cases Option.some.inj (Prod.mk.inj same).2
    exact succeeds old found
  | cons entry newer => exact graded newer older other old (List.cons.inj place).2 found

theorem Graded.tail {entry : RuleId × Option Rule} {log : List (RuleId × Option Rule)}
    (graded : Graded ⟨entry :: log⟩) : Graded ⟨log⟩ :=
  fun newer older rule old place found => graded (entry :: newer) older rule old (congrArg (entry :: ·) place) found

/-- A status that is stored is no edit. -/
theorem Lands.succeeds {a : Archive} (orderly : a.Orderly) {given rule old : Rule} (lands : a.Lands given rule)
    (found : a.current? rule.id = some old) : rule.Succeeds old := by
  obtain ⟨stored,present,_,same,_⟩ := lands
  have id := congrArg Rule.id same
  have spec := congrArg Rule.spec same
  have generation := congrArg Rule.generation same
  rw [id,Rule.restated_id,orderly.id_of_current? present] at found
  cases Option.some.inj (present.symm.trans found)
  exact .inl ⟨spec,generation⟩

theorem Outlives.succeeded {old rule state : Rule} {newer : List (RuleId × Option Rule)}
    (outlives : Outlives old rule newer) (succeeds : state.Succeeds old) :
    Outlives state rule ((rule.id,some state) :: newer) := by
  rcases outlives with ⟨alike,spec,generation⟩ | ⟨⟨other,member,unlike⟩,later⟩
  · rcases succeeds with ⟨kept,still⟩ | ⟨edited,raised⟩
    · refine .inl ⟨fun other member => ?_,kept.trans spec,still.trans generation⟩
      rcases List.mem_cons.mp member with here | member
      · cases here
        exact kept.trans spec
      · exact alike other member
    · exact .inr ⟨⟨state,.head _,fun same => edited (same.trans spec.symm)⟩,generation ▸ raised⟩
  · refine .inr ⟨⟨other,.tail _ member,unlike⟩,?_⟩
    rcases succeeds with ⟨_,still⟩ | ⟨_,raised⟩
    · exact still ▸ later
    · exact Int.lt_trans later raised

/-- A rule that was in a state and was not deleted since is in the generation of that state, or was edited. -/
theorem Graded.outlives {newer older : List (RuleId × Option Rule)} {rule : Rule}
    (graded : Graded ⟨newer ++ (rule.id,some rule) :: older⟩)
    (keyed : ∀ entry ∈ newer, ∀ state ∈ entry.2, state.id = entry.1) (kept : (rule.id,none) ∉ newer) :
    ∃ current, current? ⟨newer ++ (rule.id,some rule) :: older⟩ rule.id = some current ∧
      Outlives current rule newer := by
  -- By induction on what was stored since, newest first: only what was stored under the rule's own name counts.
  induction newer with
  | nil => exact ⟨rule,by simp [current?],.inl ⟨by simp,rfl,rfl⟩⟩
  | cons entry newer ih =>
    obtain ⟨old,found,outlives⟩ := ih graded.tail (fun other member => keyed other (.tail _ member))
      (fun member => kept (.tail _ member))
    obtain ⟨id,state?⟩ := entry
    by_cases same : id = rule.id
    · subst same
      cases state? with
      | none => exact (kept (.head _)).elim
      | some state =>
        have named : state.id = rule.id := keyed _ (.head _) state rfl
        refine ⟨state,by simp [current?],outlives.succeeded ?_⟩
        exact graded [] _ state old (by rw [named]; rfl) (by rw [named]; exact found)
    · refine ⟨old,by simpa [current?,same] using found,?_⟩
      have others : ∀ state, (rule.id,some state) ∈ (id,state?) :: newer ↔ (rule.id,some state) ∈ newer := by
        intro state
        simp [Ne.symm same]
      simpa only [Outlives,others] using outlives

/-- A rule that was not deleted since it was in a state is in a generation no earlier, and in a later one exactly if it
was edited. -/
theorem Graded.generation_le_iff {a : Archive} (graded : a.Graded) (orderly : a.Orderly) {rule current : Rule}
    (member : rule ∈ a.versions) (kept : ¬a.DeletedSince rule) (found : a.current? rule.id = some current) :
    rule.generation ≤ current.generation ∧ (current.generation ≤ rule.generation ↔ ¬a.EditedSince rule) := by
  have since : ∀ newer older, a.log = newer ++ (rule.id,some rule) :: older → Outlives current rule newer := by
    intro newer older place
    obtain ⟨log⟩ := a
    change log = _ at place
    subst place
    obtain ⟨last,here,outlives⟩ := graded.outlives
      (fun entry inside => orderly.keyed entry (List.mem_append_left _ inside))
      (fun gone => kept ⟨newer,older,rfl,gone⟩)
    cases Option.some.inj (here.symm.trans found)
    exact outlives
  obtain ⟨entry,inside,holds⟩ := List.mem_filterMap.mp member
  have named : rule.id = entry.1 := orderly.keyed entry inside rule holds
  obtain rfl : entry = (rule.id,some rule) := Prod.ext named.symm holds
  obtain ⟨newer,older,place⟩ := List.append_of_mem inside
  -- The same state can be in the history more than once; an edit after any place of it makes for a later generation.
  rcases since newer older place with ⟨alike,_,same⟩ | ⟨edited,later⟩
  · refine ⟨Int.le_of_eq same.symm,iff_of_true (Int.le_of_eq same) ?_⟩
    rintro ⟨newer',older',place',edited⟩
    rcases since newer' older' place' with ⟨alike',_,_⟩ | ⟨_,later⟩
    · obtain ⟨state,member,unlike⟩ := edited
      exact unlike (alike' state member)
    · omega
  · refine ⟨Int.le_of_lt later,iff_of_false (by omega) fun unedited => unedited ?_⟩
    exact ⟨newer,older,place,edited⟩

end Archive

/-! ## What a status is about -/

/-- The ready condition of a status that is recorded is about the generation that was given. -/
theorem RuleStatus.record_observes (s : RuleStatus) (execution : Execution) (outcome : Outcome)
    (generation? : Option Int64) (now : Timestamp) :
    ∃ ready, (s.record execution outcome generation? now).ready? = some ready ∧ ready.generation? = generation? := by
  obtain ⟨since,found⟩ := s.record_ready execution outcome generation? now
  exact ⟨_,found,by cases outcome <;> rfl⟩

/-- Whenever a status is stored for a dispatch, its actions began before. -/
theorem Run.began_of_stored {settings : EngineSettings} {history : List Happening} {w : World}
    (run : Run settings history w) {d : Dispatch} {archive : Archive} {after : Rule}
    (member : .stored d archive after ∈ deeds history) : d.BeganIn (deeds history) := by
  obtain ⟨earlier,claims,active,answer,ran,inside,waits,served⟩ := run.desk_and_listed.1.stored member
  obtain ⟨given,asks,_⟩ := served.lands rfl
  exact (ran.began _ waits (Dispatch.hasBegun_of_update asks)).later inside

/-- Take any status that is stored for a dispatch, in an archive in which the generation of a rule rises with every
edit. The ready condition is about the generation of the rule as it is then, and storing it is no edit. Unless the rule
was deleted since it was listed, that is no generation before the one whose actions ran, and it is that one exactly if
the rule was not edited since. -/
theorem Run.observes_stored {settings : EngineSettings} {history : List Happening} {w : World}
    (run : Run settings history w) {d : Dispatch} {archive : Archive} {after : Rule}
    (member : .stored d archive after ∈ deeds history) (graded : archive.Graded) :
    d.BeganIn (deeds history) ∧ (archive.put after).Graded ∧
      ∃ before status ready, archive.current? d.rule.id = some before ∧ after.status? = some status ∧
        status.ready? = some ready ∧ ready.generation? = before.metadata.generation? ∧
        (¬archive.DeletedSince d.rule →
          d.rule.generation ≤ generationNumber ready.generation? ∧
            (generationNumber ready.generation? ≤ d.rule.generation ↔ ¬archive.EditedSince d.rule)) := by
  obtain ⟨earlier,claims,active,answer,ran,inside,waits,served⟩ := run.desk_and_listed.1.stored member
  obtain ⟨given,asks,lands⟩ := served.lands rfl
  have orderly := ran.faithful.orderly
  obtain ⟨recording,before,now,_,_,current,_,_,_,stored⟩ := ran.faithful.extends waits served
  obtain ⟨ready,found,observed⟩ := RuleStatus.record_observes (before.status?.getD {}) recording.execution
    recording.outcome before.metadata.generation? now
  refine ⟨run.began_of_stored member,graded.put fun _ => lands.succeeds orderly,before,_,ready,current,stored,found,
    observed,fun kept => ?_⟩
  rw [observed]
  exact graded.generation_le_iff orderly (ran.faithful.active _ waits).known kept current

namespace Sample

/-- A rule in its first generation. -/
def firstRule : Rule := { onceRule with metadata := { onceRule.metadata with generation? := some 1 } }

/-- The rule with another annotation. -/
def annotatedRule : Rule :=
  { firstRule with
    metadata := { firstRule.metadata with
      version? := some "2", annotations? := some (Dict.ofList [("owner","team-a")]) } }

/-- The rule with another action. -/
def secondRule : Rule :=
  { firstRule with
    metadata := { firstRule.metadata with version? := some "2", generation? := some 2 },
    spec := { firstRule.spec with actions := [{ url := "http://hook/other" }] } }

/-- An archive in which the first rule was edited once, with or without another specification. -/
def edited (rule : Rule) : Archive := Archive.put (Archive.put {} firstRule) rule

theorem edited_graded (rule : Rule) (id : rule.id = firstRule.id) (succeeds : rule.Succeeds firstRule) :
    (edited rule).Graded := by
  refine (Archive.graded_empty.put fun _ none => by cases none).put fun old found => ?_
  rw [id,Archive.current?_put_self] at found
  cases found
  exact succeeds

theorem edited_kept (rule : Rule) : ¬(edited rule).DeletedSince firstRule := by
  rintro ⟨newer,older,same,gone⟩
  have member : (firstRule.id,none) ∈ (edited rule).log := same ▸ List.mem_append_left _ gone
  simp [edited,Archive.put] at member

theorem edited_admits (rule : Rule) (first : rule.metadata.version? = some "2") :
    (edited rule).Admits (recorded rule "3") := by
  refine Archive.admits_of_new fun old member => ?_
  rcases List.mem_cons.mp (show old ∈ [rule,firstRule] from member) with rfl | member
  · rw [first]
    change some "2" ≠ some "3"
    decide
  · cases List.mem_singleton.mp member
    change some "1" ≠ some "3"
    decide

/-- While the action of the first rule runs, the rule is edited. The dispatch goes on to store its status. -/
theorem edited_while_running (rule : Rule) (id : rule.id = firstRule.id)
    (uid : rule.metadata.uid? = firstRule.metadata.uid?) (version : rule.metadata.version? = some "2") :
    ∃ history w d, Run {} history w ∧ d.rule = firstRule ∧
      .stored d (edited rule) (recorded rule "3") ∈ deeds history := by
  have run := (Run.start : Run {} [] {}).step (.change (created firstRule))
  replace run := run.step (.request (.delivery (.listing event)) trivial)
  replace run := (run.told (Except.ok [firstRule]) ⟨rfl,fun _ member => member⟩).goes moment rfl
  replace run := (run.told (Except.ok firstRule) ⟨rfl,rfl⟩).goes moment rfl
  -- the action runs, and the rule is edited
  have present : (Archive.put {} firstRule).current? rule.id = some firstRule := by
    rw [id,Archive.current?_put_self]
  replace run := run.step (.change (@Archive.Change.edit _ firstRule rule present uid
    (fun _ _ executed => by cases executed) (Archive.admits_of_new fun old member => by
      cases List.mem_singleton.mp (show old ∈ [firstRule] from member)
      rw [version]
      decide)))
  replace run := (run.told (Except.ok ()) rfl).goes moment rfl
  have stored : (edited rule).current? rule.id = some rule := Archive.current?_put_self _ _
  have found : (edited rule).current? firstRule.id = some rule := id ▸ stored
  replace run := (run.told (Except.ok rule) ⟨rfl,found⟩).goes moment rfl
  replace run := run.told (Except.ok ()) ⟨recorded rule "3",rfl,rule,stored,rfl,rfl,edited_admits rule version⟩
  exact ⟨_,_,_,run,rfl,.head _⟩

/-- The rule gets an annotation while its action runs. The status is about the generation that ran. -/
theorem observes_stored_annotated : ∃ history w d archive after status ready,
    Run {} history w ∧ .stored d archive after ∈ deeds history ∧ archive.Graded ∧ ¬archive.DeletedSince d.rule ∧
      after.status? = some status ∧ status.ready? = some ready ∧ d.rule.generation = 1 ∧
      generationNumber ready.generation? ≤ d.rule.generation := by
  obtain ⟨history,w,d,run,listed,member⟩ := edited_while_running annotatedRule rfl rfl rfl
  have graded := edited_graded annotatedRule rfl (.inl ⟨rfl,rfl⟩)
  have kept := edited_kept annotatedRule
  have unedited : ¬(edited annotatedRule).EditedSince firstRule := by
    rintro ⟨newer,older,place,state,inside,unlike⟩
    have member : (firstRule.id,some state) ∈ (edited annotatedRule).log := place ▸ List.mem_append_left _ inside
    rcases List.mem_cons.mp member with here | member
    · cases here
      exact unlike rfl
    · cases List.mem_singleton.mp member
      exact unlike rfl
  obtain ⟨_,_,before,status,ready,_,stored,about,_,generations⟩ := run.observes_stored member graded
  rw [listed] at generations
  refine ⟨history,w,d,_,_,status,ready,run,member,graded,?_,stored,about,?_,?_⟩ <;> rw [listed]
  · exact kept
  · rfl
  · exact (generations kept).2.mpr unedited

/-- The rule gets another action while its action runs, and is in a later generation from then on. The status says of
that generation that all went well, though the action of the earlier one ran. -/
theorem observes_generation_that_never_ran : ∃ history w d archive after status ready,
    Run {} history w ∧ .stored d archive after ∈ deeds history ∧ archive.Graded ∧ ¬archive.DeletedSince d.rule ∧
      d.BeganIn (deeds history) ∧ d.rule.generation = 1 ∧ after.status? = some status ∧
      status.ready? = some ready ∧ ready.status = .holds ∧ generationNumber ready.generation? = 2 := by
  obtain ⟨history,w,d,run,listed,member⟩ := edited_while_running secondRule rfl rfl rfl
  have unlike : secondRule.spec ≠ firstRule.spec := by
    intro same
    have urls := congrArg (fun spec : RuleSpec => spec.actions.map (·.url)) same
    exact absurd urls (by decide)
  have graded := edited_graded secondRule rfl (.inr ⟨unlike,by decide⟩)
  refine ⟨history,w,d,_,_,_,_,run,member,graded,?_,run.began_of_stored member,?_,rfl,rfl,rfl,rfl⟩ <;> rw [listed]
  · exact edited_kept secondRule
  · rfl

end Sample
end Callout
