import Callout.Proofs.Ledger

/-!
Recordings that contend for the status of one rule. Any number of them run at once, and others write the status too.
A store may answer a read with any state that the rule was in, and may report a fault although a status landed. Still
no record is lost (`Contest.Run.no_update_lost`): what an attempt writes is what it read, extended, and it lands only
if the rule still is in that state.
-/
namespace Callout

/-! ## Ledgers that grow -/

namespace Rule

/-- A ledger with no two records of one event for one object. -/
def Distinct (rule : Rule) : Prop := (rule.ledger.map fun e => (e.object,e.event)).Nodup

/-- The ledger of a rule is continued by the one of another rule. -/
def Grows (before after : Rule) : Prop := before.ledger <+: after.ledger

theorem Grows.hasExecuted {before after : Rule} (grows : before.Grows after) {object : String} {event : EventKind}
    (executed : before.hasExecuted object event = true) : after.hasExecuted object event = true := by
  rw [hasExecuted_iff] at executed ⊢
  obtain ⟨e,member,named⟩ := executed
  exact ⟨e,grows.subset member,named⟩

theorem Appends.grows {before after : Rule} {object : String} {event : EventKind}
    (appends : before.Appends after object event) : before.Grows after := by
  rcases appends with ⟨_,same⟩ | ⟨_,execution,_,_,longer⟩
  · exact ⟨[],by rw [List.append_nil,same]⟩
  · rw [Grows,longer]
    exact List.prefix_append _ _

/-- A record joins a ledger only if there is none of its event yet. -/
theorem Appends.distinct {before after : Rule} {object : String} {event : EventKind}
    (appends : before.Appends after object event) (distinct : before.Distinct) : after.Distinct := by
  rcases appends with ⟨_,same⟩ | ⟨missing,execution,rfl,rfl,longer⟩
  · rw [Distinct,same]
    exact distinct
  · rw [Distinct,longer,List.map_append,List.nodup_append]
    refine ⟨distinct,by simp,?_⟩
    intro known member new inside same
    obtain ⟨e,held,rfl⟩ := List.mem_map.mp member
    cases List.mem_singleton.mp inside
    obtain ⟨object,event⟩ := Prod.mk.inj same
    have executed := (before.hasExecuted_iff _ _).mpr ⟨e,held,object,event⟩
    exact absurd executed (by simp [missing])

end Rule

/-! ## Recordings side by side -/

/-- A recording under way, and the answer that is on its way to it. -/
structure ActiveRecording where
  recording : Recording
  answer? : Option recording.demand.Answer := none

/-- What happened to the status of a rule. -/
inductive Filing where
  /-- A recording was told a state of the rule. -/
  | read (recording : Recording) (rule : Rule)
  /-- What a recording wrote has landed: the archive before, and the rule as it was stored. -/
  | stored (recording : Recording) (archive : Archive) (rule : Rule)
  /-- Another writer has stored the rule: the archive before, and the rule as it was stored. -/
  | edited (archive : Archive) (rule : Rule)
  | returned (recording : Recording) (result : Except Fault Unit)

/-- Recordings for one rule, and what is stored. -/
structure Contest where
  active : List ActiveRecording := []
  archive : Archive := {}

namespace Contest

/-- One step of a single recording, or of another writer. -/
inductive Step (settings : EngineSettings) (id : RuleId) (c : Contest) : List Filing → Contest → Prop where
  /-- A recording begins. -/
  | begin (execution : Execution) (outcome : RuleStatus.Outcome) :
      Step settings id c [] ⟨⟨{ rule := id, execution, outcome }, none⟩ :: c.active, c.archive⟩
  /-- A recording is told any state that the rule was in. -/
  | read {before after : List ActiveRecording} {r : Recording} {answer : r.demand.Answer} {latest : Rule}
      (place : c.active = before ++ ⟨r, none⟩ :: after) (reads : r.Reads answer latest)
      (known : latest ∈ c.archive.versions) :
      Step settings id c [.read r latest] ⟨before ++ ⟨r, some answer⟩ :: after, c.archive⟩
  /-- A recording is told a fault, that its pause is over, or how its write ended, which may have landed anyway. -/
  | serve {before after : List ActiveRecording} {r : Recording} {answer : r.demand.Answer} {stored? : Option Rule}
      (place : c.active = before ++ ⟨r, none⟩ :: after) (unread : ∀ latest, ¬r.Reads answer latest)
      (served : c.archive.Serves stored? r.demand answer) :
      Step settings id c (stored?.toList.map (.stored r c.archive))
        ⟨before ++ ⟨r, some answer⟩ :: after, c.archive.putIfSome stored?⟩
  | goOn {before after : List ActiveRecording} {r r' : Recording} {answer : r.demand.Answer} {now : Moment}
      (place : c.active = before ++ ⟨r, some answer⟩ :: after)
      (went : r.resume settings now answer = .waiting r') :
      Step settings id c [] ⟨before ++ ⟨r', none⟩ :: after, c.archive⟩
  | finish {before after : List ActiveRecording} {r : Recording} {answer : r.demand.Answer} {now : Moment}
      {result : Except Fault Unit} (place : c.active = before ++ ⟨r, some answer⟩ :: after)
      (went : r.resume settings now answer = .finished result) :
      Step settings id c [.returned r result] ⟨before ++ after, c.archive⟩
  /-- Another writer stores a state that it made from the latest one. To the ledger it only appends. -/
  | edit {old new : Rule} (present : c.archive.current? id = some old) (named : new.id = id)
      (same : new.metadata.uid? = old.metadata.uid?) (grows : old.Grows new) (admitted : c.archive.Admits new) :
      Step settings id c [.edited c.archive new] ⟨c.active, c.archive.put new⟩

/-- A run of recordings for a rule that is stored, with what happened in it, latest first. -/
inductive Run (settings : EngineSettings) (first : Rule) : List Filing → Contest → Prop where
  | start : Run settings first [] { archive := ({} : Archive).put first }
  | step {history new : List Filing} {c c' : Contest} :
      Run settings first history c → Step settings first.id c new c' → Run settings first (new ++ history) c'

end Contest

/-! ## One attempt -/

namespace Recording

/-- A recording at the beginning of its attempt. -/
def reread (r : Recording) : Recording := { r with stage := .reading }

/-- A recording writes in the attempt in which it read. -/
theorem reread_of_resume {settings : EngineSettings} {now : Moment} {r r' : Recording} {answer : r.demand.Answer}
    (went : r.resume settings now answer = .waiting r') {given : Rule} (writing : r'.stage = .writing given) :
    r'.reread = r := by
  have advances := r.resume_advances settings now answer
  rw [went] at advances
  cases advances with
  | read => rfl
  | conflicted | rested => cases writing

/-- A recording stores a status only while it writes. -/
theorem writing_of_update {r : Recording} {given : Rule} (asks : r.demand = .update given) :
    r.stage = .writing given := by
  obtain ⟨id,execution,outcome,attempt,stage⟩ := r
  cases stage with
  | reading => cases asks
  | pausing span => cases asks
  | writing rule =>
    cases asks
    rfl

/-- A recording that is told that its status is stored had it stored. -/
theorem Stored.stored {archive : Archive} {stored? : Option Rule} {r : Recording} {answer : r.demand.Answer}
    (stored : r.Stored answer) (served : archive.Serves stored? r.demand answer) : ∃ rule, stored? = some rule := by
  obtain ⟨id,execution,outcome,attempt,stage⟩ := r
  cases stage with
  | reading => exact stored.elim
  | pausing span => exact stored.elim
  | writing given =>
    change Except Fault Unit at answer
    change answer = .ok () at stored
    subst stored
    obtain ⟨rule,same,_⟩ := served
    exact ⟨rule,same⟩

/-- A recording is told one state of its rule at a time. -/
theorem Reads.unique {r : Recording} {answer : r.demand.Answer} {latest other : Rule} (reads : r.Reads answer latest)
    (again : r.Reads answer other) : latest = other := by
  obtain ⟨id,execution,outcome,attempt,stage⟩ := r
  cases stage with
  | reading => exact Except.ok.inj (Eq.trans (Eq.symm reads) again)
  | writing given => exact reads.elim
  | pausing span => exact reads.elim

/-- A recording that is told a state of its rule is not told that its status is stored. -/
theorem Stored.not_reads {r : Recording} {answer : r.demand.Answer} (stored : r.Stored answer) (latest : Rule) :
    ¬r.Reads answer latest := by
  obtain ⟨id,execution,outcome,attempt,stage⟩ := r
  cases stage with
  | reading => exact stored.elim
  | pausing span => exact stored.elim
  | writing given => exact fun reads => reads

end Recording

/-! ## Attempts write what they read -/

/-- The record of a recording is in the ledger of its rule. -/
def Archive.Holds (a : Archive) (r : Recording) : Prop :=
  ∃ current, a.current? r.rule = some current ∧ current.hasExecuted r.execution.object r.execution.event = true

theorem Archive.Holds.put {a : Archive} {r : Recording} (holds : a.Holds r) {old new : Rule}
    (present : a.current? new.id = some old) (grows : old.Grows new) : (a.put new).Holds r := by
  obtain ⟨current,found,executed⟩ := holds
  by_cases same : new.id = r.rule
  · rw [← same,present] at found
    cases found
    exact ⟨new,by rw [← same]; exact a.current?_put_self new,grows.hasExecuted executed⟩
  · exact ⟨current,(a.current?_put_of_ne same).trans found,executed⟩

/-- What a recording writes is what it was told in the same attempt, extended. -/
structure ActiveRecording.Sound (id : RuleId) (history : List Filing) (archive : Archive) (p : ActiveRecording) :
    Prop where
  rule : p.recording.rule = id
  told : ∀ answer ∈ p.answer?, ∀ latest, p.recording.Reads answer latest →
    latest ∈ archive.versions ∧ .read p.recording latest ∈ history
  writes : ∀ given, p.recording.stage = .writing given → ∃ latest now, latest ∈ archive.versions ∧
    .read p.recording.reread latest ∈ history ∧ given = p.recording.extended latest now
  stored : ∀ answer ∈ p.answer?, p.recording.Stored answer → archive.Holds p.recording

/-- One rule is stored, under its name. Recordings write what they read, and what they were told to be stored is. -/
structure Contest.Sound (id : RuleId) (history : List Filing) (c : Contest) : Prop where
  orderly : c.archive.Orderly
  single : ∀ rule ∈ c.archive.versions, rule.id = id
  active : ∀ p ∈ c.active, p.Sound id history c.archive
  returned : ∀ r, .returned r (.ok ()) ∈ history → r.rule = id ∧ c.archive.Holds r

/-- What a recording has stored: the rule as it was told in the same attempt, and as it still was, with the record in
its status. -/
structure Recording.Files (r : Recording) (history : List Filing) (archive : Archive) (before after : Rule) :
    Prop where
  current : archive.current? r.rule = some before
  read : .read r.reread before ∈ history
  restated : after = before.restated after.status? after.metadata.version?
  appends : before.Appends after r.execution.object r.execution.event

namespace ActiveRecording.Sound

variable {id : RuleId} {history : List Filing} {archive archive' : Archive} {r r' : Recording}
  {answer : r.demand.Answer}

theorem grow {p : ActiveRecording} (sound : p.Sound id history archive)
    (new : List Filing) (more : ∀ rule ∈ archive.versions, rule ∈ archive'.versions)
    (kept : ∀ r, archive.Holds r → archive'.Holds r) : p.Sound id (new ++ history) archive' := by
  refine ⟨sound.rule,?_,?_,?_⟩
  · intro answer held latest reads
    obtain ⟨member,read⟩ := sound.told answer held latest reads
    exact ⟨more _ member,List.mem_append_right _ read⟩
  · intro given writing
    obtain ⟨latest,now,member,read,extended⟩ := sound.writes given writing
    exact ⟨latest,now,more _ member,List.mem_append_right _ read,extended⟩
  · exact fun answer held stored => kept _ (sound.stored answer held stored)

theorem begun (execution : Execution) (outcome : RuleStatus.Outcome) :
    ActiveRecording.Sound id history archive ⟨{ rule := id, execution, outcome },none⟩ := by
  refine ⟨rfl,?_,?_,?_⟩
  · intro answer held
    cases held
  · intro given writing
    cases writing
  · intro answer held
    cases held

theorem read (sound : ActiveRecording.Sound id history archive ⟨r,none⟩) {latest : Rule}
    (reads : r.Reads answer latest) (known : latest ∈ archive.versions) (filed : .read r latest ∈ history) :
    ActiveRecording.Sound id history archive ⟨r,some answer⟩ := by
  refine ⟨sound.rule,?_,sound.writes,?_⟩
  · intro told held other again
    cases held
    obtain rfl : latest = other := Recording.Reads.unique reads again
    exact ⟨known,filed⟩
  · intro told held stored
    cases held
    exact absurd reads (stored.not_reads latest)

theorem goOn (sound : ActiveRecording.Sound id history archive ⟨r,some answer⟩) {settings : EngineSettings}
    {now : Moment} (went : r.resume settings now answer = .waiting r') :
    ActiveRecording.Sound id history archive ⟨r',none⟩ := by
  have goes := Recording.resume_waiting went
  refine ⟨goes.rule.trans sound.rule,?_,?_,?_⟩
  · intro told held
    cases held
  · intro given writing
    obtain ⟨latest,reads,extended⟩ := goes.writes given writing
    obtain ⟨member,filed⟩ := sound.told answer rfl latest reads
    refine ⟨latest,now.wall,member,?_,extended⟩
    rw [Recording.reread_of_resume went writing]
    exact filed
  · intro told held
    cases held

/-- A store takes what a recording writes only over the state that the recording was told. -/
theorem files (sound : ActiveRecording.Sound id history archive ⟨r,none⟩) (orderly : archive.Orderly)
    (single : ∀ rule ∈ archive.versions, rule.id = id) {rule : Rule}
    (served : archive.Serves (some rule) r.demand answer) : ∃ before, r.Files history archive before rule := by
  obtain ⟨given,asks,lands⟩ := served.lands rfl
  obtain ⟨latest,now,known,read,extended⟩ := sound.writes given (Recording.writing_of_update asks)
  obtain ⟨stored,present,version,restated,_⟩ := lands
  have name : given.id = id := by
    rw [extended]
    exact single latest known
  -- the stored rule is in the version of the one that was told, so it is that one
  have unchanged : latest = stored := by
    have member := Archive.mem_versions_of_current? present
    refine orderly.versioned stored member latest known ?_ ?_
    · rw [single latest known,single stored member]
    · rw [version,extended]
      rfl
  subst unchanged
  have status : rule.status? = given.status? := by
    rw [restated]
    rfl
  refine ⟨latest,?_,read,?_,(r.extended_appends latest now).restate (by rw [status,extended])⟩
  · rw [sound.rule,← name]
    exact present
  · rw [status]
    exact restated

theorem serve (sound : ActiveRecording.Sound id history archive ⟨r,none⟩) (unread : ∀ latest, ¬r.Reads answer latest)
    (holds : r.Stored answer → archive.Holds r) :
    ActiveRecording.Sound id history archive ⟨r,some answer⟩ := by
  refine ⟨sound.rule,?_,sound.writes,?_⟩
  · intro told held latest reads
    cases held
    exact absurd reads (unread latest)
  · intro told held stored
    cases held
    exact holds stored

end ActiveRecording.Sound

theorem Recording.Files.grow {r : Recording} {history new : List Filing} {archive : Archive} {before after : Rule}
    (files : r.Files history archive before after) : r.Files (new ++ history) archive before after :=
  { files with read := List.mem_append_right _ files.read }

/-- The name of what a recording has stored. -/
theorem Recording.Files.id {r : Recording} {history : List Filing} {archive : Archive} {before after : Rule}
    (files : r.Files history archive before after) (orderly : archive.Orderly) : after.id = r.rule := by
  rw [files.restated,Rule.restated_id]
  exact orderly.id_of_current? files.current

namespace Contest

theorem Sound.start (first : Rule) : Sound first.id [] { archive := ({} : Archive).put first } := by
  refine ⟨?_,?_,fun p member => (List.not_mem_nil member).elim,fun r member => (List.not_mem_nil member).elim⟩
  · exact Archive.orderly_empty.put (fun old member => by cases member) fun old member => by cases member
  · intro rule member
    cases List.mem_singleton.mp (show rule ∈ [first] from member)
    rfl

variable {settings : EngineSettings} {id : RuleId} {history : List Filing} {c c' : Contest}

/-- What is filed besides the end of a recording changes nothing. -/
theorem Sound.file (sound : c.Sound id history) (new : List Filing) (filed : ∀ r result, .returned r result ∉ new) :
    c.Sound id (new ++ history) := by
  refine ⟨sound.orderly,sound.single,?_,?_⟩
  · exact fun p member => (sound.active p member).grow new (fun _ inside => inside) fun _ holds => holds
  · intro r member
    rcases List.mem_append.mp member with now | before
    · exact absurd now (filed r _)
    · exact sound.returned r before

/-- Whoever stores the rule only makes its ledger longer. -/
theorem Sound.put (sound : c.Sound id history) {old rule : Rule} (present : c.archive.current? id = some old)
    (named : rule.id = id) (grows : old.Grows rule) (orderly : (c.archive.put rule).Orderly) :
    (⟨c.active,c.archive.put rule⟩ : Contest).Sound id history := by
  have kept : ∀ r, c.archive.Holds r → (c.archive.put rule).Holds r :=
    fun r holds => holds.put (by rw [named]; exact present) grows
  refine ⟨orderly,?_,?_,?_⟩
  · intro other member
    rw [Archive.versions_put] at member
    rcases List.mem_cons.mp member with rfl | member
    · exact named
    · exact sound.single other member
  · exact fun p member => (sound.active p member).grow [] (fun _ inside => by simp [inside]) kept
  · intro r member
    obtain ⟨rule,holds⟩ := sound.returned r member
    exact ⟨rule,kept r holds⟩

/-- One recording goes on, and the others wait. -/
theorem Sound.turn {before after : List ActiveRecording} {archive : Archive} {p p' : ActiveRecording}
    (sound : (⟨before ++ p :: after,archive⟩ : Contest).Sound id history) (own : p'.Sound id history archive) :
    (⟨before ++ p' :: after,archive⟩ : Contest).Sound id history :=
  ⟨sound.orderly,sound.single,forall_middle.mpr ⟨own,(forall_middle.mp sound.active).2⟩,sound.returned⟩

theorem Sound.step {new : List Filing} (sound : c.Sound id history) (step : Step settings id c new c') :
    c'.Sound id (new ++ history) := by
  obtain ⟨active,archive⟩ := c
  cases step with
  | begin execution outcome =>
    refine ⟨sound.orderly,sound.single,?_,sound.returned⟩
    intro p member
    rcases List.mem_cons.mp member with rfl | member
    · exact .begun execution outcome
    · exact sound.active p member
  | @read before after r answer latest place reads known =>
    cases place
    have told := sound.file [.read r latest] (by simp)
    exact told.turn ((told.active ⟨r,none⟩ (by simp)).read reads known (.head _))
  | @serve before after r answer stored? place unread served =>
    cases place
    have own := sound.active ⟨r,none⟩ (by simp)
    cases stored? with
    | none =>
      refine sound.turn (own.serve unread fun stored => ?_)
      obtain ⟨rule,same⟩ := stored.stored served
      cases same
    | some rule =>
      obtain ⟨before,files⟩ := own.files sound.orderly sound.single served
      have named := files.id sound.orderly
      have present : archive.current? id = some before := by
        rw [← own.rule]
        exact files.current
      have put := sound.put present (named.trans own.rule) files.appends.grows (sound.orderly.serves served)
      have told := put.file [.stored r archive rule] (by simp)
      refine told.turn ((told.active ⟨r,none⟩ (by simp)).serve unread fun _ => ?_)
      exact ⟨rule,by rw [← named]; exact archive.current?_put_self rule,files.appends.hasExecuted⟩
  | @goOn before after r r' answer now place went =>
    cases place
    exact sound.turn ((sound.active ⟨r,some answer⟩ (by simp)).goOn went)
  | @finish before after r answer now result place went =>
    cases place
    have own := sound.active ⟨r,some answer⟩ (by simp)
    refine ⟨sound.orderly,sound.single,?_,?_⟩
    · intro p member
      exact ((forall_middle.mp sound.active).2 p member).grow _ (fun _ inside => inside) fun _ holds => holds
    · intro other member
      rcases List.mem_cons.mp member with now | earlier
      · cases now
        exact ⟨own.rule,own.stored answer rfl (Recording.stored_of_resume went)⟩
      · exact sound.returned other earlier
  | @edit old rule present named same grows admitted =>
    have orderly := sound.orderly.replace (by rw [named]; exact present) same admitted
    exact (sound.put present named grows orderly).file _ (by simp)

theorem Run.sound {first : Rule} (run : Run settings first history c) : c.Sound first.id history := by
  induction run with
  | start => exact .start first
  | step _ step ih => exact ih.step step

/-- Whatever a recording has stored is what it was told in the same attempt, with its record. -/
theorem Run.files {first : Rule} (run : Run settings first history c) {r : Recording} {archive : Archive}
    {after : Rule} (member : .stored r archive after ∈ history) :
    r.rule = first.id ∧ ∃ before, r.Files history archive before after := by
  induction run with
  | start => cases member
  | @step history new c _ run step ih =>
    rcases List.mem_append.mp member with now | earlier
    · cases step with
      | @serve before after' r' answer stored? place unread served =>
        obtain ⟨rule,same,filed⟩ := List.mem_map.mp now
        cases filed
        obtain rfl : stored? = some after := by simpa using same
        have own := run.sound.active ⟨r,none⟩ (by simp [place])
        obtain ⟨old,files⟩ := own.files run.sound.orderly run.sound.single served
        exact ⟨own.rule,old,files.grow⟩
      | begin => cases now
      | read => cases List.mem_singleton.mp now
      | goOn => cases now
      | finish => cases List.mem_singleton.mp now
      | edit => cases List.mem_singleton.mp now
    · obtain ⟨named,before,files⟩ := ih earlier
      exact ⟨named,before,files.grow⟩

/-! ## One state after the other -/

end Contest

/-- The rule as it was before it was stored, and as it was stored. -/
inductive Filing.Writes (id : RuleId) (before after : Rule) : Filing → Prop where
  | stored {r : Recording} {archive : Archive} (current : archive.current? id = some before) :
      Writes id before after (.stored r archive after)
  | edited {archive : Archive} (current : archive.current? id = some before) :
      Writes id before after (.edited archive after)

/-- Every state of a rule is in a relation to all later ones. -/
def Archive.Chain (a : Archive) (id : RuleId) (R : Rule → Rule → Prop) : Prop :=
  a.versions.Pairwise (fun later earlier => R earlier later) ∧
    ∃ current, a.current? id = some current ∧ ∀ rule ∈ a.versions, R rule current

/-- A relation that holds across every write holds between any two states. -/
theorem Archive.Chain.put {a : Archive} {id : RuleId} {R : Rule → Rule → Prop} (chain : a.Chain id R)
    (refl : ∀ rule, R rule rule) (trans : ∀ {x y z}, R x y → R y z → R x z) {old rule : Rule} (named : rule.id = id)
    (present : a.current? id = some old) (related : R old rule) : (a.put rule).Chain id R := by
  obtain ⟨ordered,current,found,latest⟩ := chain
  cases found.symm.trans present
  have all : ∀ state ∈ a.versions, R state rule := fun state member => trans (latest state member) related
  refine ⟨?_,rule,by rw [← named]; exact a.current?_put_self rule,?_⟩
  · rw [versions_put]
    exact ordered.cons all
  · intro state member
    rw [versions_put] at member
    rcases List.mem_cons.mp member with rfl | member
    · exact refl _
    · exact all state member

namespace Contest

theorem Run.chain {settings : EngineSettings} {first : Rule} {history : List Filing} {c : Contest}
    (run : Run settings first history c) {R : Rule → Rule → Prop} (refl : ∀ rule, R rule rule)
    (trans : ∀ {x y z}, R x y → R y z → R x z)
    (related : ∀ entry ∈ history, ∀ before after, entry.Writes first.id before after → R before after) :
    c.archive.Chain first.id R := by
  induction run with
  | start =>
    refine ⟨List.pairwise_singleton _ first,first,({} : Archive).current?_put_self first,?_⟩
    intro rule member
    cases List.mem_singleton.mp (show rule ∈ [first] from member)
    exact refl first
  | @step history new c _ run step ih =>
    have earlier := ih fun entry member => related entry (List.mem_append_right _ member)
    cases step with
    | @serve before after r answer stored? place unread served =>
      cases stored? with
      | none => exact earlier
      | some rule =>
        have own := run.sound.active ⟨r,none⟩ (by simp [place])
        obtain ⟨old,files⟩ := own.files run.sound.orderly run.sound.single served
        have present := files.current
        rw [own.rule] at present
        exact earlier.put refl trans ((files.id run.sound.orderly).trans own.rule) present
          (related _ (.head _) old rule (.stored present))
    | edit present named same grows admitted =>
      exact earlier.put refl trans named present (related _ (.head _) _ _ (.edited present))
    | begin => exact earlier
    | read => exact earlier
    | goOn => exact earlier
    | finish => exact earlier

theorem Run.edited {settings : EngineSettings} {first : Rule} {history : List Filing} {c : Contest}
    (run : Run settings first history c) {archive : Archive} {before after : Rule}
    (member : .edited archive after ∈ history) (current : archive.current? first.id = some before) :
    before.Grows after := by
  induction run with
  | start => cases member
  | step _ step ih =>
    rcases List.mem_append.mp member with now | earlier
    · cases step with
      | @edit old new present named same grows admitted =>
        cases List.mem_singleton.mp now
        cases present.symm.trans current
        exact grows
      | begin => cases now
      | read => cases List.mem_singleton.mp now
      | serve =>
        obtain ⟨_,_,filed⟩ := List.mem_map.mp now
        cases filed
      | goOn => cases now
      | finish => cases List.mem_singleton.mp now
    · exact ih earlier

section
variable {settings : EngineSettings} {first : Rule} {history : List Filing} {r : Recording}
  {rest : List ActiveRecording} {archive : Archive}

theorem Run.reads (run : Run settings first history ⟨⟨r,none⟩ :: rest,archive⟩) (answer : r.demand.Answer)
    {latest : Rule} (reads : r.Reads answer latest) (known : latest ∈ archive.versions) :
    Run settings first (.read r latest :: history) ⟨⟨r,some answer⟩ :: rest,archive⟩ :=
  run.step (@Step.read _ _ _ [] rest r answer latest rfl reads known)

theorem Run.told (run : Run settings first history ⟨⟨r,none⟩ :: rest,archive⟩) (answer : r.demand.Answer)
    (stored? : Option Rule) (unread : ∀ latest, ¬r.Reads answer latest)
    (served : archive.Serves stored? r.demand answer) :
    Run settings first (stored?.toList.map (.stored r archive) ++ history)
      ⟨⟨r,some answer⟩ :: rest,archive.putIfSome stored?⟩ :=
  run.step (@Step.serve _ _ _ [] rest r answer stored? rfl unread served)

theorem Run.goes {answer : r.demand.Answer} (run : Run settings first history ⟨⟨r,some answer⟩ :: rest,archive⟩)
    (now : Moment) {r' : Recording} (went : r.resume settings now answer = .waiting r') :
    Run settings first history ⟨⟨r',none⟩ :: rest,archive⟩ :=
  run.step (@Step.goOn _ _ _ [] rest r r' answer now rfl went)

theorem Run.ends {answer : r.demand.Answer} (run : Run settings first history ⟨⟨r,some answer⟩ :: rest,archive⟩)
    (now : Moment) {result : Except Fault Unit} (went : r.resume settings now answer = .finished result) :
    Run settings first (.returned r result :: history) ⟨rest,archive⟩ :=
  run.step (@Step.finish _ _ _ [] rest r answer now result rfl went)

end

end Contest
/-- A version that no state of any rule has. -/
theorem Archive.admits_of_new {a : Archive} {rule : Rule}
    (new : ∀ old ∈ a.versions, old.metadata.version? ≠ rule.metadata.version?) : a.Admits rule :=
  fun old member _ version => absurd version (new old member)

namespace Sample

/-- The recording of an event. -/
def recording : Recording where
  rule := onceRule.id
  execution := ⟨event.object.identity, event.kind, moment.wall⟩
  outcome := .ok ()

/-- A rule with the record of the event, as a recording makes it. -/
def filed (rule : Rule) (version : String) : Rule :=
  rule.restated (recording.extended rule moment.wall).status? (some version)

end Sample
end Callout
