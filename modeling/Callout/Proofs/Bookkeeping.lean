import Callout.Proofs.AtMostOnce

/-!
Claims are balanced. At every moment each claim is held for exactly one reason: a dispatch under way has it, or the
actions of an earlier one ran and its recording ended with a fault (`Balance`). A dispatch that ends gives up its own
claim or leaves it for the second reason, whatever it was answered (`Dispatch.Closes`), so once no dispatch is under
way the claims are the runs that are not recorded (`Run.claims_balance`).
-/
namespace Callout

/-! ## How recordings end -/

/-- What a recording ends with when it takes an answer, unless it goes on. The moment does not matter
(`Recording.resume_finished_iff`). -/
def Recording.result? (settings : EngineSettings) (r : Recording) (answer : r.demand.Answer) :
    Option (Except Fault Unit) :=
  match r.resume settings default answer with
  | .finished result => some result
  | .waiting _ => none

theorem Recording.resume_finished_iff {settings : EngineSettings} {now : Moment} {r : Recording}
    {answer : r.demand.Answer} {result : Except Fault Unit} :
    r.resume settings now answer = .finished result ↔ r.result? settings answer = some result := by
  obtain ⟨id,execution,outcome,attempt,stage⟩ := r
  cases stage with
  | reading =>
    change Except Fault Rule at answer
    cases answer <;> simp [result?,resume,afterReading]
  | writing given =>
    change Except Fault Unit at answer
    change afterWriting settings _ answer = _ ↔
      (match afterWriting settings ⟨id,execution,outcome,attempt,.writing given⟩ answer with
        | .finished result => some result
        | .waiting _ => none) = some result
    cases afterWriting settings ⟨id,execution,outcome,attempt,.writing given⟩ answer <;> simp
  | pausing span => simp [result?,resume]

namespace Dispatch

/-- What the recording of a dispatch ends with, if it records and its recording ends. -/
def result? (settings : EngineSettings) : (d : Dispatch) → d.demand.Answer → Option (Except Fault Unit)
  | ⟨_, _, .recording recording⟩, answer => recording.result? settings answer
  | ⟨_, _, .confirming⟩, _ | ⟨_, _, .reading _ _ _ _ _⟩, _ | ⟨_, _, .running _ _⟩, _ => none

/-- Whether a dispatch ends, with an answer, in a way that leaves nothing to tell: its actions do not begin, or the
record is stored. -/
def GivesUp (settings : EngineSettings) (d : Dispatch) (answer : d.demand.Answer) : Prop :=
  ¬d.HasBegun ∧ ¬d.LetsBegin answer ∨ d.result? settings answer = some (.ok ())

/-- What an ending dispatch leaves of the claims. -/
inductive Closes (settings : EngineSettings) (d : Dispatch) (answer : d.demand.Answer) (claims : List ClaimKey) :
    List ClaimKey → Prop where
  | unbegun (confirming : ¬d.HasBegun) (refused : ¬d.LetsBegin answer)
      (silent : d.result? settings answer = none) :
      Closes settings d answer claims (claims.filter (· ≠ d.claim))
  | recorded (begun : d.HasBegun) (told : d.result? settings answer = some (.ok ())) :
      Closes settings d answer claims (claims.filter (· ≠ d.claim))
  | unrecorded (begun : d.HasBegun) (fault : Fault) (told : d.result? settings answer = some (.error fault)) :
      Closes settings d answer claims claims

theorem resume_closes {settings : EngineSettings} {now : Moment} {registry registry' : Registry} {d : Dispatch}
    {answer : d.demand.Answer} {result : Except Fault Unit}
    (went : d.resume settings now registry answer = (registry',.finished result)) :
    d.Closes settings answer registry.claims registry'.claims := by
  have refused := not_letsBegin_of_finished went
  have advances := d.resume_advances settings now registry answer
  rw [went] at advances
  cases advances with
  | executed | unconfirmed => exact .unbegun (fun no => no) refused rfl
  | recorded step => exact .recorded trivial (Recording.resume_finished_iff.mp step)
  | unrecorded step => exact .unrecorded trivial _ (Recording.resume_finished_iff.mp step)

/-- A dispatch that goes on has not ended its recording. -/
theorem result?_of_waiting {settings : EngineSettings} {now : Moment} {registry registry' : Registry}
    {d d' : Dispatch} {answer : d.demand.Answer}
    (went : d.resume settings now registry answer = (registry',.waiting d')) : d.result? settings answer = none := by
  have advances := d.resume_advances settings now registry answer
  rw [went] at advances
  cases advances with
  | begins | read | ran => rfl
  | records step =>
    refine Option.eq_none_iff_forall_ne_some.mpr fun result told => ?_
    cases step.symm.trans (Recording.resume_finished_iff.mpr told)

end Dispatch

/-- How the recording of a run of actions ended. -/
structure Closing where
  claim : ClaimKey
  result : Except Fault Unit

/-- The recording that a dispatch ends when it takes its answer. -/
def ActiveDispatch.closings (settings : EngineSettings) : ActiveDispatch → List Closing
  | ⟨dispatch, some answer⟩ => (dispatch.result? settings answer).toList.map (Closing.mk dispatch.claim)
  | ⟨_, none⟩ => []

/-- The recordings that ended at a step. -/
def Happening.closings (settings : EngineSettings) : Happening → List Closing
  | .resumed _ activity answer _ =>
    (Pending.dispatch? ⟨activity, some answer⟩).toList.flatMap (ActiveDispatch.closings settings)
  | .requested _ | .served _ _ _ _ | .stopped _ _ | .shutDown | .changed | .restarted => []

/-- The recordings that ended in the process that runs, latest first. -/
def closings (settings : EngineSettings) : List Happening → List Closing
  | .restarted :: _ | [] => []
  | happening :: rest => happening.closings settings ++ closings settings rest

/-- The claims of the runs whose recording ended with a fault. -/
def unrecorded (closings : List Closing) : List ClaimKey :=
  closings.filterMap fun closing =>
    match closing.result with
    | .error _ => some closing.claim
    | .ok _ => none

theorem mem_unrecorded {closings : List Closing} {key : ClaimKey} :
    key ∈ unrecorded closings ↔ ∃ fault, ⟨key,.error fault⟩ ∈ closings := by
  simp only [unrecorded,List.mem_filterMap]
  constructor
  · rintro ⟨⟨claim,result⟩,member,same⟩
    cases result with
    | ok _ => cases same
    | error fault =>
      cases same
      exact ⟨fault,member⟩
  · rintro ⟨fault,member⟩
    exact ⟨_,member,rfl⟩

/-! ## The balance -/

/-- The claims of the dispatches whose actions began. -/
def running (active : List Dispatch) : List ClaimKey := (active.filter (·.HasBegun)).map Dispatch.claim

theorem running_of_begun {d : Dispatch} (begun : d.HasBegun) (rest : List Dispatch) :
    running (d :: rest) = d.claim :: running rest := by
  simp [running,begun]

theorem running_of_unbegun {d : Dispatch} (unbegun : ¬d.HasBegun) (rest : List Dispatch) :
    running (d :: rest) = running rest := by
  simp [running,unbegun]

/-- The claims are those of the dispatches under way and of the runs that were not recorded, and each run that began
is under way or has ended its recording once. -/
structure Balance (claims : List ClaimKey) (active : List Dispatch) (closings : List Closing) (deeds : List Deed) :
    Prop where
  distinct : claims.Nodup
  held : (active.map Dispatch.claim ++ unrecorded closings).Perm claims
  ran : (running active ++ closings.map (·.claim)).Perm (begun deeds)

namespace Balance

variable {settings : EngineSettings} {now : Moment} {registry registry' : Registry} {claims : List ClaimKey}
  {active active' rest : List Dispatch} {ended : List Closing} {done : List Deed}

theorem reorder (balance : Balance claims active ended done) (order : active.Perm active') :
    Balance claims active' ended done := by
  refine ⟨balance.distinct,?_,?_⟩
  · exact ((order.symm.map _).append_right _).trans balance.held
  · exact (((order.symm.filter _).map _).append_right _).trans balance.ran

/-- What is left when one of several different claims is given up. -/
theorem perm_of_given_up {key : ClaimKey} {rest : List ClaimKey} (distinct : claims.Nodup)
    (held : (key :: rest).Perm claims) : rest.Perm (claims.filter (· ≠ key)) := by
  have fresh : key ∉ rest := (List.nodup_cons.mp (held.nodup_iff.mpr distinct)).1
  have kept : (key :: rest).filter (· ≠ key) = rest := by
    rw [List.filter_cons_of_neg (by simp),List.filter_eq_self]
    intro other member
    refine decide_eq_true fun same => fresh ?_
    rwa [← same]
  rw [← kept]
  exact held.filter _

theorem start {rule : Rule} {event : Event} {d : Dispatch} (balance : Balance registry.claims rest ended done)
    (started : Dispatch.start registry rule event = (registry',.waiting d)) :
    Balance registry'.claims (d :: rest) ended done := by
  obtain ⟨rfl,free,more⟩ := Dispatch.start_waiting started
  rw [more]
  refine ⟨?_,?_,balance.ran⟩
  · refine List.nodup_append.mpr ⟨balance.distinct,by simp,?_⟩
    rintro key member _ (_ | ⟨_,⟨⟩⟩) rfl
    exact free member
  · exact (balance.held.cons _).trans (List.perm_append_singleton _ _).symm

theorem goOn {d d' : Dispatch} {answer : d.demand.Answer} (balance : Balance registry.claims (d :: rest) ended done)
    (went : d.resume settings now registry answer = (registry',.waiting d')) :
    Balance registry'.claims (d' :: rest) (ActiveDispatch.closings settings ⟨d,some answer⟩ ++ ended)
      (deedsBetween (some ⟨d,some answer⟩) (some ⟨d',none⟩) ++ done) := by
  obtain ⟨rfl,goes⟩ := Dispatch.resume_waiting went
  have claim : d'.claim = d.claim := by simp only [Dispatch.claim,goes.rule,goes.event]
  have silent : ActiveDispatch.closings settings ⟨d,some answer⟩ = [] := by
    simp [ActiveDispatch.closings,Dispatch.result?_of_waiting went]
  have ran := balance.ran
  rw [silent]
  refine ⟨balance.distinct,by simpa [claim] using balance.held,?_⟩
  rw [running_of_begun goes.begun,claim]
  by_cases before : d.HasBegun
  · rw [running_of_begun before] at ran
    rw [deedsBetween_of_begun before]
    exact ran
  · -- the run begins only now
    rw [running_of_unbegun before] at ran
    rw [deedsBetween_of_unbegun before goes.begun,← claim]
    exact ran.cons d'.claim

theorem finish {d : Dispatch} {answer : d.demand.Answer} {result : Except Fault Unit}
    (balance : Balance registry.claims (d :: rest) ended done)
    (went : d.resume settings now registry answer = (registry',.finished result)) :
    Balance registry'.claims rest (ActiveDispatch.closings settings ⟨d,some answer⟩ ++ ended) done := by
  have held : (d.claim :: (rest.map Dispatch.claim ++ unrecorded ended)).Perm registry.claims := balance.held
  have ran := balance.ran
  have closes := Dispatch.resume_closes went
  generalize registry'.claims = claims' at closes ⊢
  cases closes with
  | unbegun confirming refused silent =>
    rw [running_of_unbegun confirming] at ran
    simp only [ActiveDispatch.closings,silent]
    exact ⟨balance.distinct.filter _,perm_of_given_up balance.distinct held,ran⟩
  | recorded began told =>
    rw [running_of_begun began] at ran
    simp only [ActiveDispatch.closings,told]
    exact ⟨balance.distinct.filter _,perm_of_given_up balance.distinct held,List.perm_middle.trans ran⟩
  | unrecorded began fault told =>
    -- the claim is held for the run from now on, no longer for the dispatch
    rw [running_of_begun began] at ran
    simp only [ActiveDispatch.closings,told]
    exact ⟨balance.distinct,List.perm_middle.trans held,List.perm_middle.trans ran⟩

/-- A turn of an activity keeps the balance. -/
theorem turn {rules : List Rule} {dispatch? next? : Option ActiveDispatch}
    (balance : Balance registry.claims ((dispatch?.map (·.dispatch)).toList ++ rest) ended done)
    (turn : Turn settings now rules registry dispatch? registry' next?) :
    Balance registry'.claims ((next?.map (·.dispatch)).toList ++ rest)
      (dispatch?.toList.flatMap (ActiveDispatch.closings settings) ++ ended)
      (deedsBetween dispatch? next? ++ done) := by
  induction turn generalizing ended done with
  | idle claims =>
    rw [claims]
    exact balance
  | start claims member started =>
    have turn : Turn settings now rules _ none _ _ := .start claims member started
    rw [← claims] at balance
    rw [turn.deeds_of_none none]
    exact balance.start started
  | goOn went => simpa using balance.goOn went
  | @finish _ _ _ d answer _ _ went next ih =>
    rw [next.deeds_of_none (some ⟨d,some answer⟩),← next.deeds_of_none none]
    simpa using ih (balance.finish went)

end Balance

/-- A turn drops no claim but the one of its dispatch, which ends and leaves nothing to tell. -/
theorem Turn.drops {settings : EngineSettings} {now : Moment} {rules : List Rule} {registry registry' : Registry}
    {dispatch? next? : Option ActiveDispatch} (turn : Turn settings now rules registry dispatch? registry' next?)
    {key : ClaimKey} (held : key ∈ registry.claims) (dropped : key ∉ registry'.claims) :
    ∃ d answer, dispatch? = some ⟨d,some answer⟩ ∧ d.claim = key ∧ d.GivesUp settings answer := by
  induction turn with
  | idle claims => exact (dropped (by rwa [claims])).elim
  | start claims _ started =>
    obtain ⟨_,_,more⟩ := Dispatch.start_waiting started
    exact (dropped (by rw [more,claims]; exact List.mem_append_left _ held)).elim
  | goOn went =>
    obtain ⟨rfl,_⟩ := Dispatch.resume_waiting went
    exact (dropped held).elim
  | @finish registry between registry' d answer result next? went _ ih =>
    by_cases kept : key ∈ between.claims
    · obtain ⟨_,_,none,_⟩ := ih kept dropped
      cases none
    · have own : d.claim = key := Decidable.byContradiction fun other =>
        kept ((Dispatch.resume_finished went).others held (Ne.symm other))
      refine ⟨d,answer,rfl,own,?_⟩
      have closes := Dispatch.resume_closes went
      generalize between.claims = claims at closes kept
      cases closes with
      | unbegun confirming refused _ => exact .inl ⟨confirming,refused⟩
      | recorded _ told => exact .inr told
      | unrecorded _ _ _ => exact (kept held).elim

/-- Nothing begins when a demand is met. -/
theorem begun_served (archive : Archive) (activity : Activity) (answer : activity.demand.Answer)
    (stored? : Option Rule) (done : List Deed) :
    begun ((Happening.served archive activity answer stored?).deeds ++ done) = begun done := by
  simp only [Happening.deeds]
  cases Pending.dispatch? ⟨activity,none⟩ with
  | none => rfl
  | some active => cases stored? <;> rfl

theorem Registry.stopWatching_claims (r : Registry) (type : ResourceType) :
    (r.stopWatching type).1.claims = r.claims := by
  unfold stopWatching removeSession
  cases r.session? type <;> rfl

/-- The dispatches under way. -/
def World.dispatches (w : World) : List Dispatch := w.desk.active.map (·.dispatch)

theorem Run.balance {settings : EngineSettings} {history : List Happening} {w : World}
    (run : Run settings history w) :
    Balance w.registry.claims w.dispatches (closings settings history) (deeds history) := by
  induction run with
  | start => exact ⟨List.nodup_nil,.nil,.nil⟩
  | @step history w w' happening run step ih =>
    cases step with
    | request activity asked =>
      obtain ⟨none,_⟩ := activity.fresh_of_isRequest asked
      have same : World.dispatches { w with pending := ⟨activity,.none⟩ :: w.pending } = w.dispatches := by
        simp [World.dispatches,World.desk,none]
      rw [same]
      exact ih
    | @serve before after activity place answer stored? served =>
      have same : World.dispatches
          ⟨w.registry,before ++ ⟨activity,some answer⟩ :: after,w.archive.putIfSome stored?⟩ = w.dispatches := by
        simp only [World.dispatches,World.desk,place,List.filterMap_append,List.filterMap_cons]
        rcases Pending.serve_cases served with ⟨d,given,asking,told,_⟩ | ⟨asking,told,_⟩
        · simp [asking,told]
        · simp [asking,told]
      refine ⟨ih.distinct,by rw [same]; exact ih.held,?_⟩
      rw [same,deeds,List.flatMap_cons,begun_served]
      exact ih.ran
    | @resume before after p answer o now place taken went =>
      subst went
      have turn := (p.activity.resume_turns settings now w.registry answer).turn
      obtain ⟨same,_⟩ := taken.rules
      rw [same] at turn
      -- the order of the dispatches does not matter, so the one that takes its answer may stand in front
      have front : w.dispatches.Perm ((p.dispatch?.map (·.dispatch)).toList ++
          ((before ++ after).filterMap Pending.dispatch?).map (·.dispatch)) := by
        simp only [World.dispatches,World.desk,place]
        refine ((List.perm_middle.filterMap _).map _).trans ?_
        cases waits : p.dispatch? <;> simp [waits]
      have turned := (ih.reorder front).turn turn
      simp only [closings,Happening.closings,deeds,List.flatMap_cons,Happening.deeds,same]
      refine turned.reorder ?_
      simp only [World.dispatches,World.desk,List.filterMap_append,Activity.Outcome.dispatches_pending,List.map_append,
        List.append_assoc]
      refine (List.perm_append_comm_assoc _ _ _).trans ?_
      cases (p.activity.resume settings now w.registry answer).delivery?.bind ActiveDelivery.dispatch? <;> simp
    | stop type =>
      rw [← Registry.stopWatching_claims w.registry type] at ih
      exact ih
    | shutDown => exact ih
    | change changed => exact ih
    | restart => exact ⟨List.nodup_nil,.nil,.nil⟩

/-- The dispatch that takes its answer at a step. -/
def Happening.dispatch? : Happening → Option ActiveDispatch
  | .resumed _ activity answer _ => Pending.dispatch? ⟨activity, some answer⟩
  | .requested _ | .served _ _ _ _ | .stopped _ _ | .shutDown | .changed | .restarted => none

/-- While the process runs, a claim is dropped by its own dispatch only, which leaves nothing to tell. -/
theorem Step.drops {settings : EngineSettings} {w w' : World} {happening : Happening}
    (step : Step settings w happening w') (lasting : happening ≠ .restarted) {key : ClaimKey}
    (held : key ∈ w.registry.claims) (dropped : key ∉ w'.registry.claims) :
    ∃ d answer, happening.dispatch? = some ⟨d,some answer⟩ ∧ d.claim = key ∧ d.GivesUp settings answer := by
  cases step with
  | request activity asked => exact (dropped held).elim
  | serve before place answer stored? served => exact (dropped held).elim
  | @resume before after p answer o now place taken went =>
    subst went
    exact (p.activity.resume_turns settings now w.registry answer).turn.drops held dropped
  | stop type =>
    rw [Registry.stopWatching_claims] at dropped
    exact (dropped held).elim
  | shutDown => exact (dropped held).elim
  | change changed => exact (dropped held).elim
  | restart => exact (lasting rfl).elim

/-- Claims are balanced in every run, whichever faults the stores and the executors answer with. Each claim is held
once, by a dispatch under way or for a run that was not recorded; each run of actions that began in the process is
under way or ended its recording once. So when no dispatch is under way, what is claimed are the runs whose recording
ended with a fault. A claim is dropped by its own dispatch only, when it does not begin or its record is stored. -/
theorem Run.claims_balance {settings : EngineSettings} {history : List Happening} {w : World}
    (run : Run settings history w) :
    w.registry.claims.Nodup ∧
      (w.dispatches.map Dispatch.claim ++ unrecorded (closings settings history)).Perm w.registry.claims ∧
      (running w.dispatches ++ (closings settings history).map (·.claim)).Perm (begun (deeds history)) ∧
      (w.dispatches = [] → ∀ key, key ∈ w.registry.claims ↔
        key ∈ begun (deeds history) ∧ ∃ fault, ⟨key,.error fault⟩ ∈ closings settings history) ∧
      ∀ happening w', Step settings w happening w' → happening ≠ .restarted →
        ∀ key ∈ w.registry.claims, key ∉ w'.registry.claims →
          ∃ d answer, happening.dispatch? = some ⟨d,some answer⟩ ∧ d.claim = key ∧ d.GivesUp settings answer := by
  have balance := run.balance
  refine ⟨balance.distinct,balance.held,balance.ran,?_,?_⟩
  · intro quiet key
    have held := balance.held
    have ran := balance.ran
    simp only [quiet,List.map_nil,List.nil_append,running,List.filter_nil] at held ran
    rw [← held.mem_iff,mem_unrecorded]
    constructor
    · rintro ⟨fault,member⟩
      exact ⟨ran.mem_iff.mp (List.mem_map.mpr ⟨_,member,rfl⟩),fault,member⟩
    · exact And.right
  · exact fun happening w' step lasting key held dropped => step.drops lasting held dropped

namespace Sample

/-- The action ran, but its rule could not be read to record that. The claim stays, and when the event is delivered
again the dispatch of it ends at once. -/
theorem claims_balance_of_lost_record : ∃ history w, Run {} history w ∧ w.dispatches = [] ∧
    w.registry.claims = [⟨"uid-1","uid-a",.create⟩] ∧
    ∀ key, key ∈ w.registry.claims ↔
      key ∈ begun (deeds history) ∧ ∃ fault, ⟨key,.error fault⟩ ∈ closings {} history := by
  have listed : ∀ rule ∈ [onceRule], rule ∈ [onceRule] := fun _ member => member
  have run := (Run.start : Run {} [] {}).step (.change (created onceRule))
  replace run := run.step (.request (.delivery (.listing event)) trivial)
  replace run := (run.told (Except.ok [onceRule]) ⟨rfl,listed⟩).goes moment rfl
  replace run := (run.told (Except.ok onceRule) ⟨rfl,rfl⟩).goes moment rfl
  replace run := (run.told (Except.ok ()) rfl).goes moment rfl
  replace run := (run.told (Except.error (.store "unreachable")) ⟨rfl,trivial⟩).goes moment rfl
  replace run := run.step (.request (.delivery (.listing event)) trivial)
  replace run := (run.told (Except.ok [onceRule]) ⟨rfl,listed⟩).goes moment rfl
  exact ⟨_,_,run,rfl,rfl,run.claims_balance.2.2.2.1 rfl⟩

end Sample
end Callout
