import Callout.Proofs.Parking

/-!
A reconciler among other activities. As long as no session ends, every type that it observed is watched or parked
whenever it waits for news, and parked exactly when its last trial failed. With every tick, it tries each type that is
parked at that moment once (`Onward.none_forgotten`).
-/
namespace Callout

/-! ## What a reconciler takes and tries -/

namespace Happening

/-- The reconciler that takes a step. -/
def reconciler? : Happening → Option Reconciler
  | .resumed _ (.reconciler r) _ _ => some r
  | _ => none

/-- The news that a reconciler takes. -/
def news? : Happening → Option News
  | .resumed _ (.reconciler ⟨_, .idle _⟩) answer _ => some answer
  | _ => none

/-- The types that a reconciler observes. -/
def observed (happening : Happening) : List ResourceType :=
  match happening.news? with
  | some (.next news) => Reconciler.selected news
  | some .due | some .cancelled | some .ended | none => []

/-- The types that a reconciler is asked to try. -/
def asked : Happening → List ResourceType
  | .resumed _ (.reconciler r) answer _ => r.asked answer
  | _ => []

/-- The trials of a reconciler that end. -/
def tried : Happening → List Trial
  | .resumed registry (.reconciler r) answer _ => r.tried registry answer
  | _ => []

/-- A stop of a type, or the end of the stream of a session. -/
def EndsWatch : Happening → Prop
  | .stopped _ _ => True
  | .resumed _ (.watch run) answer _ => run.Ends answer
  | _ => False

end Happening

/-- What the happenings of a process tell, oldest first. -/
def gathered {α : Type} (told : Happening → List α) (later : List Happening) : List α := later.reverse.flatMap told

@[simp] theorem gathered_nil {α : Type} (told : Happening → List α) : gathered told [] = [] := rfl

@[simp] theorem gathered_cons {α : Type} (told : Happening → List α) (happening : Happening)
    (later : List Happening) : gathered told (happening :: later) = gathered told later ++ told happening := by
  simp [gathered]

@[simp] theorem gathered_append {α : Type} (told : Happening → List α) (newer older : List Happening) :
    gathered told (newer ++ older) = gathered told older ++ gathered told newer := by
  simp [gathered]

/-- The types that reconcilers observed. -/
def typesObserved (later : List Happening) : List ResourceType := gathered Happening.observed later

/-- The trials of reconcilers. -/
def trials (later : List Happening) : List Trial := gathered Happening.tried later

/-! ## Reconcilers among other activities -/

/-- The reconciler that an activity is. -/
def Pending.reconciler? : Pending → Option Reconciler
  | ⟨.reconciler r, _⟩ => some r
  | ⟨.task _, _⟩ | ⟨.watch _, _⟩ | ⟨.delivery _, _⟩ | ⟨.arming _, _⟩ | ⟨.unopened _, _⟩ | ⟨.opening _, _⟩
  | ⟨.reconciling _, _⟩ => none

/-- The reconcilers. -/
def World.reconcilers (w : World) : List Reconciler := w.pending.filterMap Pending.reconciler?

/-- What a step is to the reconcilers: one of them goes on or ends, or others move beside them. -/
inductive Round (settings : EngineSettings) (w w' : World) : Happening → Prop where
  | beside {happening : Happening} (same : w'.reconcilers = w.reconcilers) (others : happening.reconciler? = none) :
      Round settings w w' happening
  | began (r : Reconciler) (begun : w'.reconcilers = r :: w.reconcilers) :
      Round settings w w' (.requested (.reconciler r))
  | goesOn {before after : List Reconciler} {r r' : Reconciler} {answer : r.demand.Answer} {now : Moment}
      {outcome : Activity.Outcome} (place : w.reconcilers = before ++ r :: after)
      (went : (r.resume now w.registry answer).progress = .waiting r')
      (registry : w'.registry = (r.resume now w.registry answer).registry)
      (reconcilers : w'.reconcilers = before ++ r' :: after) :
      Round settings w w' (.resumed w.registry (.reconciler r) answer outcome)
  | ended {before after : List Reconciler} {r : Reconciler} {answer : r.demand.Answer} {now : Moment}
      {outcome : Activity.Outcome} (place : w.reconcilers = before ++ r :: after)
      (went : (r.resume now w.registry answer).progress = .finished ())
      (reconcilers : w'.reconcilers = before ++ after) :
      Round settings w w' (.resumed w.registry (.reconciler r) answer outcome)
  | restarted : Round settings w w' .restarted

theorem Activity.Outcome.reconcilers_pending (o : Activity.Outcome) (now : Moment) :
    (o.pending now).filterMap Pending.reconciler? = o.next.filterMap Pending.reconciler? := by
  simp [o.filterMap_pending,Pending.reconciler?]

/-- What is not a reconciler does not become one. -/
theorem Activity.resume_reconcilers (settings : EngineSettings) (now : Moment) (registry : Registry)
    (activity : Activity) (other : ∀ r, activity ≠ .reconciler r) (answer : activity.demand.Answer) :
    (activity.resume settings now registry answer).next.filterMap Pending.reconciler? = [] := by
  refine List.filterMap_eq_nil_iff.mpr fun p member => ?_
  cases activity with
  | reconciler r => exact (other r rfl).elim
  | arming event =>
    change Except Fault (List Rule) at answer
    cases answer <;> cases member
  | task | watch | delivery | unopened | opening | reconciling =>
    obtain ⟨_,_,rfl⟩ := Activity.Outcome.of_mem_next member
    rfl

/-- Only reconcilers are such. -/
theorem Activity.reconciler_cases (activity : Activity) :
    (∃ r, activity = .reconciler r) ∨
      (∀ r, activity ≠ .reconciler r) ∧ (∀ answer?, Pending.reconciler? ⟨activity,answer?⟩ = none) ∧
        ∀ registry answer outcome, (Happening.resumed registry activity answer outcome).reconciler? = none := by
  cases activity with
  | reconciler r => exact .inl ⟨r,rfl⟩
  | task | watch | delivery | arming | unopened | opening | reconciling =>
    exact .inr ⟨fun _ same => (by cases same),fun _ => rfl,fun _ _ _ => rfl⟩

theorem Step.round {settings : EngineSettings} {w w' : World} {happening : Happening}
    (step : Step settings w happening w') : Round settings w w' happening := by
  cases step with
  | request activity asked =>
    rcases activity.reconciler_cases with ⟨r,rfl⟩ | ⟨_,none,_⟩
    · exact .began r rfl
    · exact .beside (by simp [World.reconcilers,none]) rfl
  | @serve before after activity place answer stored? served =>
    refine .beside ?_ rfl
    have kept : Pending.reconciler? ⟨activity,some answer⟩ = Pending.reconciler? ⟨activity,none⟩ := by
      cases activity <;> rfl
    simp [World.reconcilers,place,List.filterMap_cons,kept]
  | @resume before after p answer o now place taken went =>
    subst went
    obtain ⟨activity,answer?⟩ := p
    rcases activity.reconciler_cases with ⟨r,rfl⟩ | ⟨other,none,others⟩
    · have reconcilers : w.reconcilers =
          before.filterMap Pending.reconciler? ++ r :: after.filterMap Pending.reconciler? := by
        simp [World.reconcilers,place,Pending.reconciler?]
      cases went : (r.resume now w.registry answer).progress with
      | waiting r' =>
        refine .goesOn reconcilers went rfl ?_
        simp [World.reconcilers,Activity.Outcome.reconcilers_pending,Activity.Outcome.next,Activity.resume,went,
          Progress.map,Pending.reconciler?]
      | finished result =>
        refine .ended reconcilers went ?_
        simp [World.reconcilers,Activity.Outcome.reconcilers_pending,Activity.Outcome.next,Activity.resume,went,
          Progress.map]
    · refine .beside ?_ (others _ _ _)
      simp only [World.reconcilers,place,List.filterMap_append,List.filterMap_cons,none,
        Activity.Outcome.reconcilers_pending,
        activity.resume_reconcilers settings now w.registry other answer,List.append_nil]
  | stop type => exact .beside rfl rfl
  | shutDown => exact .beside rfl rfl
  | change changed => exact .beside rfl rfl
  | restart => exact .restarted

/-! ## What stays watched -/

theorem Registry.isWatching_of_sessions {r r' : Registry} (same : r'.sessions = r.sessions) (type : ResourceType) :
    r'.isWatching type = r.isWatching type := by
  rw [isWatching,isWatching,session?,session?,same]

/-- What a step does to the sessions that are registered, when it ends none. -/
theorem Registry.Turnover.sessions_cases {r r' : Registry} {happening : Happening}
    (turnover : r.Turnover happening r') (alive : happening ≠ .restarted) (lasting : ¬happening.EndsWatch) :
    r'.sessions = r.sessions ∨ ∃ type target, r' = r.opened type target ∧ happening.sessions ≠ [] := by
  cases turnover with
  | kept _ _ same => exact .inl same.sessions
  | opened _ type target free begun => exact .inr ⟨type,target,rfl,by simp [begun]⟩
  | ended run answer outcome ends none => exact (lasting ends).elim
  | stopped type => exact (lasting trivial).elim
  | restarted => exact (alive rfl).elim

/-- A type that is watched stays so when no session ends. -/
theorem Step.stays_watched {settings : EngineSettings} {w w' : World} {happening : Happening}
    (step : Step settings w happening w') (alive : happening ≠ .restarted) (lasting : ¬happening.EndsWatch)
    {type : ResourceType} (watched : w.registry.isWatching type = true) : w'.registry.isWatching type = true := by
  rcases step.turnover.sessions_cases alive lasting with same | ⟨opened,target,same,_⟩
  · rw [Registry.isWatching_of_sessions same]
    exact watched
  · rw [same]
    by_cases own : type = opened
    · rw [own]
      exact w.registry.isWatching_opened opened target
    · rw [w.registry.isWatching_opened_of_ne own]
      exact watched

/-! ## What a reconciler keeps -/

/-- What holds of the one reconciler there is, from a time on at which it waited for news with some types parked. -/
structure World.Reconciles (w : World) (parked : Parked) (later : List Happening) : Prop where
  single : w.reconcilers.length ≤ 1
  /-- What it was asked to try is what it tried and has left. -/
  all : ∀ r ∈ w.reconcilers, gathered Happening.asked later = (trials later).map (·.1) ++ r.stage.left
  parked : ∀ r ∈ w.reconcilers, r.stage.parked = parked.after (trials later)
  watched : ∀ trial ∈ trials later, trial.2 = .ok () → w.registry.isWatching trial.1 = true

namespace World.Reconciles
variable {w : World} {parked kept : Parked} {later : List Happening} {r : Reconciler}

/-- A reconciler that waits for news has tried all that it was asked for. -/
theorem done (reconciles : w.Reconciles parked later) (waits : r ∈ w.reconcilers) (idle : r.stage = .idle kept) :
    gathered Happening.asked later = (trials later).map (·.1) ∧ kept = parked.after (trials later) := by
  have all := reconciles.all r waits
  have now := reconciles.parked r waits
  rw [idle] at all now
  exact ⟨all.trans (List.append_nil _),now⟩

/-- A type that was tried went well the last time and is watched since, or it is parked. -/
theorem watched_or_parked (reconciles : w.Reconciles parked later) {type : ResourceType}
    (tried : type ∈ (trials later).map (·.1)) :
    w.registry.isWatching type = true ∨ type ∈ parked.after (trials later) := by
  cases last : lastTrial? (trials later) type with
  | none => exact (lastTrial?_eq_none_iff.mp last tried).elim
  | some result =>
    cases result with
    | ok _ => exact .inl (reconciles.watched _ (mem_of_lastTrial? last) rfl)
    | error fault => exact .inr (Parked.mem_after.mpr (.inl ⟨fault,last⟩))

end World.Reconciles

/-- Only a step of its own tells anything of a reconciler. -/
theorem Happening.silent_of_reconciler? {happening : Happening} (others : happening.reconciler? = none) :
    happening.asked = [] ∧ happening.tried = [] := by
  cases happening with
  | resumed registry activity answer outcome =>
    cases activity with
    | reconciler r => cases others
    | task | watch | delivery | arming | unopened | opening | reconciling => exact ⟨rfl,rfl⟩
  | requested | served | stopped | shutDown | changed | restarted => exact ⟨rfl,rfl⟩

/-- The end of a reconciler asks for nothing and tries nothing. -/
theorem Reconciler.resume_finished {now : Moment} {registry : Registry} {r : Reconciler} {answer : r.demand.Answer}
    {result : Unit} (went : (r.resume now registry answer).progress = .finished result) :
    r.asked answer = [] ∧ r.tried registry answer = [] := by
  obtain ⟨ticker,stage⟩ := r
  cases stage with
  | busy reconciling => cases went
  | idle parked =>
    change News at answer
    change (afterNews _ parked now registry answer).progress = _ at went
    cases answer with
    | cancelled | ended => exact ⟨rfl,rfl⟩
    | due | next => cases went

namespace World.Reconciles
variable {settings : EngineSettings} {w w' : World} {happening : Happening} {parked : Parked} {later : List Happening}

/-- A step that asks for nothing and tries nothing changes nothing about a reconciler. -/
theorem quiet (reconciles : w.Reconciles parked later) (fewer : w'.reconcilers.Sublist w.reconcilers)
    (unasked : happening.asked = []) (untried : happening.tried = [])
    (stays : ∀ type, w.registry.isWatching type = true → w'.registry.isWatching type = true) :
    w'.Reconciles parked (happening :: later) := by
  have told : trials (happening :: later) = trials later := by
    rw [trials,gathered_cons,untried,List.append_nil]
    rfl
  refine ⟨Nat.le_trans fewer.length_le reconciles.single,?_,?_,?_⟩ <;> rw [told]
  · intro r member
    rw [gathered_cons,unasked,List.append_nil]
    exact reconciles.all r (fewer.subset member)
  · exact fun r member => reconciles.parked r (fewer.subset member)
  · exact fun trial member well => stays trial.1 (reconciles.watched trial member well)

/-- A reconciler that goes on tries what it had left and what it is asked for. -/
theorem goesOn (reconciles : w.Reconciles parked later) {r r' : Reconciler} {answer : r.demand.Answer}
    {now : Moment} {outcome : Activity.Outcome} (member : r ∈ w.reconcilers) (only : w'.reconcilers = [r'])
    (went : (r.resume now w.registry answer).progress = .waiting r')
    (registry : w'.registry = (r.resume now w.registry answer).registry)
    (stays : ∀ type, w.registry.isWatching type = true → w'.registry.isWatching type = true) :
    w'.Reconciles parked (.resumed w.registry (.reconciler r) answer outcome :: later) := by
  have told : trials (.resumed w.registry (.reconciler r) answer outcome :: later) =
      trials later ++ r.tried w.registry answer := gathered_cons _ _ _
  obtain ⟨all,kept⟩ := Reconciler.resume_tries went
  refine ⟨?_,?_,?_,?_⟩
  · simp [only]
  · simp only [only,List.mem_singleton,forall_eq]
    rw [gathered_cons,told,reconciles.all r member,List.append_assoc]
    change _ ++ (r.stage.left ++ r.asked answer) = _
    rw [all,List.map_append,List.append_assoc]
  · simp only [only,List.mem_singleton,forall_eq]
    rw [told,Parked.after_append,← reconciles.parked r member]
    exact kept
  · rw [told]
    intro trial inside well
    rcases List.mem_append.mp inside with before | now
    · exact stays trial.1 (reconciles.watched trial before well)
    · rw [registry]
      exact Reconciler.watched_of_tried went now well

theorem step (reconciles : w.Reconciles parked later) (step : Step settings w happening w')
    (alive : happening ≠ .restarted) (lasting : ¬happening.EndsWatch)
    (alone : ∀ r, happening ≠ .requested (.reconciler r)) : w'.Reconciles parked (happening :: later) := by
  have stays (type : ResourceType) (watched : w.registry.isWatching type = true) :=
    step.stays_watched alive lasting watched
  cases step.round with
  | beside same others =>
    obtain ⟨unasked,untried⟩ := happening.silent_of_reconciler? others
    exact reconciles.quiet (by simp [same]) unasked untried stays
  | began r begun => exact (alone r rfl).elim
  | restarted => exact (alive rfl).elim
  | goesOn place went registry reconcilers =>
    have single := reconciles.single
    rw [place] at single
    obtain ⟨rfl,rfl⟩ := eq_nil_of_single single
    exact reconciles.goesOn (mem_of_place place) reconcilers went registry stays
  | ended place went reconcilers =>
    obtain ⟨unasked,untried⟩ := Reconciler.resume_finished went
    refine reconciles.quiet ?_ unasked untried stays
    rw [place,reconcilers]
    exact (List.sublist_cons_self _ _).append_left _

end World.Reconciles

/-- Nobody but reconcilers begins a session. -/
def Happening.OpensAlone (happening : Happening) : Prop := happening.reconciler? = none → happening.sessions = []

theorem Step.stays_apart {settings : EngineSettings} {w w' : World} {happening : Happening}
    (step : Step settings w happening w') (alive : happening ≠ .restarted) (lasting : ¬happening.EndsWatch)
    (alone : ∀ r, happening ≠ .requested (.reconciler r)) (opens : happening.OpensAlone)
    (single : w.reconcilers.length ≤ 1) (apart : ∀ r ∈ w.reconcilers, r.stage.Apart w.registry) :
    ∀ r ∈ w'.reconcilers, r.stage.Apart w'.registry := by
  cases step.round with
  | beside same others =>
    rcases step.turnover.sessions_cases alive lasting with sessions | ⟨_,_,_,begun⟩
    · intro r member
      rw [same] at member
      obtain ⟨parked,awaited⟩ := apart r member
      refine ⟨fun type inside => ?_,fun reconciling busy => ?_⟩
      · rw [Registry.isWatching_of_sessions sessions]
        exact parked type inside
      · rw [Registry.isWatching_of_sessions sessions]
        exact awaited reconciling busy
    · exact (begun (opens others)).elim
  | began r begun => exact (alone r rfl).elim
  | restarted => exact (alive rfl).elim
  | @goesOn before after r r' answer now outcome place went registry reconcilers =>
    have member : r ∈ w.reconcilers := mem_of_place place
    rw [place] at single
    obtain ⟨rfl,rfl⟩ := eq_nil_of_single single
    intro other inside
    rw [reconcilers] at inside
    cases List.mem_singleton.mp inside
    rw [registry]
    exact Reconciler.resume_apart (apart r member) went
  | ended place went reconcilers =>
    rw [place] at single
    obtain ⟨rfl,rfl⟩ := eq_nil_of_single single
    simp [reconcilers]

/-! ## From its start on -/

/-- A reconciler begins beside what there is. -/
def World.withReconciler (w : World) (r : Reconciler) : World :=
  { w with pending := ⟨.reconciler r, none⟩ :: w.pending }

theorem Onward.split {settings : EngineSettings} {w w' : World} {newer older : List Happening} {happening : Happening}
    (onward : Onward settings w (newer ++ happening :: older) w') :
    ∃ w₁ w₂, Onward settings w older w₁ ∧ Step settings w₁ happening w₂ := by
  induction newer generalizing w' with
  | nil =>
    cases onward with
    | step onward step alive => exact ⟨_,_,onward,step⟩
  | cons last newer ih =>
    cases onward with
    | step onward step alive => exact ih onward

section
variable {settings : EngineSettings} {w₀ w : World} {ticker : Ticker} {parked : Parked} {later : List Happening}

theorem Onward.reconciles (onward : Onward settings (w₀.withReconciler ⟨ticker,.idle parked⟩) later w)
    (first : w₀.reconcilers = []) (lasting : ∀ happening ∈ later, ¬happening.EndsWatch)
    (alone : ∀ r, .requested (.reconciler r) ∉ later) : w.Reconciles parked later := by
  induction onward with
  | here =>
    have only : (w₀.withReconciler ⟨ticker,.idle parked⟩).reconcilers = [⟨ticker,.idle parked⟩] :=
      congrArg (List.cons _) first
    refine ⟨?_,?_,?_,fun trial member => (by cases member)⟩ <;> rw [only]
    · simp
    · intro r member
      cases List.mem_singleton.mp member
      rfl
    · intro r member
      cases List.mem_singleton.mp member
      rfl
  | step onward step alive ih =>
    obtain ⟨lasts,lasting⟩ := List.forall_mem_cons.mp lasting
    have before := ih lasting fun r member => alone r (List.mem_cons_of_mem _ member)
    exact before.step step alive lasts fun r same => alone r (by rw [same]; exact List.mem_cons_self)

/-- While nobody else opens types, no parked type is watched. -/
theorem Onward.apart (onward : Onward settings (w₀.withReconciler ⟨ticker,.idle parked⟩) later w)
    (first : w₀.reconcilers = []) (lasting : ∀ happening ∈ later, ¬happening.EndsWatch)
    (alone : ∀ r, .requested (.reconciler r) ∉ later) (opens : ∀ happening ∈ later, happening.OpensAlone)
    (unwatched : ∀ type ∈ parked, w₀.registry.isWatching type = false) :
    ∀ r ∈ w.reconcilers, r.stage.Apart w.registry := by
  induction onward with
  | here =>
    have only : (w₀.withReconciler ⟨ticker,.idle parked⟩).reconcilers = [⟨ticker,.idle parked⟩] :=
      congrArg (List.cons _) first
    rw [only]
    intro r member
    cases List.mem_singleton.mp member
    exact ⟨unwatched,nofun⟩
  | step onward step alive ih =>
    obtain ⟨lasts,lasting⟩ := List.forall_mem_cons.mp lasting
    obtain ⟨own,opens⟩ := List.forall_mem_cons.mp opens
    have others r member := alone r (List.mem_cons_of_mem _ member)
    refine step.stays_apart alive lasts (fun r same => alone r ?_) own (onward.reconciles first lasting others).single
      (ih lasting others opens)
    rw [same]
    exact List.mem_cons_self

theorem Onward.stays_watched (onward : Onward settings w₀ later w)
    (lasting : ∀ happening ∈ later, ¬happening.EndsWatch) {type : ResourceType}
    (watched : w₀.registry.isWatching type = true) : w.registry.isWatching type = true := by
  induction onward with
  | here => exact watched
  | step onward step alive ih =>
    obtain ⟨lasts,lasting⟩ := List.forall_mem_cons.mp lasting
    exact step.stays_watched alive lasts (ih lasting)

/-- What a reconciler observes it is asked to try. -/
theorem Happening.asked_of_observed {happening : Happening} {type : ResourceType}
    (member : type ∈ happening.observed) : type ∈ happening.asked := by
  unfold observed at member
  split at member
  next news taken =>
    cases happening with
    | requested | served | stopped | shutDown | changed | restarted => cases taken
    | resumed registry activity answer outcome =>
      cases activity with
      | task | watch | delivery | arming | unopened | opening | reconciling => cases taken
      | reconciler r =>
        obtain ⟨ticker,stage⟩ := r
        cases stage with
        | busy reconciling => cases taken
        | idle parked =>
          cases taken
          exact member
  all_goals cases member

theorem asked_of_observed {type : ResourceType} (member : type ∈ typesObserved later) :
    type ∈ gathered Happening.asked later := by
  obtain ⟨happening,inside,observed⟩ := List.mem_flatMap.mp member
  exact List.mem_flatMap.mpr ⟨happening,inside,Happening.asked_of_observed observed⟩

/-- Only news asks for types. -/
theorem Happening.asked_of_news? {happening : Happening} (others : happening.news? = none) : happening.asked = [] := by
  cases happening with
  | requested | served | stopped | shutDown | changed | restarted => rfl
  | resumed registry activity answer outcome =>
    cases activity with
    | task | watch | delivery | arming | unopened | opening | reconciling => rfl
    | reconciler r =>
      obtain ⟨ticker,stage⟩ := r
      cases stage with
      | busy reconciling => rfl
      | idle parked => cases others

/-- Since it took news, a reconciler that waits for more has tried each type that the news asked for, in that order,
and nothing else. What was parked changed by that alone. -/
theorem Onward.handles (onward : Onward settings (w₀.withReconciler ⟨ticker,.idle parked⟩) later w)
    (first : w₀.reconcilers = []) (lasting : ∀ happening ∈ later, ¬happening.EndsWatch)
    (alone : ∀ r, .requested (.reconciler r) ∉ later) {r : Reconciler} {kept : Parked}
    (waits : r ∈ w.reconcilers) (idle : r.stage = .idle kept) {newer older : List Happening} {registry : Registry}
    {ticker' : Ticker} {before : Parked} {news : News} {outcome : Activity.Outcome}
    (place : later = newer ++ .resumed registry (.reconciler ⟨ticker',.idle before⟩) news outcome :: older)
    (latest : ∀ happening ∈ newer, happening.news? = none) :
    let since := trials (newer ++ [.resumed registry (.reconciler ⟨ticker',.idle before⟩) news outcome])
    since.map (·.1) = Reconciler.asks before news ∧ before = parked.after (trials older) ∧
      kept = before.after since := by
  intro since
  obtain ⟨all,after⟩ := (onward.reconciles first lasting alone).done waits idle
  subst place
  obtain ⟨w₁,w₂,earlier,step⟩ := onward.split
  obtain ⟨answer?,now,member,_⟩ := step.taken rfl
  have read : ⟨ticker',.idle before⟩ ∈ w₁.reconcilers := List.mem_filterMap.mpr ⟨_,member,rfl⟩
  have reconciles := earlier.reconciles first
    (fun happening inside => lasting happening (List.mem_append_right _ (List.mem_cons_of_mem _ inside)))
    (fun r inside => alone r (List.mem_append_right _ (List.mem_cons_of_mem _ inside)))
  have quiet : gathered Happening.asked newer = [] :=
    List.flatMap_eq_nil_iff.mpr fun happening inside =>
      Happening.asked_of_news? (latest happening (List.mem_reverse.mp inside))
  -- before it took the news nothing was left either
  obtain ⟨done,old⟩ := reconciles.done read rfl
  refine ⟨?_,old,?_⟩
  · simp only [since,trials,gathered_append,gathered_cons,gathered_nil,quiet,done,List.append_nil,List.nil_append,
      List.map_append,List.append_assoc,List.append_cancel_left_eq] at all ⊢
    exact all.symm
  · rw [old,← Parked.after_append,after]
    simp [since,trials]

/-- A rule that is gone and a fault change nothing. -/
theorem Step.unmoved {settings : EngineSettings} {w w' : World} {happening : Happening}
    (step : Step settings w happening w') {news : RuleNews} (taken : happening.news? = some (.next news))
    (empty : Reconciler.selected news = []) : w'.registry = w.registry ∧ w'.reconcilers = w.reconcilers := by
  cases happening with
  | requested | served | stopped | shutDown | changed | restarted => cases taken
  | resumed registry activity answer outcome =>
    cases activity with
    | task | watch | delivery | arming | unopened | opening | reconciling => cases taken
    | reconciler r =>
      obtain ⟨ticker,stage⟩ := r
      cases stage with
      | busy reconciling => cases taken
      | idle parked =>
        cases taken
        have still (now : Moment) : Reconciler.resume now w.registry ⟨ticker,.idle parked⟩ (News.next news) =
            { registry := w.registry, progress := .waiting ⟨ticker,.idle parked⟩ } := by
          change Reconciler.withReconciling _ (Reconciling.start w.registry parked (Reconciler.selected news)) = _
          rw [empty]
          rfl
        cases step.round with
        | beside same others => cases others
        | @goesOn before after r r' answer now outcome place went registry reconcilers =>
          rw [still] at went registry
          cases went
          exact ⟨registry,reconcilers.trans place.symm⟩
        | @ended before after r answer now outcome place went reconcilers =>
          rw [still] at went
          cases went

/-- A reconciler begins with some types parked, at any state of the engine in which there is no other. As long as no
session ends, whenever it waits for news the following holds. Every type that was parked or watched, and every type that
it observed since, is watched or parked, and a type that it observed is parked exactly when its last trial failed,
whatever the fault. No type is both as long as nobody else opens types. Since it took the last news, it has tried each
type that the news asked for once and in order; with a tick these are the types that were parked when it was taken, so
nothing is parked when all of them went well. Deleted rules and faults of the watch change neither what is watched nor
what is parked. -/
theorem Onward.none_forgotten (onward : Onward settings (w₀.withReconciler ⟨ticker,.idle parked⟩) later w)
    (first : w₀.reconcilers = []) (ordered : parked.Ordered)
    (lasting : ∀ happening ∈ later, ¬happening.EndsWatch) (alone : ∀ r, .requested (.reconciler r) ∉ later)
    {r : Reconciler} {kept : Parked} (waits : r ∈ w.reconcilers) (idle : r.stage = .idle kept) :
    kept.Ordered ∧
      (∀ type, type ∈ parked ∨ w₀.registry.isWatching type = true ∨ type ∈ typesObserved later →
        w.registry.isWatching type = true ∨ type ∈ kept) ∧
      (∀ type ∈ typesObserved later,
        type ∈ kept ↔ ∃ fault, lastTrial? (trials later) type = some (.error fault)) ∧
      (∀ type, lastTrial? (trials later) type = none → (type ∈ kept ↔ type ∈ parked)) ∧
      ((∀ type ∈ parked, w₀.registry.isWatching type = false) → (∀ happening ∈ later, happening.OpensAlone) →
        ∀ type, ¬(w.registry.isWatching type = true ∧ type ∈ kept)) ∧
      (∀ newer older registry ticker' before (news : News) outcome,
        later = newer ++ .resumed registry (.reconciler ⟨ticker',.idle before⟩) news outcome :: older →
        (∀ happening ∈ newer, happening.news? = none) →
        let since := trials (newer ++ [.resumed registry (.reconciler ⟨ticker',.idle before⟩) news outcome])
        since.map (·.1) = Reconciler.asks before news ∧ before.Ordered ∧ kept = before.after since ∧
          (news = .due → (∀ trial ∈ since, trial.2 = .ok ()) → kept = [])) ∧
      ∀ happening w' news, Step settings w happening w' → happening.news? = some (.next news) →
        (news = .failed ∨ ∃ rule, news = .deleted rule) →
          w'.registry = w.registry ∧ w'.reconcilers = w.reconcilers := by
  have reconciles := onward.reconciles first lasting alone
  obtain ⟨all,now⟩ := reconciles.done waits idle
  have observed {type : ResourceType} (member : type ∈ typesObserved later) : type ∈ (trials later).map (·.1) := by
    rw [← all]
    exact asked_of_observed member
  refine ⟨?_,?_,?_,?_,?_,?_,?_⟩
  · rw [now]
    exact ordered.after _
  · rw [now]
    rintro type (before | before | since)
    · by_cases tried : type ∈ (trials later).map (·.1)
      · exact reconciles.watched_or_parked tried
      · exact .inr (Parked.mem_after.mpr (.inr ⟨lastTrial?_eq_none_iff.mpr tried,before⟩))
    · exact .inl (onward.stays_watched lasting before)
    · exact reconciles.watched_or_parked (observed since)
  · intro type member
    rw [now,Parked.mem_after]
    refine ⟨fun inside => inside.resolve_right fun untried => ?_,.inl⟩
    exact lastTrial?_eq_none_iff.mp untried.1 (observed member)
  · intro type none
    simp [now,Parked.mem_after,none]
  · rintro unwatched opens type ⟨watched,inside⟩
    have apart := (onward.apart first lasting alone opens unwatched r waits).parked type (by rw [idle]; exact inside)
    cases watched.symm.trans apart
  · intro newer older registry ticker' before news outcome place latest since
    obtain ⟨asked,old,after⟩ := onward.handles first lasting alone waits idle place latest
    refine ⟨asked,?_,after,?_⟩
    · rw [old]
      exact ordered.after _
    · rintro rfl well
      rw [after]
      exact Parked.after_eq_nil asked well
  · rintro happening w' news step taken (rfl | ⟨rule,rfl⟩)
    · exact step.unmoved taken rfl
    · exact step.unmoved taken rfl

end

namespace Sample

/-- A reconciler whose first tick is due at once. -/
def reconciler (stage : Reconciler.Stage) : Reconciler := ⟨⟨0,.zero⟩,stage⟩

/-- A type cannot be looked up when a rule that selects it is applied. With the next tick it can. -/
theorem none_forgotten_of_late_type : ∃ later w,
    Onward {} (World.withReconciler {} (reconciler (.idle []))) later w ∧ typesObserved later = [type] ∧
    (trials later).map (fun trial => (trial.1,trial.2.isOk)) = [(type,false),(type,true)] ∧
    reconciler (.idle []) ∈ w.reconcilers ∧ w.registry.isWatching type = true := by
  have onward : Onward {} (World.withReconciler {} (reconciler (.idle []))) [] _ := .here
  replace onward := onward.decides moment (News.next (.applied onceRule)) rfl
    (o := ⟨{},[],[],.waiting (.reconciler (reconciler (.busy ⟨[],⟨type⟩,[]⟩)))⟩) rfl
  replace onward := onward.told (Except.error (Fault.store "gone")) rfl
  replace onward := onward.goes moment
    (o := ⟨{},[],[],.waiting (.reconciler (reconciler (.idle [type])))⟩) rfl
  replace onward := onward.decides moment News.due rfl
    (o := ⟨{},[],[],.waiting (.reconciler (reconciler (.busy ⟨[type],⟨type⟩,[]⟩)))⟩) rfl
  replace onward := onward.told (Except.ok target) rfl
  replace onward := onward.goes moment
    (o := ⟨Registry.opened {} type target,[],[nextSession {}],.waiting (.reconciler (reconciler (.idle [])))⟩) rfl
  obtain ⟨_,watched,_⟩ := onward.none_forgotten (r := reconciler (.idle [])) rfl .nil
    (by simp [Happening.EndsWatch]) (by simp) List.mem_cons_self rfl
  refine ⟨_,_,onward,rfl,rfl,List.mem_cons_self,?_⟩
  rcases watched type (.inr (.inr List.mem_cons_self)) with watched | parked
  · exact watched
  · cases parked

end Sample
end Callout
