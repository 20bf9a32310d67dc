import Callout.Proofs.Sessions

/-!
What becomes of the types that a reconciler is asked to try. What it has tried and what it has left are all that it was
asked for, in that order (`Reconciler.resume_tries`), and parked are those whose last trial failed (`Parked.mem_after`).
A type whose trial went well is watched. As long as nobody else opens types, none that is parked is.
-/
namespace Callout

/-! ## Parked types -/

instance : Std.TransCmp ResourceType.compare :=
  inferInstanceAs (Std.TransCmp
    (compareLex (compareLex (compareOn ResourceType.group) (compareOn ResourceType.version))
      (compareOn ResourceType.kind)))

theorem ResourceType.eq_of_compare {a b : ResourceType} (same : a.compare b = .eq) : a = b := by
  simp only [compare,Ordering.then_eq_eq,Std.LawfulEqOrd.compare_eq_iff_eq] at same
  obtain ⟨⟨group,version⟩,kind⟩ := same
  cases a
  cases b
  simp_all

/-- A type, and what came of trying to open it. -/
abbrev Trial := ResourceType × Except Fault Unit

/-- What came of the last trial of a type. -/
def lastTrial? (trials : List Trial) (type : ResourceType) : Option (Except Fault Unit) := trials.reverse.lookup type

theorem lastTrial?_cons (trial : Trial) (rest : List Trial) (type : ResourceType) :
    lastTrial? (trial :: rest) type =
      (lastTrial? rest type).or (if trial.1 = type then some trial.2 else none) := by
  rw [lastTrial?,List.reverse_cons,List.lookup_append,lastTrial?]
  congr 1
  obtain ⟨tried,result⟩ := trial
  by_cases same : tried = type
  · simp [same]
  · simp [same,Ne.symm same]

theorem mem_of_lastTrial? {trials : List Trial} {type : ResourceType} {result : Except Fault Unit}
    (last : lastTrial? trials type = some result) : (type,result) ∈ trials := by
  obtain ⟨before,after,place,_⟩ := List.lookup_eq_some_iff.mp last
  rw [← List.mem_reverse,place]
  simp

theorem lastTrial?_eq_none_iff {trials : List Trial} {type : ResourceType} :
    lastTrial? trials type = none ↔ type ∉ trials.map (·.1) := by
  rw [lastTrial?,List.lookup_eq_none_iff]
  constructor
  · intro none member
    obtain ⟨trial,inside,rfl⟩ := List.mem_map.mp member
    simpa using none trial (List.mem_reverse.mpr inside)
  · intro none trial inside
    have other : type ≠ trial.1 := fun same =>
      none (List.mem_map.mpr ⟨trial,List.mem_reverse.mp inside,same.symm⟩)
    simpa using other

namespace Parked

/-- Each type comes before those after it. -/
def Ordered (parked : Parked) : Prop := parked.Pairwise fun a b => a.compare b = .lt

theorem mem_insert {parked : Parked} {type other : ResourceType} :
    other ∈ parked.insert type ↔ other = type ∨ other ∈ parked := by
  induction parked with
  | nil => simp [insert]
  | cons first rest ih =>
    rw [insert]
    split
    next => simp
    next same =>
      cases ResourceType.eq_of_compare same
      simp
    next => simp [ih,or_left_comm]

theorem Ordered.insert {parked : Parked} (ordered : parked.Ordered) (type : ResourceType) :
    (parked.insert type).Ordered := by
  induction parked with
  | nil => simp [Parked.insert,Ordered]
  | cons first rest ih =>
    obtain ⟨least,ordered⟩ := List.pairwise_cons.mp ordered
    rw [Parked.insert]
    split
    next less =>
      refine List.pairwise_cons.mpr ⟨?_,List.pairwise_cons.mpr ⟨least,ordered⟩⟩
      intro other member
      rcases List.mem_cons.mp member with rfl | member
      · exact less
      · exact Std.TransCmp.lt_trans less (least other member)
    next => exact List.pairwise_cons.mpr ⟨least,ordered⟩
    next more =>
      refine List.pairwise_cons.mpr ⟨?_,ih ordered⟩
      intro other member
      rcases mem_insert.mp member with rfl | member
      · exact Std.OrientedCmp.lt_of_gt more
      · exact least other member

theorem mem_settle {parked : Parked} {type other : ResourceType} {result : Except Fault Unit} :
    other ∈ parked.settle type result ↔
      if type = other then ∃ fault, result = .error fault else other ∈ parked := by
  cases result with
  | ok done => by_cases same : type = other <;> simp [settle,same,eq_comm]
  | error fault => by_cases same : type = other <;> simp [settle,mem_insert,same,Ne.symm]

theorem Ordered.settle {parked : Parked} (ordered : parked.Ordered) (type : ResourceType)
    (result : Except Fault Unit) : (parked.settle type result).Ordered := by
  cases result with
  | ok done => exact ordered.sublist List.filter_sublist
  | error fault => exact ordered.insert type

/-- The parked types after trials. -/
def after (parked : Parked) (trials : List Trial) : Parked :=
  trials.foldl (fun parked trial => parked.settle trial.1 trial.2) parked

theorem after_append (parked : Parked) (before after : List Trial) :
    parked.after (before ++ after) = (parked.after before).after after := List.foldl_append

theorem Ordered.after {parked : Parked} (ordered : parked.Ordered) (trials : List Trial) :
    (parked.after trials).Ordered := by
  induction trials generalizing parked with
  | nil => exact ordered
  | cons trial rest ih => exact ih (ordered.settle trial.1 trial.2)

/-- A type is parked when its last trial failed, or when it was parked and not tried. -/
theorem mem_after {parked : Parked} {trials : List Trial} {type : ResourceType} :
    type ∈ parked.after trials ↔
      (∃ fault, lastTrial? trials type = some (.error fault)) ∨
        lastTrial? trials type = none ∧ type ∈ parked := by
  induction trials generalizing parked with
  | nil => simp [after,lastTrial?]
  | cons trial rest ih =>
    change type ∈ (parked.settle trial.1 trial.2).after rest ↔ _
    rw [ih,lastTrial?_cons,mem_settle]
    cases lastTrial? rest type with
    | some result => simp
    | none => by_cases same : trial.1 = type <;> simp [same]

/-- Trials that all go well park nothing, and none of the types that were tried stays parked. -/
theorem mem_of_mem_after {parked : Parked} {trials : List Trial} (well : ∀ trial ∈ trials, trial.2 = .ok ())
    {type : ResourceType} (member : type ∈ parked.after trials) : type ∈ parked ∧ type ∉ trials.map (·.1) := by
  rcases mem_after.mp member with ⟨fault,last⟩ | ⟨none,inside⟩
  · cases well _ (mem_of_lastTrial? last)
  · exact ⟨inside,lastTrial?_eq_none_iff.mp none⟩

/-- When every parked type is tried and all goes well, nothing stays parked. -/
theorem after_eq_nil {parked : Parked} {trials : List Trial} (all : trials.map (·.1) = parked)
    (well : ∀ trial ∈ trials, trial.2 = .ok ()) : parked.after trials = [] := by
  refine List.eq_nil_iff_forall_not_mem.mpr fun type member => ?_
  obtain ⟨inside,untried⟩ := mem_of_mem_after well member
  rw [all] at untried
  exact untried inside

end Parked

/-! ## Trials -/

namespace Reconciling

/-- What comes at once of trying types one after the other. -/
def atOnce (registry : Registry) : List ResourceType → List Trial
  | [] => []
  | type :: rest =>
    match (Opening.start registry type).progress with
    | .waiting _ => []
    | .finished result => (type, result) :: atOnce registry rest

/-- What comes of the type that was looked up, and at once of those after it. -/
def tried (registry : Registry) (r : Reconciling) (answer : Except Fault WatchTarget) : List Trial :=
  let o := r.opening.resume registry answer
  match o.progress with
  | .waiting _ => []
  | .finished result => (r.opening.type, result) :: atOnce o.registry r.rest

/-- Where a reconciler is after a step. -/
def Outcome.stage (o : Outcome) : Reconciler.Stage :=
  match o.progress with
  | .waiting reconciling => .busy reconciling
  | .finished parked => .idle parked

end Reconciling

namespace Reconciler

/-- The types that are parked. -/
def Stage.parked : Stage → Parked
  | .idle parked => parked
  | .busy reconciling => reconciling.parked

/-- The types that are left to be tried. The first of them is being looked up. -/
def Stage.left : Stage → List ResourceType
  | .idle _ => []
  | .busy reconciling => reconciling.opening.type :: reconciling.rest

/-- The types that news asks to be tried, with those parked at that time. -/
def asks (parked : Parked) : News → List ResourceType
  | .due => parked
  | .next news => selected news
  | .cancelled | .ended => []

/-- The types that a step is asked to try. -/
def asked : (r : Reconciler) → r.demand.Answer → List ResourceType
  | ⟨_, .idle parked⟩, answer => asks parked answer
  | ⟨_, .busy _⟩, _ => []

/-- The trials that end at a step. -/
def tried (registry : Registry) : (r : Reconciler) → r.demand.Answer → List Trial
  | ⟨_, .idle parked⟩, answer => Reconciling.atOnce registry (asks parked answer)
  | ⟨_, .busy reconciling⟩, answer => reconciling.tried registry answer

/-- Neither a parked type nor the one that is being looked up is watched. -/
structure Stage.Apart (s : Stage) (registry : Registry) : Prop where
  parked : ∀ type ∈ s.parked, registry.isWatching type = false
  awaited : ∀ reconciling, s = .busy reconciling → registry.isWatching reconciling.opening.type = false

end Reconciler

namespace Reconciling

/-- What was tried and what is left are the types given, and parked is what failed. -/
structure Outcome.Tries (o : Outcome) (parked : Parked) (types : List ResourceType) (trials : List Trial) : Prop where
  all : types = trials.map (·.1) ++ o.stage.left
  parked : o.stage.parked = parked.after trials

theorem start_of_watched {registry : Registry} {type : ResourceType} (watched : registry.isWatching type = true)
    (parked : Parked) (rest : List ResourceType) :
    start registry parked (type :: rest) = start registry (parked.settle type (.ok ())) rest ∧
      atOnce registry (type :: rest) = (type,.ok ()) :: atOnce registry rest := by
  simp [start,atOnce,Opening.start,watched]

theorem start_of_unwatched {registry : Registry} {type : ResourceType} (free : registry.isWatching type = false)
    (parked : Parked) (rest : List ResourceType) :
    start registry parked (type :: rest) = { registry, progress := .waiting ⟨parked,⟨type⟩,rest⟩ } ∧
      atOnce registry (type :: rest) = [] := by
  simp [start,atOnce,Opening.start,free]

theorem start_tries (registry : Registry) (parked : Parked) (types : List ResourceType) :
    (start registry parked types).Tries parked types (atOnce registry types) := by
  induction types generalizing parked with
  | nil => exact ⟨rfl,rfl⟩
  | cons type rest ih =>
    cases watched : registry.isWatching type with
    | true =>
      obtain ⟨started,trials⟩ := start_of_watched watched parked rest
      rw [started,trials]
      obtain ⟨all,parked⟩ := ih (parked.settle type (.ok ()))
      exact ⟨congrArg (type :: ·) all,parked⟩
    | false =>
      obtain ⟨started,trials⟩ := start_of_unwatched watched parked rest
      rw [started,trials]
      exact ⟨rfl,rfl⟩

/-- What comes at once is that a type is watched already. -/
theorem watched_of_atOnce {registry : Registry} {types : List ResourceType} {trial : Trial}
    (member : trial ∈ atOnce registry types) : trial.2 = .ok () ∧ registry.isWatching trial.1 = true := by
  induction types with
  | nil => cases member
  | cons type rest ih =>
    cases watched : registry.isWatching type with
    | true =>
      rw [(start_of_watched watched [] rest).2] at member
      rcases List.mem_cons.mp member with rfl | member
      · exact ⟨rfl,watched⟩
      · exact ih member
    | false =>
      rw [(start_of_unwatched watched [] rest).2] at member
      cases member

/-- A type waits to be looked up because it is not watched. -/
theorem start_apart {registry : Registry} {parked : Parked}
    (apart : ∀ type ∈ parked, registry.isWatching type = false) (types : List ResourceType) :
    (start registry parked types).stage.Apart registry := by
  refine ⟨?_,?_⟩
  · intro type member
    rw [(start_tries registry parked types).parked] at member
    exact apart type (Parked.mem_of_mem_after (fun _ inside => (watched_of_atOnce inside).1) member).1
  · clear apart
    induction types generalizing parked with
    | nil => exact nofun
    | cons type rest ih =>
      cases watched : registry.isWatching type with
      | true =>
        rw [(start_of_watched watched parked rest).1]
        exact ih
      | false =>
        rw [(start_of_unwatched watched parked rest).1]
        rintro _ ⟨⟩
        exact watched

/-- When the opening has ended, the rest is tried. -/
theorem resume_eq (registry : Registry) (r : Reconciling) (answer : Except Fault WatchTarget) :
    ∃ result, (r.opening.resume registry answer).progress = .finished result ∧
      (r.resume registry answer).registry = (r.opening.resume registry answer).registry ∧
      (r.resume registry answer).stage =
        (start (r.opening.resume registry answer).registry (r.parked.settle r.opening.type result) r.rest).stage ∧
      r.tried registry answer =
        (r.opening.type,result) :: atOnce (r.opening.resume registry answer).registry r.rest := by
  have ends : ∃ result, (r.opening.resume registry answer).progress = .finished result := by
    rcases r.opening.resume_cases registry answer with ⟨fault,failed⟩ | ⟨well,_⟩
    · exact ⟨.error fault,by rw [failed]⟩
    · exact ⟨.ok (),well⟩
  obtain ⟨result,ended⟩ := ends
  refine ⟨result,ended,?_,?_,?_⟩
  · simp only [resume,ended]
    exact (start_idle _ _ _).1
  · simp only [resume,ended]
    rfl
  · simp only [tried,ended]

theorem resume_tries (registry : Registry) (r : Reconciling) (answer : Except Fault WatchTarget) :
    (r.resume registry answer).Tries r.parked (Reconciler.Stage.busy r).left (r.tried registry answer) := by
  obtain ⟨result,_,_,stage,trials⟩ := r.resume_eq registry answer
  obtain ⟨all,parked⟩ := start_tries (r.opening.resume registry answer).registry
    (r.parked.settle r.opening.type result) r.rest
  refine ⟨?_,?_⟩
  · rw [stage,trials]
    exact congrArg (r.opening.type :: ·) all
  · rw [stage,trials]
    exact parked

end Reconciling

theorem Registry.isWatching_opened_of_ne (r : Registry) {type other : ResourceType} (apart : other ≠ type)
    (target : WatchTarget) : (r.opened type target).isWatching other = r.isWatching other := by
  simp [isWatching,session?,opened,List.lookup_append,List.lookup_cons,beq_eq_false_iff_ne.mpr apart]

/-- The opening of a type that is not watched either fails and changes nothing, or makes it watched, and no other. -/
theorem Opening.resume_free {registry : Registry} {o : Opening} (free : registry.isWatching o.type = false)
    (answer : Except Fault WatchTarget) {type : ResourceType} {result : Except Fault Unit}
    (ended : (o.resume registry answer).progress = .finished result)
    (apart : type = o.type → ∃ fault, result = .error fault) :
    (o.resume registry answer).registry.isWatching type = registry.isWatching type := by
  cases answer with
  | error fault => rfl
  | ok target =>
    simp only [resume,Registry.registerSession,free,Bool.false_eq_true,if_false] at ended ⊢
    cases ended
    refine registry.isWatching_opened_of_ne (fun same => ?_) target
    obtain ⟨_,⟨⟩⟩ := apart same

namespace Reconciler
variable {now : Moment} {registry : Registry} {r r' : Reconciler} {answer : r.demand.Answer}

/-- What a step makes of a reconciler that goes on. -/
theorem resume_cases (went : (r.resume now registry answer).progress = .waiting r') :
    (∃ parked, r.stage = .idle parked ∧ (r.resume now registry answer).registry = registry ∧
        r'.stage = (Reconciling.start registry parked (r.asked answer)).stage ∧
        r.tried registry answer = Reconciling.atOnce registry (r.asked answer)) ∨
      ∃ reconciling answer', r.stage = .busy reconciling ∧ r.asked answer = [] ∧
        (r.resume now registry answer).registry = (reconciling.resume registry answer').registry ∧
        r'.stage = (reconciling.resume registry answer').stage ∧
        r.tried registry answer = reconciling.tried registry answer' := by
  obtain ⟨ticker,stage⟩ := r
  cases stage with
  | idle parked =>
    change News at answer
    change (afterNews _ parked now registry answer).progress = _ at went
    refine .inl ⟨parked,rfl,?_⟩
    change (afterNews _ parked now registry answer).registry = _ ∧
      r'.stage = (Reconciling.start registry parked (asks parked answer)).stage ∧ _
    cases answer with
    | cancelled | ended => cases went
    | due | next =>
      cases went
      exact ⟨(Reconciling.start_idle _ _ _).1,rfl,rfl⟩
  | busy reconciling =>
    cases went
    exact .inr ⟨reconciling,answer,rfl,rfl,rfl,rfl,rfl⟩

/-- What a reconciler had left and is asked to try is what it tries and has left, in the same order. -/
theorem resume_tries (went : (r.resume now registry answer).progress = .waiting r') :
    r.stage.left ++ r.asked answer = (r.tried registry answer).map (·.1) ++ r'.stage.left ∧
      r'.stage.parked = r.stage.parked.after (r.tried registry answer) := by
  rcases resume_cases went with ⟨parked,stage,_,next,trials⟩ | ⟨reconciling,answer',stage,none,_,next,trials⟩
  · obtain ⟨all,kept⟩ := Reconciling.start_tries registry parked (r.asked answer)
    rw [stage,next,trials]
    exact ⟨all,kept⟩
  · obtain ⟨all,kept⟩ := reconciling.resume_tries registry answer'
    rw [stage,next,trials,none,List.append_nil]
    exact ⟨all,kept⟩

/-- A type whose trial went well is watched after the step. -/
theorem watched_of_tried (went : (r.resume now registry answer).progress = .waiting r') {trial : Trial}
    (member : trial ∈ r.tried registry answer) (well : trial.2 = .ok ()) :
    (r.resume now registry answer).registry.isWatching trial.1 = true := by
  rcases resume_cases went with ⟨parked,_,same,_,trials⟩ | ⟨reconciling,answer',_,_,same,_,trials⟩
  · rw [trials] at member
    rw [same]
    exact (Reconciling.watched_of_atOnce member).2
  · obtain ⟨result,ended,opened,_,all⟩ := reconciling.resume_eq registry answer'
    rw [trials,all] at member
    rw [same,opened]
    rcases List.mem_cons.mp member with rfl | member
    · cases well
      rcases reconciling.opening.resume_cases registry answer' with ⟨fault,failed⟩ | ⟨_,watched⟩
      · rw [failed] at ended
        cases ended
      · exact watched
    · exact (Reconciling.watched_of_atOnce member).2

theorem resume_apart (apart : r.stage.Apart registry)
    (went : (r.resume now registry answer).progress = .waiting r') :
    r'.stage.Apart (r.resume now registry answer).registry := by
  rcases resume_cases went with ⟨parked,stage,same,next,_⟩ | ⟨reconciling,answer',stage,_,same,next,_⟩
  · rw [stage] at apart
    rw [same,next]
    exact Reconciling.start_apart apart.parked _
  · obtain ⟨result,ended,opened,after,_⟩ := reconciling.resume_eq registry answer'
    rw [stage] at apart
    have free := apart.awaited reconciling rfl
    rw [same,next,opened,after]
    refine Reconciling.start_apart ?_ _
    intro type member
    rw [Parked.mem_settle] at member
    split at member
    next own =>
      rw [Opening.resume_free free answer' ended fun _ => member,← own]
      exact free
    next other =>
      rw [Opening.resume_free free answer' ended fun own => (other own.symm).elim]
      exact apart.parked type member

end Reconciler
end Callout
