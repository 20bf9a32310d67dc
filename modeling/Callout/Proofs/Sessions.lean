import Callout.Proofs.Shutdown

/-!
A type has one session at a time. Sessions are registered when they begin, with numbers that count up, and each is
unregistered by a stop of its type or at the end of its own stream (`Registry.Turnover`); a session that ends late
finds its successor under another number and leaves it alone. A call that opens a type and fails has changed nothing
(`Run.one_session_per_type`).
-/
namespace Callout

/-! ## What a step does to sessions -/

/-- Whether two registries have the same sessions, and are started alike. -/
structure Registry.SameSessions (r r' : Registry) : Prop where
  sessions : r'.sessions = r.sessions
  last : r'.lastSession = r.lastSession
  started : r'.started = r.started

/-- The end of the stream of a session. -/
def WatchRun.Ends : (w : WatchRun) → w.demand.Answer → Prop
  | ⟨_, _, .idle⟩, answer => answer = Item.ended
  | ⟨_, _, .delivering _ _⟩, _ => False

theorem Registry.arm_sameSessions (r : Registry) (event : Event) (rules : List Rule) :
    r.SameSessions (r.arm event rules).registry := by
  obtain ⟨tasks,tokens,same⟩ := r.arm_frame event rules
  rw [same]
  exact ⟨rfl,rfl,rfl⟩

theorem Delivery.resume_sameSessions (settings : EngineSettings) (now : Moment) (registry : Registry) (d : Delivery)
    (answer : d.demand.Answer) : registry.SameSessions (d.resume settings now registry answer).registry := by
  cases d with
  | listing event =>
    change Except Fault (List Rule) at answer
    change registry.SameSessions (afterListing registry event answer).registry
    cases answer with
    | error fault => exact ⟨rfl,rfl,rfl⟩
    | ok rules =>
      obtain ⟨⟨claims,same⟩,_⟩ := proceed_frame (registry.arm event rules).registry event none rules
      have armed := registry.arm_sameSessions event rules
      simp only [afterListing,same]
      exact ⟨armed.sessions,armed.last,armed.started⟩
  | dispatching dispatch rest first? =>
    change registry.SameSessions
      (withDispatch dispatch.event rest first? (dispatch.resume settings now registry answer)).registry
    obtain ⟨claims,same⟩ := dispatch.resume_frame settings now registry answer
    cases step : dispatch.resume settings now registry answer with
    | mk between progress =>
      rw [step] at same
      subst same
      cases progress with
      | waiting dispatch' => exact ⟨rfl,rfl,rfl⟩
      | finished result =>
        obtain ⟨⟨later,kept⟩,_⟩ :=
          proceed_frame { registry with claims } dispatch.event (joined first? result) rest
        simp only [withDispatch,kept]
        exact ⟨rfl,rfl,rfl⟩

/-- The run of a session keeps all sessions, unless its stream ended. Then it releases its own. -/
theorem WatchRun.resume_cases (settings : EngineSettings) (now : Moment) (registry : Registry) (w : WatchRun)
    (answer : w.demand.Answer) :
    registry.SameSessions (w.resume settings now registry answer).registry ∨
      w.Ends answer ∧ (w.resume settings now registry answer).registry =
        (registry.releaseSession w.session.target.type w.session.id).1 := by
  obtain ⟨session,tracker,stage⟩ := w
  cases stage with
  | idle =>
    change Item at answer
    change registry.SameSessions (afterItem _ registry answer).registry ∨
      answer = Item.ended ∧ (afterItem _ registry answer).registry = _
    cases answer with
    | cancelled => exact .inl ⟨rfl,rfl,rfl⟩
    | ended => exact .inr ⟨rfl,rfl⟩
    | next item =>
      cases item with
      | error fault => exact .inl ⟨rfl,rfl,rfl⟩
      | ok notification =>
        simp only [afterItem]
        rw [(deliver_frame _ _ _).1]
        exact .inl ⟨rfl,rfl,rfl⟩
  | delivering delivery rest =>
    refine .inl ?_
    change registry.SameSessions (withDelivery _ rest (delivery.resume settings now registry answer)).registry
    have same := delivery.resume_sameSessions settings now registry answer
    unfold withDelivery
    split
    · exact same
    · rw [(deliver_frame _ _ _).1]
      exact same

/-- The sessions that begin at a step. -/
def Happening.sessions : Happening → List Session
  | .resumed _ _ _ outcome => outcome.sessions
  | .requested _ | .served _ _ _ _ | .stopped _ _ | .shutDown | .changed | .restarted => []

/-- What a step does to the sessions of a registry. -/
inductive Registry.Turnover (r : Registry) : Happening → Registry → Prop where
  | kept {happening : Happening} {r' : Registry} (lasting : happening ≠ .restarted) (none : happening.sessions = [])
      (same : r.SameSessions r') : Turnover r happening r'
  /-- A type that was not watched gets a session. -/
  | opened {happening : Happening} (lasting : happening ≠ .restarted) (type : ResourceType) (target : WatchTarget)
      (free : r.isWatching type = false)
      (begun : happening.sessions = [⟨r.lastSession + 1, target, (r.tokens.child Registry.root).2⟩]) :
      Turnover r happening (r.opened type target)
  /-- The stream of a session ended. -/
  | ended (run : WatchRun) (answer : run.demand.Answer) (outcome : Activity.Outcome) (ends : run.Ends answer)
      (none : outcome.sessions = []) :
      Turnover r (.resumed r (.watch run) answer outcome)
        (r.releaseSession run.session.target.type run.session.id).1
  | stopped (type : ResourceType) : Turnover r (.stopped type (r.session? type)) (r.stopWatching type).1
  | restarted : Turnover r .restarted {}

theorem Registry.Opens.turnover {r r' : Registry} {sessions : List Session} (opens : r.Opens r' sessions)
    {happening : Happening} (lasting : happening ≠ .restarted) (begun : happening.sessions = sessions) :
    r.Turnover happening r' := by
  cases opens with
  | same => exact .kept lasting begun ⟨rfl,rfl,rfl⟩
  | opened type target free => exact .opened lasting type target free begun

theorem Activity.resume_turnover (settings : EngineSettings) (now : Moment) (registry : Registry)
    (activity : Activity) (answer : activity.demand.Answer) :
    registry.Turnover (.resumed registry activity answer (activity.resume settings now registry answer))
      (activity.resume settings now registry answer).registry := by
  have lasting : Happening.resumed registry activity answer (activity.resume settings now registry answer) ≠
    .restarted := nofun
  cases activity with
  | task run =>
    refine .kept lasting rfl ?_
    simp only [Activity.resume]
    rcases run.resume_cases now registry answer with ended | ⟨run',_,went⟩
    · rw [ended]
      exact ⟨rfl,rfl,rfl⟩
    · rw [went]
      exact ⟨rfl,rfl,rfl⟩
  | watch run =>
    rcases run.resume_cases settings now registry answer with same | ⟨ends,released⟩
    · exact .kept lasting rfl same
    · simp only [Activity.resume,released]
      exact .ended run answer _ ends rfl
  | delivery delivery => exact .kept lasting rfl (delivery.resume_sameSessions settings now registry answer)
  | arming event =>
    change Except Fault (List Rule) at answer
    cases answer with
    | error fault => exact .kept lasting rfl ⟨rfl,rfl,rfl⟩
    | ok rules => exact .kept lasting rfl (registry.arm_sameSessions event rules)
  | unopened type => exact .kept lasting rfl ⟨rfl,rfl,rfl⟩
  | opening opening => exact (opening.resume_opens registry answer).turnover lasting rfl
  | reconciling reconciling => exact (reconciling.resume_opens registry answer).turnover lasting rfl
  | reconciler reconciler => exact (reconciler.resume_opens now registry answer).turnover lasting rfl

theorem Step.turnover {settings : EngineSettings} {w w' : World} {happening : Happening}
    (step : Step settings w happening w') : w.registry.Turnover happening w'.registry := by
  cases step with
  | request activity asked => exact .kept nofun rfl ⟨rfl,rfl,rfl⟩
  | serve before place answer stored? served => exact .kept nofun rfl ⟨rfl,rfl,rfl⟩
  | resume before now place taken went =>
    subst went
    exact Activity.resume_turnover _ _ _ _ _
  | stop type => exact .stopped type
  | shutDown => exact .kept nofun rfl ⟨rfl,rfl,rfl⟩
  | change changed => exact .kept nofun rfl ⟨rfl,rfl,rfl⟩
  | restart => exact .restarted

/-! ## Numbers of sessions -/

theorem sessionsOpened_of_lasting {happening : Happening} (lasting : happening ≠ .restarted)
    (history : List Happening) :
    sessionsOpened (happening :: history) = happening.sessions ++ sessionsOpened history := by
  cases happening with
  | restarted => exact (lasting rfl).elim
  | requested activity => rfl
  | served archive activity answer stored? => rfl
  | resumed registry activity answer outcome => rfl
  | stopped type session? => rfl
  | shutDown => rfl
  | changed => rfl

/-- What holds of the sessions of every registry, after some sessions began, latest first. -/
structure Registry.Numbered (r : Registry) (opened : List Session) : Prop where
  types : (r.sessions.map (·.1)).Nodup
  begun : ∀ entry ∈ r.sessions, entry.2 ∈ opened
  /-- The sessions are numbered in the order in which they began. -/
  ids : opened.map (·.id) = (List.range' 1 r.lastSession).reverse

namespace Registry.Numbered
variable {r r' : Registry} {opened : List Session}

/-- The session that a type is watched by is the registered one. -/
theorem session?_of_mem (numbered : r.Numbered opened) {entry : ResourceType × Session}
    (member : entry ∈ r.sessions) : r.session? entry.1 = some entry.2 := by
  obtain ⟨before,after,place⟩ := List.append_of_mem member
  refine List.lookup_eq_some_iff.mpr ⟨before,after,place,fun other inside => ?_⟩
  have distinct := numbered.types
  rw [place] at distinct
  have apart := ne_of_nodup_middle distinct (List.mem_append_left after inside)
  simpa using apart.symm

theorem nodup_ids (numbered : r.Numbered opened) : (opened.map (·.id)).Nodup := by
  rw [numbered.ids]
  exact (List.reverse_perm _).nodup_iff.mpr (List.nodup_range' 1)

theorem nodup (numbered : r.Numbered opened) : opened.Nodup :=
  List.Pairwise.of_map _ (fun _ _ apart same => apart (congrArg _ same)) numbered.nodup_ids

theorem eq_of_id (numbered : r.Numbered opened) {s other : Session} (member : s ∈ opened) (inside : other ∈ opened)
    (same : s.id = other.id) : s = other :=
  eq_of_nodup_map numbered.nodup_ids member inside same

theorem sameSessions (numbered : r.Numbered opened) (same : r.SameSessions r') : r'.Numbered opened := by
  refine ⟨?_,?_,?_⟩
  · rw [same.sessions]
    exact numbered.types
  · rw [same.sessions]
    exact numbered.begun
  · rw [same.last]
    exact numbered.ids

theorem drop (numbered : r.Numbered opened) (type : ResourceType) : (r.dropSession type).Numbered opened :=
  ⟨numbered.types.sublist (List.filter_sublist.map _),
    fun entry member => numbered.begun entry (List.mem_filter.mp member).1,numbered.ids⟩

theorem stop (numbered : r.Numbered opened) (type : ResourceType) : (r.stopWatching type).1.Numbered opened := by
  unfold stopWatching removeSession
  cases r.session? type with
  | none => exact numbered.drop type
  | some s => exact (numbered.drop type).sameSessions ⟨rfl,rfl,rfl⟩

theorem release (numbered : r.Numbered opened) (type : ResourceType) (id : SessionId) :
    (r.releaseSession type id).1.Numbered opened := by
  unfold releaseSession
  split
  · exact numbered.drop type
  · exact numbered

theorem register (numbered : r.Numbered opened) {type : ResourceType} {target : WatchTarget}
    (free : r.isWatching type = false) :
    (r.opened type target).Numbered (⟨r.lastSession + 1,target,(r.tokens.child root).2⟩ :: opened) := by
  refine ⟨?_,?_,?_⟩
  · simp only [Registry.opened,List.map_append,List.map_cons,List.map_nil]
    refine List.nodup_append.mpr ⟨numbered.types,by simp,?_⟩
    rintro other member _ (_ | ⟨_,⟨⟩⟩) rfl
    obtain ⟨entry,inside,named⟩ := List.mem_map.mp member
    simp [isWatching,← named,numbered.session?_of_mem inside] at free
  · intro entry member
    rcases List.mem_append.mp member with old | new
    · exact List.mem_cons_of_mem _ (numbered.begun entry old)
    · cases List.mem_singleton.mp new
      exact List.mem_cons_self
  · simp only [Registry.opened,List.map_cons,numbered.ids,List.range'_concat,List.reverse_append,List.reverse_cons,
      List.reverse_nil,List.nil_append,List.cons_append,Nat.one_mul]
    rw [Nat.add_comm]

theorem turnover (numbered : r.Numbered opened) {happening : Happening} (turnover : r.Turnover happening r')
    (lasting : happening ≠ .restarted) : r'.Numbered (happening.sessions ++ opened) := by
  cases turnover with
  | kept _ none same =>
    rw [none]
    exact numbered.sameSessions same
  | opened _ type target free begun =>
    rw [begun]
    exact numbered.register free
  | ended run answer outcome ends none =>
    simp only [Happening.sessions,none]
    exact numbered.release _ _
  | stopped type => exact numbered.stop type
  | restarted => exact (lasting rfl).elim

end Registry.Numbered

theorem Run.numbered {settings : EngineSettings} {history : List Happening} {w : World}
    (run : Run settings history w) : w.registry.Numbered (sessionsOpened history) := by
  have empty : Registry.Numbered {} [] := ⟨List.nodup_nil,by simp,rfl⟩
  induction run with
  | start => exact empty
  | @step history w w' happening run step ih =>
    by_cases lasting : happening = .restarted
    · subst lasting
      cases step
      exact empty
    · rw [sessionsOpened_of_lasting lasting]
      exact ih.turnover step.turnover lasting

/-! ## Coming and going -/

namespace Registry.Turnover
variable {r r' : Registry} {happening : Happening}

/-- What begins is registered, for a type that was not watched. -/
theorem registers (turnover : r.Turnover happening r') {s : Session} (member : s ∈ happening.sessions) :
    ∃ type, r.isWatching type = false ∧ r'.sessions = r.sessions ++ [(type,s)] := by
  cases turnover with
  | kept _ none _ => simp [none] at member
  | opened _ type target free begun =>
    rw [begun] at member
    cases List.mem_singleton.mp member
    exact ⟨type,free,rfl⟩
  | ended run answer outcome ends none => simp [Happening.sessions,none] at member
  | stopped type => cases member
  | restarted => cases member

theorem mem_of_drop {type : ResourceType} {entry : ResourceType × Session}
    (member : entry ∈ (r.dropSession type).sessions) : entry ∈ r.sessions :=
  (List.mem_filter.mp member).1

theorem stopWatching_sessions (r : Registry) (type : ResourceType) :
    (r.stopWatching type).1.sessions = (r.dropSession type).sessions := by
  unfold stopWatching removeSession
  cases r.session? type <;> rfl

/-- Without a session that begins nothing is started, and no number is taken. -/
theorem unstarted (turnover : r.Turnover happening r') (lasting : happening ≠ .restarted)
    (quiet : happening.sessions = []) : r'.started = r.started ∧ r'.lastSession = r.lastSession := by
  cases turnover with
  | kept _ _ same => exact ⟨same.started,same.last⟩
  | opened _ type target free begun => cases quiet.symm.trans begun
  | ended run answer outcome ends none =>
    unfold releaseSession
    split <;> exact ⟨rfl,rfl⟩
  | stopped type =>
    unfold stopWatching removeSession
    cases r.session? type <;> exact ⟨rfl,rfl⟩
  | restarted => exact (lasting rfl).elim

/-- What is registered was, or begins. -/
theorem registered (turnover : r.Turnover happening r') {entry : ResourceType × Session}
    (member : entry ∈ r'.sessions) : entry ∈ r.sessions ∨ entry.2 ∈ happening.sessions := by
  cases turnover with
  | kept _ _ same =>
    rw [same.sessions] at member
    exact .inl member
  | opened _ type target free begun =>
    rw [begun]
    rcases List.mem_append.mp member with old | new
    · exact .inl old
    · cases List.mem_singleton.mp new
      exact .inr List.mem_cons_self
  | ended run answer outcome ends none =>
    unfold releaseSession at member
    split at member
    · exact .inl (mem_of_drop member)
    · exact .inl member
  | stopped type =>
    rw [stopWatching_sessions] at member
    exact .inl (mem_of_drop member)
  | restarted => cases member

end Registry.Turnover

/-- Whether a registered session is unregistered at a step: by a stop of its type, at the end of its own stream, or
with its process. -/
def Happening.Unregisters (entry : ResourceType × Session) : Happening → Prop
  | .stopped type session? => type = entry.1 ∧ session? = some entry.2
  | .resumed _ (.watch run) answer _ => run.Ends answer ∧ run.session = entry.2
  | .restarted => True
  | .requested _ | .served _ _ _ _ | .resumed _ _ _ _ | .shutDown | .changed => False

theorem Registry.Numbered.unregisters {r r' : Registry} {opened : List Session} (numbered : r.Numbered opened)
    {happening : Happening} (turnover : r.Turnover happening r')
    (own : ∀ registry run answer outcome, happening = .resumed registry (.watch run) answer outcome →
      run.session ∈ opened)
    {entry : ResourceType × Session} (member : entry ∈ r.sessions) (gone : entry ∉ r'.sessions) :
    happening.Unregisters entry := by
  have dropped : ∀ {type : ResourceType}, entry ∉ (r.dropSession type).sessions → entry.1 = type := by
    intro type gone
    refine Decidable.byContradiction fun other => gone (List.mem_filter.mpr ⟨member,?_⟩)
    simpa using other
  cases turnover with
  | kept _ _ same => exact (gone (by rw [same.sessions]; exact member)).elim
  | opened _ type target free begun => exact (gone (List.mem_append_left _ member)).elim
  | ended run answer outcome ends none =>
    unfold releaseSession at gone
    split at gone
    next released =>
      rw [← dropped gone,numbered.session?_of_mem member,Option.map_some,Option.some.injEq] at released
      have inside := own r run answer outcome rfl
      exact ⟨ends,numbered.eq_of_id inside (numbered.begun entry member) released.symm⟩
    next => exact (gone member).elim
  | stopped type =>
    rw [Turnover.stopWatching_sessions] at gone
    cases dropped gone
    exact ⟨rfl,numbered.session?_of_mem member⟩
  | restarted => trivial

/-! ## Streams -/

/-- The sessions whose streams are being read. -/
def World.streams (w : World) : List Session := w.pending.filterMap Pending.session?

theorem Activity.Outcome.streams_pending (o : Activity.Outcome) (now : Moment) :
    (o.pending now).filterMap Pending.session? = o.next.filterMap Pending.session? ++ o.sessions := by
  simp [o.filterMap_pending,Pending.session?,WatchRun.start]

/-- What goes on reads the stream that it read before. -/
theorem Activity.resume_streams (settings : EngineSettings) (now : Moment) (registry : Registry) (p : Pending)
    (answer : p.activity.demand.Answer) :
    ((p.activity.resume settings now registry answer).next.filterMap Pending.session?).Sublist
      p.session?.toList := by
  have named : ∀ q ∈ (p.activity.resume settings now registry answer).next, ∀ session,
      q.session? = some session → p.session? = some session := fun q member session held =>
    (Pending.session?_eq _ _ _).trans (Activity.resume_session? member held)
  unfold Outcome.next at named ⊢
  split at named
  next activity went =>
    cases held : Pending.session? ⟨activity,none⟩ with
    | none => simp [held]
    | some session => simp [held,named _ List.mem_cons_self session held]
  next => simp

theorem Activity.session?_of_isRequest {activity : Activity} (asked : activity.IsRequest) :
    Pending.session? ⟨activity,none⟩ = none := by
  cases activity <;> first | rfl | exact asked.elim

/-- After a step the streams of the sessions that begin are read, and no others that were not. -/
theorem Step.streams {settings : EngineSettings} {w w' : World} {happening : Happening}
    (step : Step settings w happening w') (lasting : happening ≠ .restarted) :
    ∃ kept, kept.Sublist w.streams ∧ w'.streams.Perm (happening.sessions ++ kept) := by
  have same : ∀ {streams : List Session}, streams = w.streams →
      ∃ kept, kept.Sublist w.streams ∧ streams.Perm ([] ++ kept) := by
    rintro _ rfl
    exact ⟨w.streams,.refl _,.refl _⟩
  cases step with
  | request activity asked => exact same (by simp [World.streams,Activity.session?_of_isRequest asked])
  | @serve before after activity place answer stored? served =>
    refine same ?_
    simp only [World.streams,place,List.filterMap_append,List.filterMap_cons]
    rw [Pending.session?_eq activity (some answer) none]
  | @resume before after p answer o now place taken went =>
    have next := Activity.resume_streams settings now w.registry p answer
    rw [went] at next
    refine ⟨before.filterMap Pending.session? ++ o.next.filterMap Pending.session? ++
      after.filterMap Pending.session?,?_,?_⟩
    · have read : w.streams =
          before.filterMap Pending.session? ++ p.session?.toList ++ after.filterMap Pending.session? := by
        simp only [World.streams,place,List.filterMap_append,List.filterMap_cons]
        cases p.session? <;> simp
      rw [read]
      exact (next.append_left _).append_right _
    · simp only [World.streams,List.filterMap_append,Activity.Outcome.streams_pending,List.append_assoc]
      exact ((List.perm_append_comm_assoc _ _ _).append_left _).trans (List.perm_append_comm_assoc _ _ _)
  | stop type => exact same rfl
  | shutDown => exact same rfl
  | change changed => exact same rfl
  | restart => exact (lasting rfl).elim

theorem Run.opened_of_streams {settings : EngineSettings} {history : List Happening} {w : World}
    (run : Run settings history w) {s : Session} (member : s ∈ w.streams) : s ∈ sessionsOpened history := by
  obtain ⟨p,inside,named⟩ := List.mem_filterMap.mp member
  exact run.opened_of_pending inside named

/-- The stream of a session is read once. -/
theorem Run.streams_nodup {settings : EngineSettings} {history : List Happening} {w : World}
    (run : Run settings history w) : w.streams.Nodup := by
  induction run with
  | start => exact List.nodup_nil
  | @step history w w' happening run step ih =>
    by_cases lasting : happening = .restarted
    · subst lasting
      cases step
      exact List.nodup_nil
    · obtain ⟨kept,fewer,now⟩ := step.streams lasting
      -- sessions that begin have new numbers, so they are apart from those that are being read
      obtain ⟨new,_,apart⟩ := List.nodup_append.mp (run.numbered.turnover step.turnover lasting).nodup
      refine now.nodup_iff.mpr (List.nodup_append.mpr ⟨new,ih.sublist fewer,?_⟩)
      exact fun s member other inside => apart s member other (run.opened_of_streams (fewer.subset inside))

/-! ## Calls -/

/-- The type that a call opens. -/
def Activity.opens? : Activity → Option ResourceType
  | .unopened type => some type
  | .opening o => some o.type
  | .task _ | .watch _ | .delivery _ | .arming _ | .reconciling _ | .reconciler _ => none

/-- What a step of a call tells: the type is watched, or nothing was changed. -/
structure Activity.Outcome.Reports (o : Activity.Outcome) (r : Registry) (type : ResourceType) : Prop where
  watched : o.progress = .finished (.outcome (.ok ())) → o.registry.isWatching type = true
  unchanged : o.progress ≠ .finished (.outcome (.ok ())) → o.registry = r ∧ o.sessions = []

theorem Registry.isWatching_opened (r : Registry) (type : ResourceType) (target : WatchTarget) :
    (r.opened type target).isWatching type = true := by
  simp only [isWatching,session?,opened,List.lookup_append,List.lookup_cons_self]
  cases r.sessions.lookup type <;> rfl

/-- An opening ends with its answer. Either it fails and changes nothing, or the type is watched. -/
theorem Opening.resume_cases (registry : Registry) (o : Opening) (answer : Except Fault WatchTarget) :
    (∃ fault, o.resume registry answer = { registry, progress := .finished (.error fault) }) ∨
      (o.resume registry answer).progress = .finished (.ok ()) ∧
        (o.resume registry answer).registry.isWatching o.type = true := by
  cases answer with
  | error fault => exact .inl ⟨fault,rfl⟩
  | ok target =>
    refine .inr ?_
    cases watched : registry.isWatching o.type with
    | true => simp [resume,Registry.registerSession,watched]
    | false =>
      simp only [resume,Registry.registerSession,watched,Bool.false_eq_true,if_false]
      exact ⟨trivial,registry.isWatching_opened o.type target⟩

theorem Activity.resume_reports (settings : EngineSettings) (now : Moment) (registry : Registry)
    (activity : Activity) (answer : activity.demand.Answer) {type : ResourceType}
    (call : activity.opens? = some type) : (activity.resume settings now registry answer).Reports registry type := by
  cases activity with
  | unopened other =>
    cases call
    change (ofOpening (Opening.start registry type)).Reports registry type
    refine ⟨fun ended => ?_,fun _ => ⟨rfl,rfl⟩⟩
    cases watched : registry.isWatching type with
    | true => exact watched
    | false => simp [ofOpening,Opening.start,watched,Progress.map] at ended
  | opening opening =>
    cases call
    change Except Fault WatchTarget at answer
    change (ofOpening (opening.resume registry answer)).Reports registry opening.type
    rcases opening.resume_cases registry answer with ⟨fault,failed⟩ | ⟨well,watched⟩
    · rw [failed]
      exact ⟨fun well => (by cases well),fun _ => ⟨rfl,rfl⟩⟩
    · exact ⟨fun _ => watched,fun failed => (failed (by simp [ofOpening,well,Progress.map])).elim⟩
  | task | watch | delivery | arming | reconciling | reconciler => cases call

theorem Run.reports {settings : EngineSettings} {history : List Happening} {w : World}
    (run : Run settings history w) {registry : Registry} {activity : Activity} {answer : activity.demand.Answer}
    {outcome : Activity.Outcome} (member : .resumed registry activity answer outcome ∈ history) {type : ResourceType}
    (call : activity.opens? = some type) : outcome.Reports registry type := by
  induction run with
  | start => cases member
  | step _ step ih =>
    rcases List.mem_cons.mp member with rfl | member
    · cases step with
      | resume before now place taken went =>
        subst went
        exact Activity.resume_reports _ _ _ _ _ call
    · exact ih member

/-- A registered session is unregistered by a stop of its type, at the end of its own stream, or with its process. -/
theorem Run.unregisters {settings : EngineSettings} {history : List Happening} {w w' : World}
    (run : Run settings history w) {happening : Happening} (step : Step settings w happening w')
    {entry : ResourceType × Session} (member : entry ∈ w.registry.sessions) (gone : entry ∉ w'.registry.sessions) :
    happening.Unregisters entry := by
  refine run.numbered.unregisters step.turnover ?_ member gone
  intro registry reader answer outcome same
  obtain ⟨answer?,_,inside,_⟩ := step.taken same
  exact run.opened_of_pending inside rfl

/-- In every run, calls that open types and stops of types may overlap in any way, and streams may end at any time.
A type has one session at a time, numbers of sessions are not used again, and each session that is registered has
one stream, which is read once. Nothing is started and no number is taken but with a session that begins. No session
is unregistered but by a stop of its type, at the end of its own stream, or with its process. A call that opens a type
ends well only when the type is watched; one that fails has changed nothing. -/
theorem Run.one_session_per_type {settings : EngineSettings} {history : List Happening} {w : World}
    (run : Run settings history w) :
    (w.registry.sessions.map (·.1)).Nodup ∧
      (sessionsOpened history).map (·.id) = (List.range' 1 w.registry.lastSession).reverse ∧
      ((∀ entry ∈ w.registry.sessions, entry.2 ∈ sessionsOpened history) ∧ w.streams.Nodup ∧
        ∀ s ∈ w.streams, s ∈ sessionsOpened history) ∧
      (∀ happening w', Step settings w happening w' →
        (happening ≠ .restarted → happening.sessions = [] → w'.registry.started = w.registry.started ∧
          w'.registry.lastSession = w.registry.lastSession) ∧
        (∀ s ∈ happening.sessions, ∃ type, w.registry.isWatching type = false ∧
          w'.registry.sessions = w.registry.sessions ++ [(type,s)]) ∧
        (∀ entry ∈ w'.registry.sessions, entry ∈ w.registry.sessions ∨ entry.2 ∈ happening.sessions) ∧
        ∀ entry ∈ w.registry.sessions, entry ∉ w'.registry.sessions → happening.Unregisters entry) ∧
      ∀ registry activity answer outcome, .resumed registry activity answer outcome ∈ history →
        ∀ type, activity.opens? = some type → outcome.Reports registry type := by
  have numbered := run.numbered
  refine ⟨numbered.types,numbered.ids,⟨numbered.begun,run.streams_nodup,?_⟩,?_,?_⟩
  · exact fun s member => run.opened_of_streams member
  · intro happening w' step
    exact ⟨step.turnover.unstarted,fun s => step.turnover.registers,fun entry => step.turnover.registered,
      fun entry => run.unregisters step⟩
  · exact fun registry activity answer outcome member type call => run.reports member call

namespace Sample

/-- Two calls open a type at the same time, and the later one finds it watched. The type is stopped and opened again,
and has a session with another number. -/
theorem one_session_per_type_reopened : ∃ history w, Run {} history w ∧
    w.registry.sessions.map (·.2.id) = [2] ∧ (sessionsOpened history).map (·.id) = [2,1] ∧
    (w.registry.sessions.map (·.1)).Nodup ∧
    (sessionsOpened history).map (·.id) = (List.range' 1 w.registry.lastSession).reverse := by
  have run := (Run.start : Run {} [] {}).step (.request (.opening ⟨type⟩) trivial)
  replace run := run.told (Except.ok target) rfl
  replace run := run.step (.request (.opening ⟨type⟩) trivial)
  replace run := (run.told (Except.ok target) rfl).goes moment rfl
  replace run := run.step (@Step.resume _ _ [_] [] ⟨.opening ⟨type⟩,some (.ok target)⟩ _ _ moment rfl (.inl rfl) rfl)
  replace run := run.step (.stop type)
  replace run := run.step (.request (.opening ⟨type⟩) trivial)
  replace run := (run.told (Except.ok target) rfl).goes moment rfl
  exact ⟨_,_,run,rfl,rfl,run.one_session_per_type.1,run.one_session_per_type.2.1⟩

end Sample
end Callout
