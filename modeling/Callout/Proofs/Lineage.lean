import Callout.Cluster.Discovery
import Callout.Proofs.Parking

/-!
Which tokens of a registry are cancelled. Whatever is done to a registry, in any order, the token of a task stays below
the one that its type's session had when the task was registered, and all others stay below the root
(`Registry.Lineage`). So a token is cancelled exactly if it was, or one of those above it was (`TokenTree.Marked`), and
what became of the session in between does not matter (`Registry.After.cancellation_tree`).
-/
namespace Callout

/-! ## Trees in which some tokens were cancelled -/

/-- Whether those tokens of a tree are cancelled that were cancelled themselves or are below such a one. -/
structure TokenTree.Marked (tree : TokenTree) (hit : Token → Prop) : Prop where
  grown : tree.Grown
  has : ∀ t, hit t → tree.Has t
  isCancelled : ∀ t, tree.Has t →
    (tree.isCancelled t = true ↔ hit t ∨ ∃ p, tree.parent? t = some p ∧ tree.isCancelled p = true)

namespace TokenTree.Marked
variable {tree : TokenTree} {hit : Token → Prop}

theorem new : Marked new fun _ => False := by
  refine ⟨grown_new,nofun,?_⟩
  rintro ⟨index⟩ inside
  cases index with
  | zero => simp [TokenTree.new,TokenTree.isCancelled,flagAt,parent?]
  | succ index => simp [Has,TokenTree.new] at inside

theorem child (marked : tree.Marked hit) {parent : Token} (inside : tree.Has parent) :
    (tree.child parent).1.Marked hit := by
  refine ⟨marked.grown.child inside,fun t member => has_child (marked.has t member),fun t member => ?_⟩
  rcases (has_child_iff tree parent t).mp member with old | rfl
  · rw [isCancelled_child old,parent?_child old,marked.isCancelled t old]
    refine or_congr_right (exists_congr fun p => and_congr_right fun hangs => ?_)
    have before : tree.Has p := Nat.lt_trans (marked.grown.earlier t p hangs) old
    rw [isCancelled_child before]
  · have unhit : ¬hit (tree.child parent).2 := fun member => not_has_new tree parent (marked.has _ member)
    simp [unhit,isCancelled_child inside]

theorem cancel (marked : tree.Marked hit) {t : Token} (inside : tree.Has t) :
    (tree.cancel t).Marked fun i => i = t ∨ hit i := by
  refine ⟨marked.grown.cancel t,?_,fun i member => ?_⟩
  · rintro i (rfl | member)
    · exact has_cancel.mpr inside
    · exact has_cancel.mpr (marked.has i member)
  · have old : tree.Has i := has_cancel.mp member
    have kept : ∀ p, tree.Has p → tree.isCancelled p = true → (tree.cancel t).isCancelled p = true :=
      fun p there before => (isCancelled_cancel marked.grown there).mpr (.inl before)
    rw [isCancelled_cancel marked.grown old,marked.isCancelled i old,parent?_cancel]
    constructor
    · rintro ((member | ⟨p,hangs,before⟩) | same | above)
      · exact .inl (.inr member)
      · exact .inr ⟨p,hangs,kept p (Nat.lt_trans (marked.grown.earlier i p hangs) old) before⟩
      · exact .inl (.inl same)
      · exact .inr above
    · rintro ((same | member) | above)
      · exact .inr (.inl same)
      · exact .inl (.inl member)
      · exact .inr (.inr above)

theorem congr (marked : tree.Marked hit) {hit' : Token → Prop} (same : ∀ t, hit' t ↔ hit t) : tree.Marked hit' := by
  have equal : hit' = hit := funext fun t => propext (same t)
  rw [equal]
  exact marked

end TokenTree.Marked

namespace Registry

/-! ## What is done to a registry -/

/-- Something that is done to a registry, and the session or the token that is handed out for it. -/
inductive Deed where
  | sessionRegistered (type : ResourceType) (target : WatchTarget) (session? : Option Session)
  | sessionRemoved (type : ResourceType)
  | sessionReleased (type : ResourceType) (id : SessionId)
  | taskRegistered (key : TaskKey) (type : ResourceType) (token? : Option Token)
  | taskRemoved (key : TaskKey)
  | claimed (key : ClaimKey)
  | claimReleased (key : ClaimKey)
  | started
  | cancelled (token : Token)
deriving DecidableEq

/-- What a deed makes of a registry. Only tokens that were handed out can be cancelled. -/
inductive Does (r : Registry) : Deed → Registry → Prop where
  | registerSession (type : ResourceType) (target : WatchTarget) :
      Does r (.sessionRegistered type target (r.registerSession type target).2) (r.registerSession type target).1
  | removeSession (type : ResourceType) : Does r (.sessionRemoved type) (r.removeSession type).1
  | releaseSession (type : ResourceType) (id : SessionId) :
      Does r (.sessionReleased type id) (r.releaseSession type id).1
  | registerTask (key : TaskKey) (type : ResourceType) :
      Does r (.taskRegistered key type (r.registerTask key type).2) (r.registerTask key type).1
  | removeTask (key : TaskKey) : Does r (.taskRemoved key) (r.removeTask key).1
  | claim (key : ClaimKey) : Does r (.claimed key) (r.claim key).1
  | release (key : ClaimKey) : Does r (.claimReleased key) (r.release key).1
  | markStarted : Does r .started r.markStarted.1
  | cancel (token : Token) (has : r.tokens.Has token) : Does r (.cancelled token) (r.cancel token)

/-- The registry that was new before some deeds, latest first. -/
inductive After : List Deed → Registry → Prop where
  | new : After [] {}
  | step {deeds : List Deed} {deed : Deed} {r r' : Registry} (after : After deeds r) (does : r.Does deed r') :
      After (deed :: deeds) r'

/-- The session that a type has after some deeds. It is the last that was registered for the type, unless the type's
session was removed since, or released under its own number. -/
def sessionAfter : List Deed → ResourceType → Option Session
  | [], _ => none
  | .sessionRegistered watched _ session? :: deeds, type =>
    if type = watched then session?.or (sessionAfter deeds type) else sessionAfter deeds type
  | .sessionRemoved closed :: deeds, type => if type = closed then none else sessionAfter deeds type
  | .sessionReleased closed id :: deeds, type =>
    if type = closed ∧ (sessionAfter deeds type).map (·.id) = some id then none else sessionAfter deeds type
  | .taskRegistered _ _ _ :: deeds, type | .taskRemoved _ :: deeds, type | .claimed _ :: deeds, type
  | .claimReleased _ :: deeds, type | .started :: deeds, type | .cancelled _ :: deeds, type => sessionAfter deeds type

/-- The session that is handed out with a deed. -/
def Deed.session? : Deed → Option Session
  | .sessionRegistered _ _ session? => session?
  | .taskRegistered _ _ _ | .sessionRemoved _ | .sessionReleased _ _ | .taskRemoved _ | .claimed _
  | .claimReleased _ | .started | .cancelled _ => none

/-- The token that is handed out with a deed. -/
def Deed.token? : Deed → Option Token
  | .sessionRegistered _ _ session? => session?.map (·.token)
  | .taskRegistered _ _ token? => token?
  | .sessionRemoved _ | .sessionReleased _ _ | .taskRemoved _ | .claimed _ | .claimReleased _ | .started
  | .cancelled _ => none

/-- The token below which one is handed out with a deed, after others. -/
def Deed.above (earlier : List Deed) : Deed → Token
  | .taskRegistered _ type _ => Session.above (sessionAfter earlier type)
  | .sessionRegistered _ _ _ | .sessionRemoved _ | .sessionReleased _ _ | .taskRemoved _ | .claimed _
  | .claimReleased _ | .started | .cancelled _ => root

variable {r r' : Registry} {deeds : List Deed} {deed : Deed}

/-! ## Sessions -/

theorem session?_dropSession (r : Registry) (type other : ResourceType) :
    (r.dropSession type).session? other = if other = type then none else r.session? other := by
  simp only [session?,dropSession]
  induction r.sessions with
  | nil => simp
  | cons head rest ih =>
    obtain ⟨k,v⟩ := head
    by_cases same : k = type <;> grind

theorem session?_registerSession (r : Registry) (type : ResourceType) (target : WatchTarget) (other : ResourceType) :
    (r.registerSession type target).1.session? other =
      if other = type then (r.registerSession type target).2.or (r.session? other) else r.session? other := by
  unfold registerSession
  split
  · simp
  · rename_i free
    have unwatched : r.session? type = none := by simpa [isWatching] using free
    by_cases same : other = type
    · subst same
      simp only [session?] at unwatched
      simp [session?,List.lookup_append,unwatched]
    · simp [session?,List.lookup_append,List.lookup_cons,beq_eq_false_iff_ne.mpr same,same]

theorem session?_releaseSession (r : Registry) (type : ResourceType) (id : SessionId) (other : ResourceType) :
    (r.releaseSession type id).1.session? other =
      if other = type ∧ (r.session? other).map (·.id) = some id then none else r.session? other := by
  unfold releaseSession
  split
  · rename_i own
    rw [session?_dropSession]
    by_cases same : other = type
    · subst same
      rw [if_pos rfl,if_pos ⟨rfl,own⟩]
    · rw [if_neg same,if_neg fun both => same both.1]
  · rename_i stale
    rw [if_neg]
    rintro ⟨rfl,own⟩
    exact stale own

theorem After.session?_eq (after : After deeds r) (type : ResourceType) :
    r.session? type = sessionAfter deeds type := by
  induction after with
  | new => rfl
  | @step deeds deed r r' _ does ih =>
    cases does with
    | registerSession watched target => rw [session?_registerSession,ih,sessionAfter]
    | removeSession closed => exact (session?_dropSession r closed type).trans (by rw [ih,sessionAfter])
    | releaseSession closed id => rw [session?_releaseSession,ih,sessionAfter]
    | registerTask key type =>
      unfold registerTask
      split
      · exact ih
      · exact ih
    | removeTask key => exact ih
    | claim key =>
      unfold claim
      split
      · exact ih
      · exact ih
    | release key => exact ih
    | markStarted => exact ih
    | cancel token has => exact ih

/-- The session that a type has after some deeds was registered with one of them. -/
theorem registered_of_sessionAfter {type : ResourceType} {session : Session}
    (has : sessionAfter deeds type = some session) :
    ∃ later target earlier, deeds = later ++ .sessionRegistered type target (some session) :: earlier := by
  have further {deeds : List Deed} (deed : Deed)
      (found : ∃ later target earlier, deeds = later ++ .sessionRegistered type target (some session) :: earlier) :
      ∃ later target earlier, deed :: deeds = later ++ .sessionRegistered type target (some session) :: earlier := by
    obtain ⟨later,target,earlier,rfl⟩ := found
    exact ⟨deed :: later,target,earlier,rfl⟩
  induction deeds with
  | nil => cases has
  | cons deed deeds ih =>
    cases deed with
    | sessionRegistered watched target session? =>
      rw [sessionAfter] at has
      split at has
      · rename_i same
        subst same
        cases session? with
        | none => exact further _ (ih has)
        | some other =>
          cases has
          exact ⟨[],target,deeds,rfl⟩
      · exact further _ (ih has)
    | sessionRemoved closed =>
      rw [sessionAfter] at has
      split at has
      · cases has
      · exact further _ (ih has)
    | sessionReleased closed id =>
      rw [sessionAfter] at has
      split at has
      · cases has
      · exact further _ (ih has)
    | taskRegistered | taskRemoved | claimed | claimReleased | started | cancelled => exact further _ (ih has)

/-! ## Tokens -/

/-- What a deed makes of the tokens, after others: nothing, one more, which is handed out, or a cancelling. -/
inductive Alters (tree : TokenTree) (deeds : List Deed) : Deed → TokenTree → Prop where
  | not {deed : Deed} (silent : deed.token? = none) (mild : ∀ t, deed ≠ .cancelled t) : Alters tree deeds deed tree
  | grows {deed : Deed} (parent : Token) (below : deed.above deeds = parent)
      (handed : deed.token? = some (tree.child parent).2) : Alters tree deeds deed (tree.child parent).1
  | cancels {token : Token} (has : tree.Has token) : Alters tree deeds (.cancelled token) (tree.cancel token)

theorem Does.alters (does : r.Does deed r') (after : After deeds r) : Alters r.tokens deeds deed r'.tokens := by
  cases does with
  | registerSession type target =>
    unfold Registry.registerSession
    split
    · exact .not rfl nofun
    · exact .grows root rfl rfl
  | removeSession type => exact .not rfl nofun
  | releaseSession type id =>
    unfold Registry.releaseSession
    split
    · exact .not rfl nofun
    · exact .not rfl nofun
  | registerTask key type =>
    unfold Registry.registerTask
    split
    · exact .not rfl nofun
    · exact .grows (r.parentFor type) (congrArg Session.above (after.session?_eq type).symm) rfl
  | removeTask key => exact .not rfl nofun
  | claim key =>
    unfold Registry.claim
    split
    · exact .not rfl nofun
    · exact .not rfl nofun
  | release key => exact .not rfl nofun
  | markStarted => exact .not rfl nofun
  | cancel token has => exact .cancels has

/-- What holds of the tokens after some deeds: one that was handed out is below the one that it was made below, and
those are cancelled that were, or are below one that is. -/
structure Lineage (deeds : List Deed) (tree : TokenTree) : Prop where
  marked : tree.Marked fun t => .cancelled t ∈ deeds
  parent? : ∀ later deed earlier t, deeds = later ++ deed :: earlier → deed.token? = some t →
    tree.parent? t = some (deed.above earlier)

namespace Lineage
variable {tree tree' : TokenTree}

theorem has (lineage : Lineage deeds tree) {later earlier : List Deed} {t : Token}
    (place : deeds = later ++ deed :: earlier) (handed : deed.token? = some t) : tree.Has t :=
  TokenTree.has_of_parent? (lineage.parent? later deed earlier t place handed)

/-- The token below which another one would be handed out is there. -/
theorem has_above (lineage : Lineage deeds tree) (deed : Deed) : tree.Has (deed.above deeds) := by
  have rooted : tree.Has root := lineage.marked.grown.rooted
  cases deed with
  | taskRegistered key type token? =>
    simp only [Deed.above]
    cases watched : sessionAfter deeds type with
    | none => exact rooted
    | some session =>
      obtain ⟨later,target,earlier,place⟩ := registered_of_sessionAfter watched
      exact lineage.has place rfl
  | sessionRegistered | sessionRemoved | sessionReleased | taskRemoved | claimed | claimReleased | started
  | cancelled => exact rooted

/-- A tree in which all that were there stay below the same, and in which what was just handed out is below the one
that it was made below. -/
theorem parent?_cons (lineage : Lineage deeds tree) (kept : ∀ t, tree.Has t → tree'.parent? t = tree.parent? t)
    (handed : ∀ t, deed.token? = some t → tree'.parent? t = some (deed.above deeds)) :
    ∀ later other earlier t, deed :: deeds = later ++ other :: earlier → other.token? = some t →
      tree'.parent? t = some (other.above earlier) := by
  intro later other earlier t place made
  rcases List.cons_eq_append_iff.mp place with ⟨rfl,last⟩ | ⟨later',rfl,before⟩
  · cases last
    exact handed t made
  · rw [kept t (lineage.has before made)]
    exact lineage.parent? later' other earlier t before made

theorem alters (lineage : Lineage deeds tree) (alters : Alters tree deeds deed tree') :
    Lineage (deed :: deeds) tree' := by
  cases alters with
  | not silent mild =>
    refine ⟨lineage.marked.congr fun t => ?_,lineage.parent?_cons (fun _ _ => rfl) ?_⟩
    · simp [(mild t).symm]
    · simp [silent]
  | grows parent below handed =>
    subst below
    have mild (t : Token) : Deed.cancelled t ≠ deed := by
      rintro rfl
      cases handed
    refine ⟨(lineage.marked.child (lineage.has_above deed)).congr fun t => ?_,
      lineage.parent?_cons (fun _ => TokenTree.parent?_child) fun t made => ?_⟩
    · simp [mild t]
    · cases handed.symm.trans made
      exact TokenTree.parent?_new _ _
  | cancels has =>
    refine ⟨(lineage.marked.cancel has).congr fun t => ?_,
      lineage.parent?_cons (fun t _ => TokenTree.parent?_cancel _ _ t) nofun⟩
    simp

end Lineage

theorem After.lineage (after : After deeds r) : Lineage deeds r.tokens := by
  induction after with
  | new => exact ⟨TokenTree.Marked.new.congr (by simp),by simp⟩
  | step after does ih => exact ih.alters (does.alters after)

namespace Lineage
variable {tree : TokenTree} {later earlier : List Deed} {type : ResourceType}

theorem root_iff (lineage : Lineage deeds tree) : tree.isCancelled root = true ↔ .cancelled root ∈ deeds := by
  have top : tree.parent? root = none := lineage.marked.grown.top
  rw [lineage.marked.isCancelled root lineage.marked.grown.rooted,top]
  simp

theorem session_iff (lineage : Lineage deeds tree) {target : WatchTarget} {session : Session}
    (place : deeds = later ++ .sessionRegistered type target (some session) :: earlier) :
    tree.isCancelled session.token = true ↔ .cancelled root ∈ deeds ∨ .cancelled session.token ∈ deeds := by
  have hangs := lineage.parent? _ _ _ session.token place rfl
  rw [lineage.marked.isCancelled _ (lineage.has place rfl),hangs,or_comm]
  simp [Deed.above,lineage.root_iff]

theorem task_iff (lineage : Lineage deeds tree) {key : TaskKey} {token : Token}
    (place : deeds = later ++ .taskRegistered key type (some token) :: earlier) :
    tree.isCancelled token = true ↔ .cancelled root ∈ deeds ∨ .cancelled token ∈ deeds ∨
      ∃ session, sessionAfter earlier type = some session ∧ .cancelled session.token ∈ deeds := by
  have hangs := lineage.parent? _ _ _ token place rfl
  rw [lineage.marked.isCancelled _ (lineage.has place rfl),hangs]
  simp only [Deed.above,Option.some.injEq,exists_eq_left']
  cases watched : sessionAfter earlier type with
  | none =>
    have unowned : Session.above none = root := rfl
    simp [unowned,lineage.root_iff,or_comm]
  | some session =>
    obtain ⟨between,target,before,registered⟩ := registered_of_sessionAfter watched
    have owned : Session.above (some session) = session.token := rfl
    rw [owned,lineage.session_iff (by rw [place,registered,← List.cons_append,← List.append_assoc])]
    simp [or_left_comm]

end Lineage

/-! ## What is watched -/

theorem After.numbered (after : After deeds r) : r.Numbered (deeds.filterMap Deed.session?) := by
  induction after with
  | new => exact ⟨List.nodup_nil,by simp,rfl⟩
  | @step deeds deed r r' _ does ih =>
    have kept : ∀ {r' : Registry}, r.SameSessions r' → r'.Numbered (deeds.filterMap Deed.session?) := ih.sameSessions
    cases does with
    | registerSession type target =>
      cases free : r.isWatching type with
      | true =>
        simp only [registerSession,free,if_true]
        exact ih
      | false =>
        have more : (r.opened type target).Numbered _ := ih.register free
        simp only [registerSession,free]
        exact ⟨more.types,more.begun,more.ids⟩
    | removeSession type => exact ih.drop type
    | releaseSession type id => exact ih.release type id
    | registerTask key type =>
      unfold registerTask
      split
      · exact ih
      · exact kept ⟨rfl,rfl,rfl⟩
    | removeTask key => exact kept ⟨rfl,rfl,rfl⟩
    | claim key =>
      unfold claim
      split
      · exact ih
      · exact kept ⟨rfl,rfl,rfl⟩
    | release key => exact kept ⟨rfl,rfl,rfl⟩
    | markStarted => exact ⟨ih.types,ih.begun,ih.ids⟩
    | cancel token has => exact kept ⟨rfl,rfl,rfl⟩

theorem registerSession_target (r : Registry) (type : ResourceType) (target : WatchTarget) :
    ∀ session ∈ (r.registerSession type target).2, session.target = target := by
  unfold registerSession
  split
  · exact nofun
  · rintro session ⟨⟩
    rfl

theorem After.target (after : After deeds r) {type : ResourceType} {target : WatchTarget} {session : Session}
    (registered : .sessionRegistered type target (some session) ∈ deeds) : session.target = target := by
  induction after with
  | new => cases registered
  | step _ does ih =>
    rcases List.mem_cons.mp registered with same | before
    · cases does with
      | registerSession type' target' =>
        obtain ⟨-,rfl,handed⟩ := Deed.sessionRegistered.inj same
        exact registerSession_target _ _ _ session handed.symm
      | removeSession | releaseSession | registerTask | removeTask | claim | release | markStarted | cancel =>
        cases same
    · exact ih before

theorem watched_perm (r : Registry) : r.watched.Perm (r.sessions.map (·.2.target)) := List.mergeSort_perm _ _

theorem watched_sorted (r : Registry) :
    r.watched.Pairwise fun a b => (a.type.compare b.type).isLE = true := by
  refine List.pairwise_mergeSort (fun _ _ _ => Std.TransCmp.isLE_trans) (fun a b => ?_) _
  cases order : a.type.compare b.type with
  | lt | eq => rfl
  | gt => simp [Std.OrientedCmp.lt_of_gt order]

namespace After

theorem mem_sessions_iff (after : After deeds r) {type : ResourceType} {session : Session} :
    (type,session) ∈ r.sessions ↔ sessionAfter deeds type = some session := by
  rw [← after.session?_eq]
  constructor
  · exact after.numbered.session?_of_mem
  · intro found
    obtain ⟨before,rest,place,_⟩ := List.lookup_eq_some_iff.mp found
    exact mem_of_place place

theorem mem_watched_iff (after : After deeds r) {target : WatchTarget} :
    target ∈ r.watched ↔ ∃ type session, sessionAfter deeds type = some session ∧ session.target = target := by
  rw [r.watched_perm.mem_iff,List.mem_map]
  constructor
  · rintro ⟨⟨type,session⟩,inside,rfl⟩
    exact ⟨type,session,after.mem_sessions_iff.mp inside,rfl⟩
  · rintro ⟨type,session,has,rfl⟩
    exact ⟨(type,session),after.mem_sessions_iff.mpr has,rfl⟩

/-- What is watched has as many types as there are sessions, if every session was registered for the type of its
target. -/
theorem watched_types (after : After deeds r)
    (own : ∀ type target session?, .sessionRegistered type target session? ∈ deeds → target.type = type) :
    (r.watched.map (·.type)).Nodup := by
  have same : (r.sessions.map (·.2.target)).map (·.type) = r.sessions.map (·.1) := by
    rw [List.map_map]
    refine List.map_congr_left fun entry inside => ?_
    obtain ⟨later,target,earlier,place⟩ := registered_of_sessionAfter (after.mem_sessions_iff.mp inside)
    have registered := mem_of_place place
    exact (congrArg _ (after.target registered)).trans (own _ _ _ registered)
  rw [(r.watched_perm.map _).nodup_iff,same]
  exact after.numbered.types

/-- Whatever was done to a registry, in any order, and whatever became of its sessions. A token of a task is cancelled
exactly if the root was, or itself, or the token of the session that its type had when it was registered. A token of a
session is cancelled exactly if the root was, or itself. What is watched are the targets of the sessions that are
registered, in the order of their types, and each type once, if sessions are registered for the types of their targets,
as they are when the targets were looked up (`Cluster.Discovery.resolve_type`). -/
theorem cancellation_tree (after : After deeds r) :
    (∀ later key type token earlier, deeds = later ++ .taskRegistered key type (some token) :: earlier →
      (r.isCancelled token = true ↔ .cancelled root ∈ deeds ∨ .cancelled token ∈ deeds ∨
        ∃ session, sessionAfter earlier type = some session ∧ .cancelled session.token ∈ deeds)) ∧
    (∀ type target session, .sessionRegistered type target (some session) ∈ deeds →
      (r.isCancelled session.token = true ↔ .cancelled root ∈ deeds ∨ .cancelled session.token ∈ deeds)) ∧
    (∀ target, target ∈ r.watched ↔
      ∃ type session, sessionAfter deeds type = some session ∧ session.target = target) ∧
    (r.watched.Pairwise fun a b => (a.type.compare b.type).isLE = true) ∧
    ((∀ type target session?, .sessionRegistered type target session? ∈ deeds → target.type = type) →
      r.watched.Pairwise fun a b => a.type.compare b.type = .lt) := by
  have lineage := after.lineage
  refine ⟨fun later key type token earlier place => lineage.task_iff place,fun type target session registered => ?_,
    fun target => after.mem_watched_iff,r.watched_sorted,fun own => ?_⟩
  · obtain ⟨later,earlier,place⟩ := List.append_of_mem registered
    exact lineage.session_iff place
  · refine (r.watched_sorted.and (List.pairwise_map.mp (after.watched_types own))).imp fun {a b} both => ?_
    obtain ⟨le,apart⟩ := both
    cases order : a.type.compare b.type with
    | lt => rfl
    | eq => exact absurd (ResourceType.eq_of_compare order) apart
    | gt => simp [order] at le

end After
end Registry

/-- A type is looked up with one question, and only targets of the type are found. -/
theorem Cluster.Discovery.resolve_type (type : ResourceType) :
    ∃ request read, resolve type = .asking request read ∧ ∀ r target, read r = .ok target → target.type = type := by
  refine ⟨_,_,rfl,fun r target found => ?_⟩
  dsimp only at found
  split at found
  · cases found
  · split at found
    next entries _ target' named =>
      cases found
      obtain ⟨entry,_,named⟩ := Option.bind_eq_some_iff.1 named
      obtain ⟨first,_,same⟩ := Option.bind_eq_some_iff.1 named
      cases same
      rfl
    · cases found

namespace Sample
open Registry (After)

/-- The key of the task of one of the actions of a rule. -/
def keyAt (action : Nat) : TaskKey := ⟨⟨"default", "r"⟩, "uid-a", action, .create⟩

/-- A type gets a session and a task, then another session in place of the first, and another task. At the end the
first session is cancelled, which is not the type's any more. -/
def replaced : List Registry.Deed :=
  [.cancelled ⟨1⟩, .taskRegistered (keyAt 1) type (some ⟨4⟩), .sessionRegistered type target (some ⟨2, target, ⟨3⟩⟩),
    .sessionReleased type 1, .taskRegistered (keyAt 0) type (some ⟨2⟩),
    .sessionRegistered type target (some ⟨1, target, ⟨1⟩⟩)]

/-- The task of the first session is cancelled with it, and the other task is not. -/
theorem cancellation_tree_of_replaced : ∃ r, After replaced r ∧ r.isCancelled ⟨2⟩ = true ∧ r.isCancelled ⟨4⟩ = false ∧
    r.watched = [target] ∧ r.watched.Pairwise fun a b => a.type.compare b.type = .lt := by
  have after := After.new.step (.registerSession type target)
  replace after := after.step (.registerTask (keyAt 0) type)
  replace after := after.step (.releaseSession type 1)
  replace after := after.step (.registerSession type target)
  replace after := after.step (.registerTask (keyAt 1) type)
  replace after : After replaced _ := after.step (.cancel ⟨1⟩ (show 1 < _ by decide))
  obtain ⟨tasks,_,_,_,ordered⟩ := after.cancellation_tree
  refine ⟨_,after,?_,?_,by decide +kernel,ordered ?_⟩
  · exact (tasks [_,_,_,_] (keyAt 0) type ⟨2⟩ [_] rfl).mpr (.inr (.inr ⟨⟨1,target,⟨1⟩⟩,rfl,by decide⟩))
  · refine Bool.eq_false_iff.mpr fun cancelled => ?_
    rcases (tasks [_] (keyAt 1) type ⟨4⟩ [_,_,_,_] rfl).mp cancelled with shut | own | ⟨session,has,stopped⟩
    · exact absurd shut (by decide)
    · exact absurd own (by decide)
    · cases has
      exact absurd stopped (by decide)
  · intro watched found session? registered
    simp only [replaced,List.mem_cons,List.not_mem_nil,Registry.Deed.sessionRegistered.injEq,reduceCtorEq,false_or,
      or_false] at registered
    rcases registered with ⟨rfl,rfl,_⟩ | ⟨rfl,rfl,_⟩
    · rfl
    · rfl

def secretType : ResourceType := ⟨"", "v1", "Secret"⟩

/-- Two types get sessions with one target, which is of the first type. -/
def doubled : List Registry.Deed :=
  [.sessionRegistered secretType target (some ⟨2, target, ⟨2⟩⟩), .sessionRegistered type target (some ⟨1, target, ⟨1⟩⟩)]

/-- The target is watched twice, so the types of what is watched do not increase. -/
theorem watched_twice_of_doubled : ∃ r, After doubled r ∧ r.watched = [target,target] ∧
    ¬r.watched.Pairwise fun a b => a.type.compare b.type = .lt := by
  obtain ⟨r,after,targets⟩ : ∃ r, After doubled r ∧ r.sessions.map (·.2.target) = List.replicate 2 target :=
    ⟨_,(After.new.step (.registerSession type target)).step (.registerSession secretType target),rfl⟩
  have watched := r.watched_perm
  rw [targets] at watched
  have twice : r.watched = [target,target] := List.perm_replicate.mp watched
  refine ⟨r,after,twice,?_⟩
  rw [twice]
  decide

end Sample
end Callout
