import Callout.Proofs.Attempts

/-!
What an execution does, in the order in which it does it: questions for secrets, a question for the addresses of a host,
a body that is made of its template, and then requests and pauses. A computation tells these moves beside its result;
told so, an execution comes to what an exchange comes to, and prepares all before it attempts anything
(`executing_follows`).
-/
namespace Callout.Http

/-! ## Moves -/

/-- What an execution does beside computing. -/
inductive Move where
  /-- A question for a secret. -/
  | asked (space name : String)
  /-- A question for the addresses of a host with a port. -/
  | looked (host : String) (port : Nat)
  | rendered (template : String)
  | sent (request : Request)
  | paused (span : Span)

namespace Move

/-- Whether a move is part of an attempt or between two. -/
def IsAttempt : Move → Prop
  | .sent _ | .paused _ => True
  | .asked _ _ | .looked _ _ | .rendered _ => False

/-- The secrets that were asked for. -/
def reads (moves : List Move) : List (String × String) :=
  moves.filterMap fun | .asked space name => some (space, name) | _ => none

def templates (moves : List Move) : List String := moves.filterMap fun | .rendered template => some template | _ => none

def requests (moves : List Move) : List Request := moves.filterMap fun | .sent request => some request | _ => none

def pauses (moves : List Move) : List Span := moves.filterMap fun | .paused span => some span | _ => none

@[simp] theorem reads_append (before after : List Move) : reads (before ++ after) = reads before ++ reads after :=
  List.filterMap_append

@[simp] theorem templates_append (before after : List Move) :
    templates (before ++ after) = templates before ++ templates after :=
  List.filterMap_append

@[simp] theorem requests_append (before after : List Move) :
    requests (before ++ after) = requests before ++ requests after :=
  List.filterMap_append

@[simp] theorem pauses_append (before after : List Move) : pauses (before ++ after) = pauses before ++ pauses after :=
  List.filterMap_append

theorem requests_of_preparing {moves : List Move} (preparing : ∀ move ∈ moves, ¬ move.IsAttempt) :
    requests moves = [] ∧ pauses moves = [] := by
  constructor <;>
  · refine List.filterMap_eq_nil_iff.mpr fun move member => ?_
    cases move with
    | sent | paused => exact absurd trivial (preparing _ member)
    | asked | looked | rendered => rfl

theorem reads_of_attempts {moves : List Move} (attempts : ∀ move ∈ moves, move.IsAttempt) :
    reads moves = [] ∧ templates moves = [] := by
  constructor <;>
  · refine List.filterMap_eq_nil_iff.mpr fun move member => ?_
    cases move with
    | sent | paused => rfl
    | asked | looked | rendered => exact (attempts _ member).elim

end Move

/-! ## Computations that tell their moves -/

variable [Credentials]

/-- What an execution meets: the store of secrets at each question, and all else. -/
structure Milieu where
  vault : Vault
  network : Network

/-- A computation that tells its moves. It is given what it meets, and how many questions were asked before. -/
def Acting (α : Type) : Type := Milieu → Nat → α × List Move

namespace Acting
variable {α β : Type}

def bind (x : Acting α) (f : α → Acting β) : Acting β := fun m i =>
  let first := x m i
  let second := f first.1 m (i + (Move.reads first.2).length)
  (second.1, first.2 ++ second.2)

instance : Monad Acting where
  pure a := fun _ _ => (a, [])
  bind := bind

end Acting

/-- What a query comes to, with its questions. -/
def asking {α : Type} (q : ExceptT Fault Query α) : ExceptT Fault Acting α :=
  ExceptT.mk fun m i =>
    let answered := q.run.answered m.vault i
    (answered.1, answered.2.map fun read => .asked read.1 read.2)

def looking (host : String) (port : Nat) : Acting (Except String (List String)) :=
  fun m _ => (m.network.lookup host port, [.looked host port])

/-- The text that a template makes of an object. -/
def rendering (template : String) (object : Snapshot) : Acting (Except Template.Error String) :=
  fun _ _ => (Template.render template object.context, [.rendered template])

def sending (request : Request) (attempt : Nat) : Acting Answer :=
  fun m _ => (m.network.answer request attempt, [.sent request])

/-- A pause, unless it cannot be represented. -/
def pausing (policy : RetryPolicy) (attempt : Nat) : Acting (Option Unit) :=
  fun m _ =>
    match policy.delay? attempt (m.network.draw attempt) with
    | none => (none, [])
    | some pause => (some (), [.paused pause])

/-! ## Executions -/

/-- A request sent to a host under another name, with the question for the host's addresses. -/
def pinning (name : String) (p : Prepared) : ExceptT Fault Acting Prepared :=
  match p.request.url.host? with
  | none => throw (.config (.addressWithoutHost p.request.url.toText))
  | some host =>
    if host.bare.map Char.toLower = name.map Char.toLower then pure p
    else do
      match ← looking host.bare (p.request.url.portOrUsual?.getD 443) with
      | .error cause => throw (.network ("resolving " ++ host.bare ++ ": " ++ cause))
      | .ok addresses =>
        match p.request.url.withHost name with
        | .error cause => throw (.config (.serverName name cause))
        | .ok url =>
          let headers := orHeader p.request.headers "host" (hostText host p.request.url)
          pure { p with request := { p.request with url, headers }, pinned := some (name, addresses) }

def composing (body? : Option Body) (object : Snapshot) : ExceptT Fault Acting (Option String) :=
  match body? with
  | none => pure none
  | some body => do
    match ← rendering body.template object with
    | .error cause => throw (.config (.template cause))
    | .ok text => pure (some text)

/-- A request without its body, before anything is built for it. -/
def outlining (c : Call) : ExceptT Fault Acting Prepared := do
  let timeout ← asking (configured (durationOr "timeout" c.action.timeout? usualTimeout))
  let method ← asking (configured (readMethod c.action.method?))
  let url ← asking (configured ((Url.parse c.action.url).mapError (.address c.action.url)))
  let headers ← asking (configured (readHeaders c.headers))
  let client ← asking (ExceptT.adapt Fault.config (clientOf c.space c.action.tls?))
  let bare : Prepared := { client, request := { method, url, headers, body? := none }, timeout }
  match pinnedName? c.action.tls? with
  | none => pure bare
  | some name => pinning name bare

def building (p : Prepared) : ExceptT Fault Acting Unit :=
  ExceptT.mk fun m _ => (((m.network.build p.client p.timeout p.pinned).mapError .unbuilt).mapError .config, [])

/-- What is settled before a request is sent. -/
def preparing (c : Call) : ExceptT Fault Acting Prepared := do
  let p ← outlining c
  building p
  return p.withBody (← composing c.action.body? c.object)

/-- The attempts from one on, when this many are left. There is no result if a pause cannot be represented. -/
def attempting (t : Terms) (request : Request) : Nat → Nat → Acting (Option (Except Fault Unit))
  | 0, _ => pure (some (.error (.exhausted t.policy.maxAttempts)))
  | left + 1, attempt => do
    match t.judge attempt (← sending request attempt) with
    | .final result => return some result
    | .again =>
      match ← pausing t.policy attempt with
      | none => return none
      | some () => attempting t request left (attempt + 1)

/-- All that comes before the attempts: first the terms, then the request. -/
def readying [Patterns] (c : Call) : ExceptT Fault Acting (Terms × Prepared) := do
  return (← asking (configured (Terms.ofAction c.action)), ← preparing c)

/-- An execution. -/
def executing [Patterns] (c : Call) : Acting (Option (Except Fault Unit)) := do
  match ← (readying c).run with
  | .error fault => return some (.error fault)
  | .ok (t, p) => attempting t p.request t.policy.maxAttempts 1

/-! ## The same in both forms -/

section
variable {α β : Type}

/-- Parts of an execution, one after the other. -/
theorem acting_bind_except (m : Milieu) (i : Nat) (x : ExceptT Fault Acting α) (f : α → ExceptT Fault Acting β) :
    (x >>= f).run m i =
      match x.run m i with
      | (.error fault, moves) => (.error fault, moves)
      | (.ok a, moves) =>
        let second := (f a).run m (i + (Move.reads moves).length)
        (second.1, moves ++ second.2) := by
  change Acting.bind x.run _ m i = _
  simp only [Acting.bind]
  generalize x.run m i = first
  obtain ⟨result,moves⟩ := first
  cases result with
  | error fault => simp only [ExceptT.bindCont,pure,List.append_nil]
  | ok a => rfl

/-- A part that asks for nothing, and what follows. -/
theorem asking_configured (m : Milieu) (i : Nat) (part : Except Misconfiguration α)
    (f : α → ExceptT Fault Acting β) :
    (asking (configured part) >>= f).run m i =
      match part with
      | .error cause => (.error (.config cause), [])
      | .ok a => (f a).run m i := by
  rw [acting_bind_except]
  cases part <;> rfl

/-- A step that cannot fail, as part of an execution. -/
theorem liftM_run (m : Milieu) (i : Nat) (x : Acting α) :
    (liftM x : ExceptT Fault Acting α).run m i = (.ok (x m i).1,(x m i).2) := by
  change ((Except.ok (x m i).1 : Except Fault α),(x m i).2 ++ []) = _
  rw [List.append_nil]

/-- Whether a computation does what a query does, sends nothing, and renders at most so many templates. -/
structure Mirrors (network : Network) (renders : Nat) (x : ExceptT Fault Acting α) (q : ExceptT Fault Query α) :
    Prop where
  result : ∀ vault i, (x.run ⟨vault,network⟩ i).1 = (q.run.answered vault i).1
  reads : ∀ vault i, Move.reads (x.run ⟨vault,network⟩ i).2 = (q.run.answered vault i).2
  preparing : ∀ vault i, ∀ move ∈ (x.run ⟨vault,network⟩ i).2, ¬ move.IsAttempt
  renders : ∀ vault i, (Move.templates (x.run ⟨vault,network⟩ i).2).length ≤ renders

namespace Mirrors
variable {network : Network} {renders extra : Nat}

/-- A computation that asks for no secret and has one result whatever the secrets are. -/
theorem of_run {x : ExceptT Fault Acting α} {result : Except Fault α} (moves : List Move)
    (ran : ∀ vault i, x.run ⟨vault,network⟩ i = (result,moves)) (unasked : Move.reads moves = [])
    (preparing : ∀ move ∈ moves, ¬ move.IsAttempt) (few : (Move.templates moves).length ≤ renders) :
    Mirrors network renders x (ExceptT.mk (.done result)) := by
  refine ⟨fun vault i => ?_,fun vault i => ?_,fun vault i => ?_,fun vault i => ?_⟩ <;> rw [ran]
  · rfl
  · exact unasked
  · exact preparing
  · exact few

theorem pure (a : α) : Mirrors network 0 (Pure.pure a) (Pure.pure a) :=
  of_run [] (fun _ _ => rfl) rfl (List.forall_mem_nil _) (Nat.le_refl 0)

theorem throw (fault : Fault) :
    Mirrors network 0 (MonadExcept.throw fault : ExceptT Fault Acting α) (ExceptT.mk (.done (.error fault))) :=
  of_run [] (fun _ _ => rfl) rfl (List.forall_mem_nil _) (Nat.le_refl 0)

theorem grow {x : ExceptT Fault Acting α} {q : ExceptT Fault Query α} (mirrors : Mirrors network renders x q)
    (le : renders ≤ extra) : Mirrors network extra x q :=
  ⟨mirrors.result,mirrors.reads,mirrors.preparing,fun vault i => Nat.le_trans (mirrors.renders vault i) le⟩

theorem asking (q : ExceptT Fault Query α) : Mirrors network 0 (Http.asking q) q := by
  have asked : ∀ reads : List (String × String),
      Move.reads (reads.map fun read => .asked read.1 read.2) = reads ∧
        Move.templates (reads.map fun read => .asked read.1 read.2) = [] := by
    intro reads
    induction reads with
    | nil => exact ⟨rfl,rfl⟩
    | cons read rest ih => exact ⟨congrArg (read :: ·) ih.1,ih.2⟩
  refine ⟨fun _ _ => rfl,fun _ _ => (asked _).1,fun vault i move member => ?_,fun _ _ => ?_⟩
  · obtain ⟨read,_,rfl⟩ := List.mem_map.mp member
    exact id
  · exact Nat.le_of_eq (congrArg List.length (asked _).2)

theorem bind {x : ExceptT Fault Acting α} {q : ExceptT Fault Query α} {f : α → ExceptT Fault Acting β}
    {g : α → ExceptT Fault Query β} (first : Mirrors network renders x q)
    (second : ∀ a, Mirrors network extra (f a) (g a)) : Mirrors network (renders + extra) (x >>= f) (q >>= g) := by
  have both : ∀ vault i,
      ((x >>= f).run ⟨vault,network⟩ i).1 = ((q >>= g).run.answered vault i).1 ∧
        Move.reads ((x >>= f).run ⟨vault,network⟩ i).2 = ((q >>= g).run.answered vault i).2 ∧
        (∀ move ∈ ((x >>= f).run ⟨vault,network⟩ i).2, ¬ move.IsAttempt) ∧
        (Move.templates ((x >>= f).run ⟨vault,network⟩ i).2).length ≤ renders + extra := by
    intro vault i
    have result := first.result vault i
    have reads := first.reads vault i
    have preparing := first.preparing vault i
    have rendered := first.renders vault i
    rw [acting_bind_except,Query.answered_bind_except]
    -- Only what both first parts come to matters from here on, and that is the same.
    generalize x.run ⟨vault,network⟩ i = here at result reads preparing rendered
    generalize q.run.answered vault i = there at result reads
    obtain ⟨result,moves⟩ := here
    obtain ⟨_,_⟩ := there
    cases result
    cases reads
    cases result with
    | error fault => exact ⟨rfl,rfl,preparing,Nat.le_trans rendered (Nat.le_add_right _ _)⟩
    | ok a =>
      have later := second a
      refine ⟨later.result _ _,?_,?_,?_⟩
      · rw [Move.reads_append]
        exact congrArg _ (later.reads _ _)
      · intro move member
        rcases List.mem_append.mp member with old | new
        · exact preparing move old
        · exact later.preparing _ _ move new
      · rw [Move.templates_append,List.length_append]
        exact Nat.add_le_add rendered (later.renders _ _)
  exact ⟨fun vault i => (both vault i).1,fun vault i => (both vault i).2.1,fun vault i => (both vault i).2.2.1,
    fun vault i => (both vault i).2.2.2⟩

/-- Before a computation, one that renders nothing. -/
theorem before {x : ExceptT Fault Acting α} {q : ExceptT Fault Query α} {f : α → ExceptT Fault Acting β}
    {g : α → ExceptT Fault Query β} (first : Mirrors network 0 x q)
    (second : ∀ a, Mirrors network renders (f a) (g a)) : Mirrors network renders (x >>= f) (q >>= g) :=
  Nat.zero_add renders ▸ first.bind second

/-- After a computation, one that renders nothing. -/
theorem after {x : ExceptT Fault Acting α} {q : ExceptT Fault Query α} {f : α → ExceptT Fault Acting β}
    {g : α → ExceptT Fault Query β} (first : Mirrors network renders x q)
    (second : ∀ a, Mirrors network 0 (f a) (g a)) : Mirrors network renders (x >>= f) (q >>= g) :=
  first.bind second

end Mirrors
end

section
variable (network : Network)

theorem pinning_mirrors (name : String) (p : Prepared) :
    Mirrors network 0 (pinning name p) (ExceptT.mk (.done (pin network.lookup name p))) := by
  unfold pinning pin
  cases p.request.url.host? with
  | none => exact .throw _
  | some host =>
    dsimp only
    split
    · exact .pure p
    · refine Mirrors.of_run [.looked host.bare (p.request.url.portOrUsual?.getD 443)]
        (fun vault i => ?_) rfl (by simp [Move.IsAttempt]) (Nat.le_refl 0)
      rw [acting_bind_except,liftM_run]
      simp only [looking]
      cases network.lookup host.bare (p.request.url.portOrUsual?.getD 443) with
      | error cause => rfl
      | ok addresses =>
        dsimp only
        cases p.request.url.withHost name <;> rfl

theorem composing_mirrors (body? : Option Body) (object : Snapshot) :
    Mirrors network 1 (composing body? object) (configured (bodyOf body? object)) := by
  cases body? with
  | none => exact Mirrors.grow (.pure none) (Nat.zero_le 1)
  | some body =>
    refine Mirrors.of_run [.rendered body.template] (fun vault i => ?_) rfl (by simp [Move.IsAttempt])
      (Nat.le_refl 1)
    simp only [composing,bodyOf]
    rw [acting_bind_except,liftM_run]
    simp only [rendering]
    cases Template.render body.template object.context <;> rfl

theorem outlining_mirrors (c : Call) : Mirrors network 0 (outlining c) (outline network.lookup c) := by
  refine .before (.asking _) fun timeout => .before (.asking _) fun method => .before (.asking _) fun url =>
    .before (.asking _) fun headers => .before (.asking _) fun client => ?_
  dsimp only
  cases pinnedName? c.action.tls? with
  | none => exact .pure _
  | some name => exact pinning_mirrors network name _

theorem building_mirrors (p : Prepared) :
    Mirrors network 0 (building p) (configured ((network.build p.client p.timeout p.pinned).mapError .unbuilt)) :=
  .of_run [] (fun _ _ => rfl) rfl (List.forall_mem_nil _) (Nat.le_refl 0)

/-- What is settled before a request is sent comes to the same, after the same questions. -/
theorem preparing_mirrors (c : Call) : Mirrors network 1 (preparing c) (prepare network.toOutfit c) :=
  .before (outlining_mirrors network c) fun p => .before (building_mirrors network p) fun _ =>
    .after (composing_mirrors network _ _) fun _ => .pure _

end

/-- One attempt, and what follows from its answer. -/
theorem attempting_succ (t : Terms) (request : Request) (m : Milieu) (left attempt i : Nat) :
    attempting t request (left + 1) attempt m i =
      match t.judge attempt (m.network.answer request attempt) with
      | .final result => (some result,[.sent request])
      | .again =>
        match t.policy.delay? attempt (m.network.draw attempt) with
        | none => (none,[.sent request])
        | some pause =>
          let rest := attempting t request left (attempt + 1) m i
          (rest.1,.sent request :: .paused pause :: rest.2) := by
  rw [attempting]
  change Acting.bind (sending request attempt) _ m i = _
  simp only [Acting.bind,sending]
  cases t.judge attempt (m.network.answer request attempt) with
  | final result => rfl
  | again =>
    change ((Acting.bind (pausing t.policy attempt) _ m _).1,[.sent request] ++ (Acting.bind _ _ m _).2) = _
    simp only [Acting.bind,pausing]
    cases t.policy.delay? attempt (m.network.draw attempt) <;> rfl

/-- The attempts come to the same, with the same requests and pauses, and do nothing else. -/
theorem attempting_attempts (t : Terms) (request : Request) (m : Milieu) (left attempt i : Nat) :
    let run := attempting t request left attempt m i
    attemptsFrom t request (m.network.answer request) m.network.draw left attempt =
        ⟨Move.requests run.2,Move.pauses run.2,run.1⟩ ∧
      ∀ move ∈ run.2, move.IsAttempt := by
  induction left generalizing attempt with
  | zero => exact ⟨rfl,List.forall_mem_nil _⟩
  | succ left ih =>
    rw [attempting_succ]
    simp only [attemptsFrom]
    cases t.judge attempt (m.network.answer request attempt) with
    | final result => exact ⟨rfl,by simp [Move.IsAttempt]⟩
    | again =>
      cases t.policy.delay? attempt (m.network.draw attempt) with
      | none => exact ⟨rfl,by simp [Move.IsAttempt]⟩
      | some pause =>
        obtain ⟨same,attempts⟩ := ih (attempt + 1)
        refine ⟨by simp only [same]; rfl,fun move member => ?_⟩
        rcases List.mem_cons.mp member with rfl | member
        · trivial
        rcases List.mem_cons.mp member with rfl | member
        · trivial
        · exact attempts move member

section
variable [Patterns]

/-- What comes before the attempts, and what follows from it. -/
theorem executing_eq (m : Milieu) (i : Nat) (c : Call) :
    executing c m i =
      match (readying c).run m i with
      | (.error fault, moves) => (some (.error fault), moves)
      | (.ok (t, p), moves) =>
        let rest := attempting t p.request t.policy.maxAttempts 1 m (i + (Move.reads moves).length)
        (rest.1, moves ++ rest.2) := by
  unfold executing
  change Acting.bind (readying c).run _ m i = _
  simp only [Acting.bind]
  generalize (readying c).run m i = first
  obtain ⟨ready,moves⟩ := first
  cases ready with
  | error fault => exact congrArg (Prod.mk _) (List.append_nil moves)
  | ok ready => rfl

/-- An execution of an action whose terms are not sound. -/
theorem executing_unsound (m : Milieu) (i : Nat) {c : Call} {cause : Misconfiguration}
    (unsound : Terms.ofAction c.action = .error cause) : executing c m i = (some (.error (.config cause)),[]) := by
  rw [executing_eq]
  unfold readying
  rw [asking_configured,unsound]

/-- With sound terms, an execution is a preparation and its attempts. -/
theorem executing_sound (m : Milieu) (i : Nat) {c : Call} {t : Terms} (sound : Terms.ofAction c.action = .ok t) :
    executing c m i =
      match (preparing c).run m i with
      | (.error fault, moves) => (some (.error fault), moves)
      | (.ok p, moves) =>
        let rest := attempting t p.request t.policy.maxAttempts 1 m (i + (Move.reads moves).length)
        (rest.1, moves ++ rest.2) := by
  rw [executing_eq]
  unfold readying
  rw [asking_configured,sound]
  dsimp only
  rw [acting_bind_except]
  generalize (preparing c).run m i = first
  obtain ⟨prepared,moves⟩ := first
  cases prepared with
  | error fault => rfl
  | ok p => simp only [pure,ExceptT.pure,ExceptT.run,ExceptT.mk,List.append_nil]

/-- What an execution does is what an exchange consists of: first what prepares it, then the attempts. -/
structure Follows (m : Milieu) (i : Nat) (c : Call) : Prop where
  exchange : (exchange m.network c).answered m.vault i =
    (⟨Move.requests (executing c m i).2,Move.pauses (executing c m i).2,(executing c m i).1⟩,
      Move.reads (executing c m i).2)
  parts : ∃ before after, (executing c m i).2 = before ++ after ∧ (∀ move ∈ before, ¬ move.IsAttempt) ∧
    (∀ move ∈ after, move.IsAttempt) ∧ (Move.templates before).length ≤ 1

theorem executing_follows (m : Milieu) (i : Nat) (c : Call) : Follows m i c := by
  obtain ⟨vault,network⟩ := m
  cases sound : Terms.ofAction c.action with
  | error cause =>
    have ran := executing_unsound ⟨vault,network⟩ i sound
    refine ⟨?_,[],[],by rw [ran]; rfl,List.forall_mem_nil _,List.forall_mem_nil _,Nat.zero_le 1⟩
    simp only [ran,exchange,sound]
    rfl
  | ok t =>
    have ran := executing_sound ⟨vault,network⟩ i sound
    have exchanged := exchange_sound network vault i sound
    obtain ⟨result,reads,before,renders⟩ := preparing_mirrors network c
    specialize result vault i
    specialize reads vault i
    specialize before vault i
    specialize renders vault i
    generalize (preparing c).run ⟨vault,network⟩ i = here at ran result reads before renders
    generalize (prepare network.toOutfit c).run.answered vault i = there at exchanged result reads
    obtain ⟨prepared,moves⟩ := here
    obtain ⟨prepared',asked⟩ := there
    dsimp only at result reads before renders
    subst result reads
    obtain ⟨unsent,unpaused⟩ := Move.requests_of_preparing before
    cases prepared with
    | error fault =>
      refine ⟨?_,moves,[],by rw [ran,List.append_nil],before,List.forall_mem_nil _,renders⟩
      simp only [ran,exchanged,unsent,unpaused]
      rfl
    | ok p =>
      obtain ⟨same,attempts⟩ := attempting_attempts t p.request ⟨vault,network⟩
        t.policy.maxAttempts 1 (i + (Move.reads moves).length)
      refine ⟨?_,moves,_,by rw [ran],before,attempts,renders⟩
      simp only [ran,exchanged,Move.requests_append,Move.pauses_append,Move.reads_append,unsent,unpaused,same,
        (Move.reads_of_attempts attempts).1,List.nil_append,List.append_nil]

end
end Callout.Http
