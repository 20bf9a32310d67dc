import Callout.Proofs.Execution

/-!
What can fail before the first request. An execution has parts that can fail; the first one that fails is told as a
configuration that cannot be used, or as a failure of the network if addresses were not found. So nothing is sent for
such a configuration, and each attempt sends what was made once (`execution_disciplined`).
-/
namespace Callout.Http

/-! ## Parts that can fail -/

/-- The parts of an execution before its first request that can fail. -/
inductive Part where
  | backoff
  | maxBackoff
  | expectedStatus
  | timeout
  | method
  | address
  | headers
  /-- The authorities that a secret names. -/
  | authorities
  /-- The client's own certificate and key. -/
  | identity
  /-- The host that an endpoint's own name stands for. -/
  | host
  /-- The addresses of that host. -/
  | lookup
  /-- The name as a host of the address. -/
  | serverName
  /-- What sends the request. -/
  | build
  | template
deriving DecidableEq

/-- The fault of a part that a configuration has spoiled. -/
def spoiled? {α : Type} : Except Misconfiguration α → Option Fault
  | .ok _ => none
  | .error cause => some (.config cause)

def failed? {α : Type} : Except Fault α → Option Fault
  | .ok _ => none
  | .error fault => some fault

/-- The name that an endpoint is verified as, with the address that names it otherwise. -/
def naming? (c : Call) : Option (String × Url) := do
  return (← pinnedName? c.action.tls?, ← (Url.parse c.action.url).toOption)

/-- The same with the host whose place the name takes, if it is another one. -/
def replacing? (c : Call) : Option (String × Url × Host) := do
  let (name, url) ← naming? c
  let host ← url.host?
  if host.bare.map Char.toLower = name.map Char.toLower then none else some (name, url, host)

namespace Part

def order : List Part :=
  [.backoff, .maxBackoff, .expectedStatus, .timeout, .method, .address, .headers, .authorities, .identity, .host,
    .lookup, .serverName, .build, .template]

variable [Patterns] [Credentials]

/-- The fault of a part, taken for itself. What sends the request is built of the parts before it. -/
def fault? (m : Milieu) (i : Nat) (c : Call) : Part → Option Fault
  | .backoff => spoiled? (durationOr "retry.backoff" (c.action.retry?.bind (·.backoff?)) (.ofMillis 500))
  | .maxBackoff => spoiled? (durationOr "retry.maxBackoff" (c.action.retry?.bind (·.maxBackoff?)) (.ofSeconds 10))
  | .expectedStatus => spoiled? (Expectation.ofPattern c.action.expectedStatus?)
  | .timeout => spoiled? (durationOr "timeout" c.action.timeout? usualTimeout)
  | .method => spoiled? (readMethod c.action.method?)
  | .address => spoiled? ((Url.parse c.action.url).mapError (.address c.action.url))
  | .headers => spoiled? (readHeaders c.headers)
  | .authorities => spoiled? (trusted.answered m.vault i).1
  | .identity => spoiled? (identified.answered m.vault (i + (trusted.answered m.vault i).2.length)).1
  | .host => (naming? c).bind fun (_, url) =>
      if url.host? = none then some (.config (.addressWithoutHost url.toText)) else none
  | .lookup => (replacing? c).bind fun (_, url, named) =>
      match m.network.lookup named.bare (url.portOrUsual?.getD 443) with
      | .error cause => some (.network ("resolving " ++ named.bare ++ ": " ++ cause))
      | .ok _ => none
  | .serverName => (replacing? c).bind fun (name, url, _) =>
      spoiled? ((url.withHost name).mapError (.serverName name))
  | .build => outlined.toOption.bind fun p =>
      spoiled? ((m.network.build p.client p.timeout p.pinned).mapError .unbuilt)
  | .template => spoiled? (bodyOf c.action.body? c.object)
where
  trusted := (trustOf c.space (c.action.tls?.bind (·.authorities?))).run
  identified := (identityOf c.space (c.action.tls?.bind (·.client?))).run
  outlined := ((outline m.network.lookup c).run.answered m.vault i).1

variable {m : Milieu} {i : Nat} {c : Call}

/-- Addresses that are not found are a failure of the network. All else is a configuration that cannot be used. -/
theorem kind_of_fault {part : Part} {fault : Fault} (fails : part.fault? m i c = some fault) :
    if part = .lookup then ∃ message, fault = .network message else ∃ cause, fault = .config cause := by
  have spoils : ∀ {α : Type} {x : Except Misconfiguration α}, spoiled? x = some fault →
      ∃ cause, fault = .config cause := by
    intro α x spoiled
    cases x with
    | ok a => cases spoiled
    | error cause => exact ⟨cause,(Option.some.inj spoiled).symm⟩
  cases part with
  | lookup =>
    obtain ⟨⟨name,url,named⟩,_,failed⟩ := Option.bind_eq_some_iff.mp fails
    dsimp only at failed
    split at failed
    · exact ⟨_,(Option.some.inj failed).symm⟩
    · cases failed
  | host =>
    obtain ⟨⟨name,url⟩,_,failed⟩ := Option.bind_eq_some_iff.mp fails
    dsimp only at failed
    split at failed
    · exact ⟨_,(Option.some.inj failed).symm⟩
    · cases failed
  | serverName =>
    obtain ⟨⟨name,url,named⟩,_,failed⟩ := Option.bind_eq_some_iff.mp fails
    exact spoils failed
  | build =>
    obtain ⟨p,_,failed⟩ := Option.bind_eq_some_iff.mp fails
    exact spoils failed
  | backoff | maxBackoff | expectedStatus | timeout | method | address | headers | authorities | identity
  | template => exact spoils fails

end Part

/-! ## The first part that fails -/

section
variable {α β : Type} {vault : Vault} {i : Nat}

/-- What one part leaves open is decided by the rest. -/
theorem failed?_bind {x : ExceptT Fault Query α} {f : α → ExceptT Fault Query β} {rest : Option Fault}
    (next : ∀ a reads, x.run.answered vault i = (.ok a,reads) →
      failed? ((f a).run.answered vault (i + reads.length)).1 = rest) :
    failed? ((x >>= f).run.answered vault i).1 = (failed? (x.run.answered vault i).1).or rest := by
  rw [Query.answered_bind_except]
  generalize x.run.answered vault i = first at next
  obtain ⟨result,reads⟩ := first
  cases result with
  | error fault => rfl
  | ok a => exact next a reads rfl

theorem failed?_configured {part : Except Misconfiguration α} {f : α → ExceptT Fault Query β}
    {rest : Option Fault} (next : ∀ a, part = .ok a → failed? ((f a).run.answered vault i).1 = rest) :
    failed? ((configured part >>= f).run.answered vault i).1 = (spoiled? part).or rest := by
  rw [Query.answered_bind_except]
  cases part with
  | error cause => rfl
  | ok a => exact next a rfl

end

theorem findSome?_cons_or (fault? : Part → Option Fault) (part : Part) (rest : List Part) :
    (part :: rest).findSome? fault? = (fault? part).or (rest.findSome? fault?) := by
  cases found : fault? part <;> simp [found]

section
variable [Patterns] [Credentials]

theorem failed?_pin (m : Milieu) (i : Nat) (c : Call) {name : String} {p : Prepared}
    (named : pinnedName? c.action.tls? = some name) (parsed : Url.parse c.action.url = .ok p.request.url) :
    failed? (pin m.network.lookup name p) =
      ([.host,.lookup,.serverName] : List Part).findSome? (·.fault? m i c) := by
  have naming : naming? c = some (name,p.request.url) := by simp [naming?,named,parsed,Except.toOption]
  cases host : p.request.url.host? with
  | none => simp [pin,host,failed?,Part.fault?,naming]
  | some behind =>
    by_cases same : behind.bare.map Char.toLower = name.map Char.toLower
    · have none : replacing? c = none := by simp [replacing?,naming,host,same]
      simp [pin,host,same,failed?,Part.fault?,naming,none]
    · have replacing : replacing? c = some (name,p.request.url,behind) := by simp [replacing?,naming,host,same]
      cases looked : m.network.lookup behind.bare (p.request.url.portOrUsual?.getD 443) with
      | error cause => simp [pin,host,same,failed?,Part.fault?,naming,replacing,looked]
      | ok addresses =>
        cases replaced : p.request.url.withHost name <;>
          simp [pin,host,same,failed?,Part.fault?,naming,replacing,looked,replaced] <;> rfl

theorem failed?_unpinned (m : Milieu) (i : Nat) (c : Call) (named : pinnedName? c.action.tls? = none) :
    ([.host,.lookup,.serverName] : List Part).findSome? (·.fault? m i c) = none := by
  have naming : naming? c = none := by simp [naming?,named]
  simp [Part.fault?,naming,replacing?]

theorem failed?_client (m : Milieu) (i : Nat) (c : Call) :
    failed? ((ExceptT.adapt Fault.config (clientOf c.space c.action.tls?)).run.answered m.vault i).1 =
      ([.authorities,.identity] : List Part).findSome? (·.fault? m i c) := by
  have adapted : ∀ {α : Type} (x : ExceptT Misconfiguration Query α),
      failed? ((ExceptT.adapt Fault.config x).run.answered m.vault i).1 = spoiled? (x.run.answered m.vault i).1 := by
    intro α x
    change failed? ((Query.bind x.run _).answered m.vault i).1 = _
    rw [Query.answered_bind]
    generalize x.run.answered m.vault i = first
    obtain ⟨result,reads⟩ := first
    cases result <;> rfl
  have authorities : (c.action.tls?.getD {}).authorities? = c.action.tls?.bind (·.authorities?) := by
    cases c.action.tls? <;> rfl
  have client : (c.action.tls?.getD {}).client? = c.action.tls?.bind (·.client?) := by
    cases c.action.tls? <;> rfl
  rw [adapted]
  simp only [clientOf,authorities,client,List.findSome?,Part.fault?,Part.fault?.trusted,Part.fault?.identified]
  rw [Query.answered_bind_except]
  generalize (trustOf c.space (c.action.tls?.bind (·.authorities?))).run.answered m.vault i = first
  obtain ⟨trust,reads⟩ := first
  cases trust with
  | error cause => rfl
  | ok trust =>
    simp only [Query.answered_bind_except,spoiled?]
    cases ((identityOf c.space (c.action.tls?.bind (·.client?))).run.answered m.vault (i + reads.length)) with
    | mk identity reads => cases identity <;> rfl

theorem spoiled?_terms (m : Milieu) (i : Nat) (c : Call) :
    spoiled? (Terms.ofAction c.action) =
      ([.backoff,.maxBackoff,.expectedStatus] : List Part).findSome? (·.fault? m i c) := by
  cases settings : c.action.retry? with
  | none =>
    have usual : durationOr "retry.backoff" none (.ofMillis 500) = .ok (.ofMillis 500) ∧
        durationOr "retry.maxBackoff" none (.ofSeconds 10) = .ok (.ofSeconds 10) := ⟨rfl,rfl⟩
    simp only [findSome?_cons_or,Part.fault?,Terms.ofAction,RetryPolicy.ofSettings,settings,Option.bind_none,usual]
    cases Expectation.ofPattern c.action.expectedStatus? <;> rfl
  | some s =>
    simp only [findSome?_cons_or,Part.fault?,Terms.ofAction,RetryPolicy.ofSettings,settings,Option.bind_some]
    cases durationOr "retry.backoff" s.backoff? (.ofMillis 500) with
    | error cause => rfl
    | ok backoff =>
      cases durationOr "retry.maxBackoff" s.maxBackoff? (.ofSeconds 10) with
      | error cause => rfl
      | ok maxBackoff => cases Expectation.ofPattern c.action.expectedStatus? <;> rfl

theorem failed?_outline (m : Milieu) (i : Nat) (c : Call) :
    failed? ((outline m.network.lookup c).run.answered m.vault i).1 =
      ([.timeout,.method,.address,.headers,.authorities,.identity,.host,.lookup,.serverName] : List Part).findSome?
        (·.fault? m i c) := by
  have parts :
      ([.timeout,.method,.address,.headers,.authorities,.identity,.host,.lookup,.serverName] : List Part).findSome?
        (·.fault? m i c) =
      (Part.fault? m i c .timeout).or ((Part.fault? m i c .method).or ((Part.fault? m i c .address).or
        ((Part.fault? m i c .headers).or ((([.authorities,.identity] : List Part).findSome? (·.fault? m i c)).or
          (([.host,.lookup,.serverName] : List Part).findSome? (·.fault? m i c)))))) := by
    simp only [findSome?_cons_or,List.findSome?_nil,Option.or_assoc,Option.or_none]
  rw [parts]
  -- The parts and the steps of the preparation are taken off together, one after the other.
  refine failed?_configured fun timeout _ => failed?_configured fun method _ => failed?_configured fun url parsed =>
    failed?_configured fun headers _ => ?_
  rw [← failed?_client]
  refine failed?_bind fun client reads _ => ?_
  dsimp only
  cases named : pinnedName? c.action.tls? with
  | none => exact (failed?_unpinned m i c named).symm
  | some name =>
    refine failed?_pin m i c named ?_
    cases read : Url.parse c.action.url with
    | error cause =>
      rw [read] at parsed
      cases parsed
    | ok url' =>
      rw [read] at parsed
      cases parsed
      rfl

/-- The parts from the timeout on. -/
theorem failed?_prepare (m : Milieu) (i : Nat) (c : Call) :
    failed? ((prepare m.network.toOutfit c).run.answered m.vault i).1 =
      (Part.order.drop 3).findSome? (·.fault? m i c) := by
  have parts : (Part.order.drop 3).findSome? (·.fault? m i c) =
      (failed? ((outline m.network.lookup c).run.answered m.vault i).1).or
        ((Part.fault? m i c .build).or (Part.fault? m i c .template)) := by
    rw [failed?_outline]
    simp only [Part.order,List.drop,findSome?_cons_or,List.findSome?_nil,Option.or_assoc,Option.or_none]
  rw [parts]
  refine failed?_bind fun p reads outlined => ?_
  have building : Part.fault? m i c .build =
      spoiled? ((m.network.build p.client p.timeout p.pinned).mapError .unbuilt) := by
    simp only [Part.fault?,Part.fault?.outlined]
    rw [outlined]
    rfl
  rw [building]
  refine failed?_configured fun _ _ => Eq.trans ?_ Option.or_none
  exact failed?_configured fun body? _ => rfl

/-- An exchange ends unsent with the first fault of its parts. If there is none, its request is prepared. -/
theorem exchange_first (m : Milieu) (i : Nat) (c : Call) :
    (∃ fault, Part.order.findSome? (·.fault? m i c) = some fault ∧
      ((exchange m.network c).answered m.vault i).1 = .unsent fault) ∨
    (Part.order.findSome? (·.fault? m i c) = none ∧ ∃ t p, Terms.ofAction c.action = .ok t ∧
      ((prepare m.network.toOutfit c).run.answered m.vault i).1 = .ok p) := by
  have parts : Part.order.findSome? (·.fault? m i c) =
      (spoiled? (Terms.ofAction c.action)).or
        (failed? ((prepare m.network.toOutfit c).run.answered m.vault i).1) := by
    rw [spoiled?_terms m i c,failed?_prepare,← List.findSome?_append]
    rfl
  rw [parts]
  cases sound : Terms.ofAction c.action with
  | error cause => exact .inl ⟨_,rfl,by simp only [exchange,sound]; rfl⟩
  | ok t =>
    rw [exchange_sound m.network m.vault i sound]
    generalize (prepare m.network.toOutfit c).run.answered m.vault i = first
    obtain ⟨prepared,reads⟩ := first
    cases prepared with
    | error fault => exact .inl ⟨fault,rfl,rfl⟩
    | ok p => exact .inr ⟨rfl,t,p,rfl,rfl⟩

end

/-! ## Executions and their parts -/

/-- What comes out of an exchange that sent something is no misconfiguration. -/
theorem Terms.resultOf_cases (t : Terms) (a : Answer) :
    t.resultOf a = .ok () ∨ (∃ message, t.resultOf a = .error (.network message)) ∨
      ∃ code body, t.resultOf a = .error (.status code body) := by
  cases a with
  | failure transient message => exact .inr (.inl ⟨message,rfl⟩)
  | response status body? =>
    simp only [resultOf]
    split
    · exact .inl rfl
    · exact .inr (.inr ⟨_,_,rfl⟩)

/-- How an execution with such a result and such moves goes: what it is told to do comes first, is told as a
misconfiguration if it cannot be done, and is done once. -/
structure Disciplined [Patterns] [Credentials] (m : Milieu) (i : Nat) (c : Call)
    (result? : Option (Except Fault Unit)) (moves : List Move) : Prop where
  /-- It is the exchange, told move by move. -/
  exchange : (exchange m.network c).answered m.vault i =
    (⟨Move.requests moves,Move.pauses moves,result?⟩,Move.reads moves)
  results : ∀ result ∈ result?, result = .ok () ∨ (∃ cause, result = .error (.config cause)) ∨
    (∃ message, result = .error (.network message)) ∨ ∃ code body, result = .error (.status code body)
  /-- Only a pause that cannot be represented leaves it without a result. -/
  broken : result? = none → ∃ t cut, Terms.ofAction c.action = .ok t ∧ 1 ≤ cut ∧ cut < t.policy.maxAttempts ∧
    pauseAfter t m.network.draw cut = none
  config_unsent : ∀ cause, result? = some (.error (.config cause)) → Move.requests moves = []
  /-- The first part that fails ends it, with a misconfiguration unless addresses were not found. -/
  first_part : ∀ (before : List Part) (part : Part) (after : List Part) (fault : Fault),
    Part.order = before ++ part :: after → (∀ earlier ∈ before, earlier.fault? m i c = none) →
    part.fault? m i c = some fault →
    result? = some (.error fault) ∧ Move.requests moves = [] ∧
      if part = .lookup then ∃ message, fault = .network message else ∃ cause, fault = .config cause
  sent : (∀ part : Part, part.fault? m i c = none) → Move.requests moves ≠ []
  prepared_first : ∃ before after, moves = before ++ after ∧ (∀ move ∈ before, ¬ move.IsAttempt) ∧
    ∀ move ∈ after, move.IsAttempt
  same_request : ∃ request, ∀ sent ∈ Move.requests moves, sent = request
  rendered_once : (Move.templates moves).length ≤ 1

section
variable [Patterns] [Credentials] {m : Milieu} {i : Nat} {c : Call} {result? : Option (Except Fault Unit)}
  {moves : List Move}
  (told : (exchange m.network c).answered m.vault i =
    (⟨Move.requests moves,Move.pauses moves,result?⟩,Move.reads moves))
  (ordered : ∃ before after, moves = before ++ after ∧ (∀ move ∈ before, ¬ move.IsAttempt) ∧
    ∀ move ∈ after, move.IsAttempt)
  (once : (Move.templates moves).length ≤ 1)
include told ordered once

theorem disciplined_of_fault {fault : Fault} (first : Part.order.findSome? (·.fault? m i c) = some fault)
    (unsent : ((exchange m.network c).answered m.vault i).1 = .unsent fault) : Disciplined m i c result? moves := by
  have same : (⟨Move.requests moves,Move.pauses moves,result?⟩ : Exchange) = .unsent fault := by
    rw [← unsent,told]
  have silent : Move.requests moves = [] := congrArg Exchange.requests same
  obtain rfl : result? = some (.error fault) := congrArg Exchange.result? same
  obtain ⟨part,_,fails⟩ := List.exists_of_findSome?_eq_some first
  have kind := part.kind_of_fault fails
  refine ⟨told,?_,nofun,fun _ _ => silent,?_,?_,ordered,⟨default,?_⟩,once⟩
  · rintro _ ⟨⟩
    split at kind
    · obtain ⟨message,rfl⟩ := kind
      exact .inr (.inr (.inl ⟨message,rfl⟩))
    · obtain ⟨cause,rfl⟩ := kind
      exact .inr (.inl ⟨cause,rfl⟩)
  · intro before part after fault' split earlier fails
    have same : fault = fault' := by
      rw [split,List.findSome?_append,List.findSome?_eq_none_iff.mpr earlier] at first
      simpa [fails] using first.symm
    exact ⟨same ▸ rfl,silent,part.kind_of_fault fails⟩
  · intro none
    rw [none part] at fails
    cases fails
  · rw [silent]
    exact List.forall_mem_nil _

theorem disciplined_of_prepared {t : Terms} {p : Prepared} (none : Part.order.findSome? (·.fault? m i c) = none)
    (sound : Terms.ofAction c.action = .ok t)
    (prepared : ((prepare m.network.toOutfit c).run.answered m.vault i).1 = .ok p) :
    Disciplined m i c result? moves := by
  obtain ⟨n,closes,runs⟩ := exchange_runs m.network m.vault i sound prepared
  rw [told] at runs
  obtain ⟨more,sent⟩ := runs.sent closes.from_first
  have ended := runs.ended
  dsimp only at sent ended
  have kinds := t.resultOf_cases (m.network.answer p.request n)
  refine ⟨told,?_,?_,?_,?_,?_,ordered,⟨p.request,?_⟩,once⟩
  · rintro result ⟨⟩
    subst ended
    exact kinds.imp_right .inr
  · rintro rfl
    obtain ⟨cut,from_first,before,unfit⟩ := ended
    exact ⟨t,cut,sound,from_first,Nat.lt_of_lt_of_le before closes.allowed,unfit⟩
  · rintro cause rfl
    rw [← ended] at kinds
    rcases kinds with well | ⟨message,failed⟩ | ⟨code,body,refused⟩
    · cases well
    · cases failed
    · cases refused
  · intro before part after fault split earlier fails
    have here := List.findSome?_eq_none_iff.mp none part (by simp [split])
    rw [here] at fails
    cases fails
  · rw [sent]
    exact fun _ => List.cons_ne_nil _ _
  · intro request member
    rw [sent] at member
    exact List.eq_of_mem_replicate member

end

/-- An execution puts all preparation before its attempts, and tells the first part that fails. It has a result unless
it would pause for longer than a span can be. -/
theorem execution_disciplined [Patterns] [Credentials] (m : Milieu) (i : Nat) (c : Call) :
    Disciplined m i c (executing c m i).1 (executing c m i).2 := by
  obtain ⟨told,before,after,parts,preparing,attempts,renders⟩ := executing_follows m i c
  have ordered : ∃ before after, (executing c m i).2 = before ++ after ∧
      (∀ move ∈ before, ¬ move.IsAttempt) ∧ ∀ move ∈ after, move.IsAttempt :=
    ⟨before,after,parts,preparing,attempts⟩
  have once : (Move.templates (executing c m i).2).length ≤ 1 := by
    rw [parts,Move.templates_append,(Move.reads_of_attempts attempts).2,List.append_nil]
    exact renders
  rcases exchange_first m i c with ⟨fault,first,unsent⟩ | ⟨none,t,p,sound,prepared⟩
  · exact disciplined_of_fault told ordered once first unsent
  · exact disciplined_of_prepared told ordered once none sound prepared

end Callout.Http

namespace Callout.Sample
open Http

/-- The pause before the second attempt cannot be represented. So nothing comes of the execution, after a request. -/
theorem execution_breaks_off :
    (executing endlessCall ⟨shared,recovering⟩ 0).1 = none ∧
      (Move.requests (executing endlessCall ⟨shared,recovering⟩ 0).2).length = 1 := by
  obtain ⟨told,_⟩ := executing_follows ⟨shared,recovering⟩ 0 endlessCall
  have unended : ((exchange recovering endlessCall).answered shared 0).1.result? = none :=
    Option.isNone_iff_eq_none.mp (by decide +kernel)
  have once : ((exchange recovering endlessCall).answered shared 0).1.requests.length = 1 := by decide +kernel
  rw [told] at unended once
  exact ⟨unended,once⟩

end Callout.Sample
