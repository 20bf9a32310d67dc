import Callout.Proofs.Isolation

/-!
How often a request is sent. A policy says as much as the settings that it is made of, an answer settles an exchange or
leaves it open, and the last attempt is the first one that settles it, or the last one that the policy allows. What is
sent, how often it is paused and what comes out all follow from the number of that attempt, as long as the pauses up to
there can be represented; the first one that cannot breaks the exchange off (`exchange_attempts`).
-/
namespace Callout

/-! ## Policies and their settings -/

/-- The statuses after which settings have an attempt repeated, in any order. -/
def RetrySettings.repeated (settings? : Option RetrySettings) : List UInt16 :=
  match settings?.bind (·.onStatus?) with
  | none | some [] => [429, 500, 502, 503, 504]
  | some codes => codes

namespace RetryPolicy

/-- Whether a policy says what settings say, and the usual where they say nothing. -/
structure Follows (p : RetryPolicy) (settings? : Option RetrySettings) : Prop where
  attempts : p.maxAttempts = max 1 ((settings?.bind (·.maxAttempts?)).elim 1 UInt32.toNat)
  onNetworkError : p.onNetworkError = (settings?.bind (·.onNetworkError?)).getD true
  onStatus : ∀ status, p.retriesStatus status = true ↔ status ∈ RetrySettings.repeated settings?
  backoff : durationOr "retry.backoff" (settings?.bind (·.backoff?)) (.ofMillis 500) = .ok p.backoff
  maxBackoff : durationOr "retry.maxBackoff" (settings?.bind (·.maxBackoff?)) (.ofSeconds 10) = .ok p.maxBackoff

/-- Sorting statuses and leaving out repetitions loses none. -/
theorem mem_onStatus (codes : List UInt16) (status : UInt16) :
    status ∈ (codes.mergeSort (· ≤ ·)).eraseDups ↔ status ∈ codes := by
  rw [List.mem_eraseDups,List.mem_mergeSort]

theorem ofSettings_follows {settings? : Option RetrySettings} {p : RetryPolicy} (sound : ofSettings settings? = .ok p) :
    p.Follows settings? := by
  cases settings? with
  | none =>
    cases sound
    exact ⟨rfl,rfl,by simp [retriesStatus,RetrySettings.repeated],rfl,rfl⟩
  | some s =>
    cases first : durationOr "retry.backoff" s.backoff? (.ofMillis 500) with
    | error cause => simp [ofSettings,first,bind,Except.bind] at sound
    | ok backoff =>
      cases longest : durationOr "retry.maxBackoff" s.maxBackoff? (.ofSeconds 10) with
      | error cause => simp [ofSettings,first,longest,bind,Except.bind] at sound
      | ok maxBackoff =>
        simp only [ofSettings,first,longest,bind,Except.bind,pure,Except.pure,Except.ok.injEq] at sound
        subst sound
        refine ⟨Nat.max_comm _ _,rfl,fun status => ?_,first,longest⟩
        simp only [retriesStatus,RetrySettings.repeated,List.contains_iff_mem,Option.bind_some]
        cases s.onStatus? with
        | none => rfl
        | some codes =>
          cases codes with
          | nil => rfl
          | cons code rest => exact mem_onStatus (code :: rest) status

end RetryPolicy

namespace Http
namespace Terms

/-! ## What an answer settles -/

/-- Answers that end an exchange even if attempts are left. -/
inductive Settles (t : Terms) : Answer → Prop where
  /-- The status is expected. -/
  | expected {status : UInt16} {body? : Option String} (accepted : t.expected.accepts status = true) :
      Settles t (.response status body?)
  /-- The status is none after which attempts are repeated. -/
  | unrepeated {status : UInt16} {body? : Option String} (other : t.policy.retriesStatus status = false) :
      Settles t (.response status body?)
  /-- Another attempt would fail the same way. -/
  | lasting {message : String} : Settles t (.failure false message)
  /-- Attempts without an answer are not repeated. -/
  | unwanted {transient : Bool} {message : String} (off : t.policy.onNetworkError = false) :
      Settles t (.failure transient message)

/-- What comes out of an exchange that ends with an answer. -/
def resultOf (t : Terms) : Answer → Except Fault Unit
  | .response status body? =>
    if t.expected.accepts status then .ok () else .error (.status status (body?.getD ""))
  | .failure _ message => .error (.network message)

variable {t : Terms}

theorem judge_of_settles {a : Answer} (settles : t.Settles a) (attempt : Nat) :
    t.judge attempt a = .final (t.resultOf a) := by
  cases settles with
  | expected accepted => simp [judge,resultOf,accepted]
  | unrepeated other =>
    simp only [judge,resultOf,other,Bool.false_and]
    split <;> rfl
  | lasting => simp [judge,resultOf]
  | unwanted off => simp [judge,resultOf,off]

/-- With the last attempt an exchange ends, whatever the answer. -/
theorem judge_last {attempt : Nat} (last : t.policy.maxAttempts ≤ attempt) (a : Answer) :
    t.judge attempt a = .final (t.resultOf a) := by
  have none : t.policy.hasAttemptsLeft attempt = false := decide_eq_false (Nat.not_lt.mpr last)
  cases a with
  | failure transient message => simp [judge,resultOf,none]
  | response status body? =>
    simp only [judge,resultOf,none,Bool.and_false]
    split <;> rfl

theorem judge_again {attempt : Nat} {a : Answer} (opens : ¬ t.Settles a) (left : attempt < t.policy.maxAttempts) :
    t.judge attempt a = .again := by
  have more : t.policy.hasAttemptsLeft attempt = true := decide_eq_true left
  cases a with
  | failure transient message =>
    have wanted : t.policy.onNetworkError = true := Bool.not_eq_false _ ▸ fun off => opens (.unwanted off)
    have passing : transient = true := Bool.not_eq_false _ ▸ fun lasts => opens (lasts ▸ .lasting)
    simp [judge,more,wanted,passing]
  | response status body? =>
    have unexpected : t.expected.accepts status = false := Bool.not_eq_true _ ▸ fun hit => opens (.expected hit)
    have repeated : t.policy.retriesStatus status = true :=
      Bool.not_eq_false _ ▸ fun other => opens (.unrepeated other)
    simp [judge,more,unexpected,repeated]

theorem resultOf_ne_exhausted (a : Answer) (attempts : Nat) : t.resultOf a ≠ .error (.exhausted attempts) := by
  cases a with
  | failure transient message => simp [resultOf]
  | response status body? =>
    simp only [resultOf]
    split <;> simp

/-! ## The last attempt -/

/-- Whether an attempt is the last of those from one on: it settles the exchange or none is left, and no earlier one
settles it. -/
structure Closes (t : Terms) (answer : Nat → Answer) (first last : Nat) : Prop where
  from_first : first ≤ last
  allowed : last ≤ t.policy.maxAttempts
  open_before : ∀ k, first ≤ k → k < last → ¬ t.Settles (answer k)
  closed : t.Settles (answer last) ∨ last = t.policy.maxAttempts

/-- Only one attempt closes an exchange. -/
theorem Closes.unique {answer : Nat → Answer} {first m n : Nat} (left : t.Closes answer first m)
    (right : t.Closes answer first n) : m = n := by
  have never : ∀ {m n}, t.Closes answer first m → t.Closes answer first n → ¬ m < n := by
    intro m n left right less
    rcases left.closed with settled | rfl
    · exact right.open_before m left.from_first less settled
    · exact absurd right.allowed (Nat.not_le.mpr less)
  exact Nat.le_antisymm (Nat.not_lt.mp (never right left)) (Nat.not_lt.mp (never left right))

end Terms

section
variable (t : Terms) (request : Request) (answer : Nat → Answer) (draw : Nat → Nat)

/-- The pause after an attempt, if it can be represented. -/
def pauseAfter (attempt : Nat) : Option Span := t.policy.delay? attempt (draw attempt)

/-- Exchanges from one attempt on, up to the one that closes them or to the first pause that cannot be represented. One
request is sent for each attempt, the same each time. -/
inductive Runs (first last : Nat) : Exchange → Prop where
  /-- There is a pause after each attempt but the last, whose answer is the result. -/
  | closed {pauses : List Span}
      (paused : (List.range' first (last - first)).map (pauseAfter t draw) = pauses.map some) :
      Runs first last
        ⟨List.replicate (last + 1 - first) request, pauses, some (t.resultOf (answer last))⟩
  /-- After an attempt before the last one there is no pause, and no result. -/
  | broken {cut : Nat} (from_first : first ≤ cut) (before : cut < last) {pauses : List Span}
      (paused : (List.range' first (cut - first)).map (pauseAfter t draw) = pauses.map some)
      (unfit : pauseAfter t draw cut = none) :
      Runs first last ⟨List.replicate (cut + 1 - first) request, pauses, none⟩

variable {t request answer draw}

theorem Runs.self (attempt : Nat) :
    Runs t request answer draw attempt attempt
      { requests := [request], result? := some (t.resultOf (answer attempt)) } := by
  have once : attempt + 1 - attempt = 1 := by omega
  have runs : Runs t request answer draw attempt attempt ⟨_,[],_⟩ := .closed (by simp)
  rwa [once] at runs

/-- The numbers of the attempts from one on, that one before the others. -/
theorem range_step {first last : Nat} (later : first < last) :
    List.range' first (last - first) = first :: List.range' (first + 1) (last - (first + 1)) := by
  rw [show last - first = last - (first + 1) + 1 by omega,List.range'_succ]

theorem Runs.step {first last : Nat} (later : first < last) {pause : Span}
    (paused : pauseAfter t draw first = some pause) {e : Exchange}
    (runs : Runs t request answer draw (first + 1) last e) :
    Runs t request answer draw first last
      { e with requests := request :: e.requests, pauses := pause :: e.pauses } := by
  have sent {k : Nat} (beyond : first < k) :
      request :: List.replicate (k + 1 - (first + 1)) request = List.replicate (k + 1 - first) request := by
    rw [show k + 1 - first = k + 1 - (first + 1) + 1 by omega,List.replicate_succ]
  cases runs with
  | closed rest =>
    rw [sent later]
    exact .closed (by rw [range_step later,List.map_cons,paused,rest,List.map_cons])
  | @broken cut from_first before pauses rest unfit =>
    have beyond : first < cut := from_first
    rw [sent beyond]
    exact .broken (Nat.le_of_lt beyond) before (by rw [range_step beyond,List.map_cons,paused,rest,List.map_cons]) unfit

variable (request draw) in
/-- Attempts go on up to the one that closes them, or to the first pause that cannot be represented. -/
theorem attemptsFrom_runs (left first : Nat) (fits : first + left = t.policy.maxAttempts + 1) (some_left : 0 < left) :
    ∃ last, t.Closes answer first last ∧
      Runs t request answer draw first last (attemptsFrom t request answer draw left first) := by
  -- Two attempts close at once: one that settles the exchange, and the last that is allowed.
  induction left generalizing first with
  | zero => exact absurd some_left (Nat.lt_irrefl 0)
  | succ left ih =>
    by_cases settles : t.Settles (answer first)
    · refine ⟨first,⟨Nat.le_refl _,by omega,fun k from_first before => by omega,.inl settles⟩,?_⟩
      simp only [attemptsFrom,Terms.judge_of_settles settles]
      exact .self first
    by_cases done : left = 0
    · have last : first = t.policy.maxAttempts := by omega
      refine ⟨first,⟨Nat.le_refl _,by omega,fun k from_first before => by omega,.inr last⟩,?_⟩
      simp only [attemptsFrom,Terms.judge_last (Nat.le_of_eq last.symm)]
      exact .self first
    · obtain ⟨last,closes,runs⟩ := ih (first + 1) (by omega) (by omega)
      have later : first < last := closes.from_first
      refine ⟨last,⟨Nat.le_of_lt later,closes.allowed,fun k from_first before => ?_,closes.closed⟩,?_⟩
      · rcases Nat.eq_or_lt_of_le from_first with rfl | beyond
        · exact settles
        · exact closes.open_before k beyond before
      · have more : first < t.policy.maxAttempts := by omega
        simp only [attemptsFrom,Terms.judge_again settles more]
        cases paused : t.policy.delay? first (draw first) with
        | some pause => exact runs.step later paused
        | none =>
          have broken : Runs t request answer draw first last ⟨_,[],none⟩ :=
            .broken (Nat.le_refl first) later (by simp) paused
          rwa [show first + 1 - first = 1 by omega] at broken

theorem pauseAfter_of_paused {first count : Nat} {pauses : List Span}
    (paused : (List.range' first count).map (pauseAfter t draw) = pauses.map some) {k : Nat} (from_first : first ≤ k)
    (before : k < first + count) : pauseAfter t draw k ≠ none := by
  have listed := List.mem_map_of_mem (f := pauseAfter t draw) (List.mem_range'_1.mpr ⟨from_first,before⟩)
  rw [paused] at listed
  obtain ⟨pause,_,same⟩ := List.mem_map.mp listed
  exact same ▸ Option.some_ne_none pause

theorem Runs.sent {first last : Nat} {e : Exchange} (runs : Runs t request answer draw first last e)
    (some_left : first ≤ last) : ∃ more, e.requests = List.replicate (more + 1) request := by
  cases runs with
  | closed => exact ⟨last - first,by rw [Nat.sub_add_comm some_left]⟩
  | @broken cut from_first => exact ⟨cut - first,by rw [Nat.sub_add_comm from_first]⟩

/-- What comes out of an exchange is its last answer, unless a pause cannot be represented. -/
theorem Runs.ended {first last : Nat} {e : Exchange} (runs : Runs t request answer draw first last e) :
    match e.result? with
    | some result => result = t.resultOf (answer last)
    | none => ∃ cut, first ≤ cut ∧ cut < last ∧ pauseAfter t draw cut = none := by
  cases runs with
  | closed => rfl
  | broken from_first before _ unfit => exact ⟨_,from_first,before,unfit⟩

/-- With pauses that can all be represented, the last answer is the result. -/
theorem Runs.whole {first last : Nat} {e : Exchange} (runs : Runs t request answer draw first last e)
    (fits : ∀ k, first ≤ k → k < last → pauseAfter t draw k ≠ none) :
    e.requests = List.replicate (last + 1 - first) request ∧
      e.pauses.map some = (List.range' first (last - first)).map (pauseAfter t draw) ∧
      e.result? = some (t.resultOf (answer last)) := by
  cases runs with
  | closed paused => exact ⟨rfl,paused.symm,rfl⟩
  | broken from_first before _ unfit => exact (fits _ from_first before unfit).elim

/-- At the first pause that cannot be represented, there is no result any more. -/
theorem Runs.cut {first last cut : Nat} {e : Exchange} (runs : Runs t request answer draw first last e)
    (from_first : first ≤ cut) (before : cut < last)
    (fits : ∀ k, first ≤ k → k < cut → pauseAfter t draw k ≠ none) (unfit : pauseAfter t draw cut = none) :
    e.requests = List.replicate (cut + 1 - first) request ∧
      e.pauses.map some = (List.range' first (cut - first)).map (pauseAfter t draw) ∧ e.result? = none := by
  cases runs with
  | closed paused => exact (pauseAfter_of_paused paused from_first (by omega) unfit).elim
  | @broken other from_first' _ pauses paused unfit' =>
    have early : ¬cut < other := fun less => pauseAfter_of_paused paused from_first (by omega) unfit
    have late : ¬other < cut := fun less => fits other from_first' less unfit'
    obtain rfl : other = cut := by omega
    exact ⟨rfl,paused.symm,rfl⟩

end

/-! ## Exchanges -/

section
variable [Patterns]

/-- The terms of an action are those of its settings. -/
theorem Terms.ofAction_ok {action : Action} {t : Terms} (sound : Terms.ofAction action = .ok t) :
    RetryPolicy.ofSettings action.retry? = .ok t.policy ∧
      Expectation.ofPattern action.expectedStatus? = .ok t.expected := by
  simp only [ofAction,bind,Except.bind,pure,Except.pure] at sound
  split at sound
  · cases sound
  next policy read =>
    split at sound
    · cases sound
    next expected compiled =>
      cases sound
      exact ⟨read,compiled⟩

variable [Credentials]

/-- With sound terms, an exchange is a preparation and its attempts. -/
theorem exchange_sound (network : Network) (vault : Vault) (i : Nat) {c : Call} {t : Terms}
    (sound : Terms.ofAction c.action = .ok t) :
    (exchange network c).answered vault i =
      match (prepare network.toOutfit c).run.answered vault i with
      | (.error fault, reads) => (.unsent fault, reads)
      | (.ok p, reads) =>
        (attemptsFrom t p.request (network.answer p.request) network.draw t.policy.maxAttempts 1, reads) := by
  simp only [exchange,sound]
  change (Query.bind _ _).answered vault i = _
  rw [Query.answered_bind]
  generalize (prepare network.toOutfit c).run.answered vault i = first
  obtain ⟨prepared,reads⟩ := first
  cases prepared <;> simp only [pure,Query.answered,List.append_nil]

/-- With a prepared request, an exchange goes on up to the attempt that closes it, or breaks off before. -/
theorem exchange_runs (network : Network) (vault : Vault) (i : Nat) {c : Call} {t : Terms} {p : Prepared}
    (sound : Terms.ofAction c.action = .ok t)
    (prepared : ((prepare network.toOutfit c).run.answered vault i).1 = .ok p) :
    ∃ n, t.Closes (network.answer p.request) 1 n ∧
      Runs t p.request (network.answer p.request) network.draw 1 n ((exchange network c).answered vault i).1 := by
  have allowed : 0 < t.policy.maxAttempts := by
    rw [(RetryPolicy.ofSettings_follows (Terms.ofAction_ok sound).1).attempts]
    exact Nat.lt_of_lt_of_le Nat.zero_lt_one (Nat.le_max_left _ _)
  obtain ⟨n,closes,runs⟩ := attemptsFrom_runs p.request network.draw t.policy.maxAttempts 1 (Nat.add_comm _ _) allowed
  refine ⟨n,closes,?_⟩
  rw [exchange_sound network vault i sound]
  generalize (prepare network.toOutfit c).run.answered vault i = first at prepared
  obtain ⟨_,reads⟩ := first
  cases prepared
  exact runs

/-- Take an action whose terms are sound and whose request is prepared, and any answers. Let `n` be the number of the
first attempt whose answer has an expected status, has a status after which attempts are not repeated or is a failure
that is not worth another attempt; or the number of attempts that the settings allow, and at least one, if there is no
such attempt. If all pauses before it can be represented, `n` requests are sent, with these pauses between them, and the
last answer is the result. If not, the exchange breaks off at the first pause that cannot, and there is no result. -/
theorem exchange_attempts (network : Network) (vault : Vault) (i : Nat) {c : Call} {t : Terms} {p : Prepared}
    (sound : Terms.ofAction c.action = .ok t)
    (prepared : ((prepare network.toOutfit c).run.answered vault i).1 = .ok p) :
    let e := ((exchange network c).answered vault i).1
    t.policy.Follows c.action.retry? ∧ Expectation.ofPattern c.action.expectedStatus? = .ok t.expected ∧
      ∃ n, t.Closes (network.answer p.request) 1 n ∧
        ((∀ k, 1 ≤ k → k < n → pauseAfter t network.draw k ≠ none) →
          e.requests = List.replicate n p.request ∧
            e.pauses.map some = (List.range' 1 (n - 1)).map (pauseAfter t network.draw) ∧
            e.result? = some (t.resultOf (network.answer p.request n)) ∧
            ∀ attempts, e.result? ≠ some (.error (.exhausted attempts))) ∧
        ∀ cut, 1 ≤ cut → cut < n → (∀ k, 1 ≤ k → k < cut → pauseAfter t network.draw k ≠ none) →
          pauseAfter t network.draw cut = none →
          e.requests = List.replicate cut p.request ∧
            e.pauses.map some = (List.range' 1 (cut - 1)).map (pauseAfter t network.draw) ∧ e.result? = none := by
  intro e
  obtain ⟨read,compiled⟩ := Terms.ofAction_ok sound
  obtain ⟨n,closes,runs⟩ := exchange_runs network vault i sound prepared
  refine ⟨RetryPolicy.ofSettings_follows read,compiled,n,closes,fun fits => ?_,fun cut => runs.cut⟩
  obtain ⟨sent,paused,ended⟩ := runs.whole fits
  exact ⟨sent,paused,ended,fun attempts used =>
    Terms.resultOf_ne_exhausted _ _ (Option.some.inj (ended.symm.trans used))⟩

end
end Http

namespace Sample
open Http

/-- An action that is tried up to five times. -/
def stubborn : Action := { url := "http://[::1]:8080/once", retry? := some { maxAttempts? := some 5 } }

def stubbornCall : Call := { action := stubborn, object := event.object, space := "default", headers := Dict.empty }

/-- An endpoint that is busy at first, breaks off the second time and answers well the third time. -/
def faltering : Network where
  lookup _ _ := .ok []
  answer _ attempt :=
    if attempt = 1 then .response 503 none
    else if attempt = 2 then .failure true "connection reset by peer"
    else .response 200 (some "done")
  draw _ := 0

/-- The third attempt is the last one, since its answer has an expected status. -/
theorem exchange_attempts_of_faltering :
    ∃ t p, Terms.ofAction stubborn = .ok t ∧
      ((prepare faltering.toOutfit stubbornCall).run.answered shared 0).1 = .ok p ∧
      t.Closes (faltering.answer p.request) 1 3 ∧
      ((exchange faltering stubbornCall).answered shared 0).1.requests = List.replicate 3 p.request ∧
      ((exchange faltering stubbornCall).answered shared 0).1.pauses.map some =
        [t.policy.delay? 1 0,t.policy.delay? 2 0] ∧
      ((exchange faltering stubbornCall).answered shared 0).1.result? = some (.ok ()) := by
  obtain ⟨t,sound⟩ : ∃ t, Terms.ofAction stubborn = .ok t := ok_of_isOk (by decide +kernel)
  obtain ⟨p,prepared⟩ : ∃ p, ((prepare faltering.toOutfit stubbornCall).run.answered shared 0).1 = .ok p :=
    ok_of_isOk (by decide +kernel)
  obtain ⟨_,_,n,closes,whole,_⟩ := exchange_attempts (c := stubbornCall) faltering shared 0 sound prepared
  have policy : t.policy = { maxAttempts := 5 } := Except.ok.inj ((Terms.ofAction_ok sound).1.symm.trans rfl)
  have few : n ≤ 5 := by simpa [policy] using closes.allowed
  have fits : ∀ k, 1 ≤ k → k < n → pauseAfter t faltering.draw k ≠ none := by
    intro k _ before
    rw [pauseAfter,policy]
    exact (by decide : ∀ k < 5, RetryPolicy.delay? { maxAttempts := 5 } k 0 ≠ none) k (by omega)
  obtain ⟨sent,paused,_⟩ := whole fits
  have three : ((exchange faltering stubbornCall).answered shared 0).1.requests.length = 3 := by decide +kernel
  rw [sent,List.length_replicate] at three
  subst three
  exact ⟨t,p,sound,prepared,closes,sent,paused,by with_unfolding_all rfl⟩

/-- An action whose first pause is the longest span there is. -/
def endlessAction : Action where
  url := "http://[::1]:8080/once"
  retry? := some
    { maxAttempts? := some 2, backoff? := some "18446744073709551615s 999999999ns",
      maxBackoff? := some "18446744073709551615s 999999999ns" }

def endlessCall : Call := { stubbornCall with action := endlessAction }

/-- An endpoint that is busy at first and answers well the second time, and a random draw. -/
def recovering : Network where
  lookup _ _ := .ok []
  answer _ attempt := if attempt = 1 then .response 503 none else .response 200 (some "done")
  draw _ := 1

/-- The second attempt would be the last one. But there is no pause before it, since a span cannot be any longer, and so
there is neither a second request nor a result. -/
theorem exchange_breaks_off :
    ∃ t p, Terms.ofAction endlessAction = .ok t ∧
      ((prepare recovering.toOutfit endlessCall).run.answered shared 0).1 = .ok p ∧
      t.Closes (recovering.answer p.request) 1 2 ∧
      ((exchange recovering endlessCall).answered shared 0).1.requests = [p.request] ∧
      ((exchange recovering endlessCall).answered shared 0).1.result? = none := by
  obtain ⟨t,sound⟩ : ∃ t, Terms.ofAction endlessAction = .ok t := ok_of_isOk (by decide +kernel)
  obtain ⟨p,prepared⟩ : ∃ p, ((prepare recovering.toOutfit endlessCall).run.answered shared 0).1 = .ok p :=
    ok_of_isOk (by decide +kernel)
  have unended : ((exchange recovering endlessCall).answered shared 0).1.result? = none :=
    Option.isNone_iff_eq_none.mp (by decide +kernel)
  obtain ⟨n,closes,runs⟩ := exchange_runs (c := endlessCall) recovering shared 0 sound prepared
  have few : n ≤ 2 := by
    have allowed := closes.allowed
    have attempts := (RetryPolicy.ofSettings_follows (Terms.ofAction_ok sound).1).attempts
    simpa [attempts,endlessAction] using allowed
  generalize ((exchange recovering endlessCall).answered shared 0).1 = e at unended runs ⊢
  cases runs with
  | closed => cases unended
  | @broken cut from_first before pauses paused unfit =>
    obtain rfl : cut = 1 := by omega
    obtain rfl : n = 2 := by omega
    exact ⟨t,p,sound,prepared,closes,rfl,rfl⟩

end Sample
end Callout
