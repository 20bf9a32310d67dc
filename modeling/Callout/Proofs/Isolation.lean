import Callout.Certificate
import Callout.Executors
import Callout.Http.Exchange
import Callout.Proofs.Effect
import Callout.Proofs.World

/-!
Rules see the secrets of their own namespace only. Headers, authorities and client certificates are all read in the
namespace that a call carries, and a dispatch or a task gives its calls the namespace of its rule. So two stores of
secrets that answer alike for a namespace cannot be told apart by its rules: what is asked, run, sent and recorded is
the same (`Environs.secrets_isolated`).
-/
namespace Callout

/-! ## Queries that stay in a namespace -/

/-- A store of secrets that may change between questions: the store at each question. -/
abbrev Vault := Nat → SecretStore

namespace Query
variable {α β : Type} {space : String}

/-- The result of a query that begins with a question of this number, and the secrets that it asked for. -/
def answered (vault : Vault) : Nat → Query α → α × List (String × String)
  | _, .done a => (a, [])
  | i, .ask space name next =>
    let rest := answered vault (i + 1) (next (vault i space name))
    (rest.1, (space, name) :: rest.2)

/-- A query that follows another one asks after it, and is answered from there on. -/
theorem answered_bind (vault : Vault) (i : Nat) (q : Query α) (f : α → Query β) :
    (q.bind f).answered vault i =
      let first := q.answered vault i
      let second := (f first.1).answered vault (i + first.2.length)
      (second.1, first.2 ++ second.2) := by
  induction q generalizing i with
  | done a => rfl
  | ask space name next ih =>
    simp only [bind,answered,ih,List.cons_append,List.length_cons]
    rw [show i + 1 + (answered vault (i + 1) (next (vault i space name))).2.length =
      i + ((answered vault (i + 1) (next (vault i space name))).2.length + 1) by omega]

/-- Parts of a query, one after the other. -/
theorem answered_bind_except {ε : Type} (vault : Vault) (i : Nat) (x : ExceptT ε Query α)
    (f : α → ExceptT ε Query β) :
    (x >>= f).run.answered vault i =
      match x.run.answered vault i with
      | (.error fault, reads) => (.error fault, reads)
      | (.ok a, reads) =>
        let second := (f a).run.answered vault (i + reads.length)
        (second.1, reads ++ second.2) := by
  change (Query.bind x.run _).answered vault i = _
  rw [answered_bind]
  generalize x.run.answered vault i = first
  obtain ⟨result,reads⟩ := first
  cases result with
  | error fault => simp only [ExceptT.bindCont,pure,Query.answered,List.append_nil]
  | ok a => rfl

theorem Stays.bind {q : Query α} {f : α → Query β} (stays : q.Stays space) (next : ∀ a, (f a).Stays space) :
    (q.bind f).Stays space := by
  induction q with
  | done a => exact next a
  | ask s name rest ih => exact ⟨stays.1,fun answer => ih answer (stays.2 answer)⟩

theorem Stays.except {ε : Type} {x : ExceptT ε Query α} {f : α → ExceptT ε Query β} (stays : Stays space x.run)
    (next : ∀ a, Stays space (f a).run) : Stays space (x >>= f).run := by
  refine Stays.bind stays fun result => ?_
  cases result with
  | error cause => trivial
  | ok a => exact next a

/-- A query that stays in a namespace asks for nothing outside. -/
theorem Stays.asks {q : Query α} (stays : q.Stays space) (vault : Vault) (i : Nat) :
    ∀ read ∈ (q.answered vault i).2, read.1 = space := by
  induction q generalizing i with
  | done a => exact fun read member => by cases member
  | ask s name next ih =>
    intro read member
    rcases List.mem_cons.mp member with rfl | member
    · exact stays.1
    · exact ih _ (stays.2 _) _ read member

/-- A query that stays in a namespace does not tell stores apart that answer alike there. -/
theorem Stays.same {q : Query α} (stays : q.Stays space) {vault vault' : Vault}
    (alike : ∀ i name, vault i space name = vault' i space name) (i : Nat) :
    q.answered vault i = q.answered vault' i := by
  induction q generalizing i with
  | done a => rfl
  | ask s name next ih =>
    obtain ⟨rfl,rest⟩ := stays
    simp only [answered,alike,ih _ (rest _)]

end Query

theorem Secret.value_stays (space name key : String) : (Secret.value space name key).Stays space :=
  ⟨rfl,fun _ => trivial⟩

theorem HeaderSource.resolve_stays (space header : String) (source : HeaderSource) :
    (source.resolve space header).Stays space := by
  unfold resolve
  split
  · refine Query.Stays.bind (Secret.value_stays _ _ _) fun value => ?_
    cases value with
    | error cause => trivial
    | ok bytes =>
      dsimp only
      split <;> trivial
  · trivial
  · trivial

theorem resolveEntries_stays (space : String) (entries : List (String × HeaderSource)) :
    (resolveEntries space entries).Stays space := by
  induction entries with
  | nil => trivial
  | cons entry rest ih =>
    obtain ⟨name,source⟩ := entry
    refine Query.Stays.bind (source.resolve_stays space name) fun value => ?_
    cases value with
    | error cause => trivial
    | ok value => exact ih.bind fun _ => trivial

/-- Headers are resolved in one namespace. -/
theorem resolveHeaders_stays (space : String) (headers : Dict HeaderSource) :
    (resolveHeaders space headers).Stays space :=
  (resolveEntries_stays space headers.entries).bind fun _ => trivial

theorem Http.configured_stays {α : Type} (space : String) (part : Except Misconfiguration α) :
    Query.Stays space (Http.configured part).run :=
  trivial

namespace Http
open Query (Stays)
variable [Credentials]

theorem trustOf_stays (space : String) (source? : Option AuthoritiesSource) :
    Stays space (trustOf space source?).run := by
  cases source? with
  | none => trivial
  | some source =>
    refine Stays.except (Secret.value_stays _ _ _) fun bytes => ?_
    split <;> trivial

theorem identityOf_stays (space : String) (source? : Option ClientSource) :
    Stays space (identityOf space source?).run := by
  cases source? with
  | none => trivial
  | some source => exact ⟨rfl,fun _ => trivial⟩

theorem clientOf_stays (space : String) (settings? : Option TlsSettings) :
    Stays space (clientOf space settings?).run :=
  Stays.except (trustOf_stays _ _) fun _ => Stays.except (identityOf_stays _ _) fun _ => trivial

theorem outline_stays (lookup : Lookup) (c : Call) : Stays c.space (outline lookup c).run := by
  refine Stays.except (configured_stays _ _) fun timeout => ?_
  refine Stays.except (configured_stays _ _) fun method => ?_
  refine Stays.except (configured_stays _ _) fun url => ?_
  refine Stays.except (configured_stays _ _) fun headers => ?_
  refine Stays.except (Stays.bind (clientOf_stays _ _) fun _ => trivial) fun client => ?_
  dsimp only
  split <;> trivial

/-- All that is settled before a request is sent is read in the namespace of the call. -/
theorem prepare_stays (outfit : Outfit) (c : Call) : Stays c.space (prepare outfit c).run :=
  Stays.except (outline_stays _ _) fun _ => Stays.except (configured_stays _ _) fun _ =>
    Stays.except (configured_stays _ _) fun _ => trivial

theorem exchange_stays [Patterns] (network : Network) (c : Call) : (exchange network c).Stays c.space := by
  unfold exchange
  split
  · trivial
  · refine Stays.bind (prepare_stays _ _) fun prepared => ?_
    cases prepared <;> trivial

end Http

/-! ## What is seen of an activity -/

section
variable [Credentials]

/-- What the HTTP executor makes of a call: what it settles before it sends, with the client, and the exchange. -/
structure Sending where
  prepared : Except Fault Http.Prepared
  exchange : Http.Exchange

/-- How a demand is met: the answer if there is one, the secrets that were read for it and what was sent. -/
structure Encounter (d : Demand) where
  answer? : Option d.Answer
  reads : List (String × String) := []
  sending? : Option Sending := none

/-- One step of an activity as it is seen from outside: what it waited for, what it met, and what it did if it was
answered. -/
structure Sign where
  demand : Demand
  met : Encounter demand
  outcome? : Option Activity.Outcome

/-- The secrets that were read. -/
def secretsRead (signs : List Sign) : List (String × String) := signs.flatMap (·.met.reads)

/-- An executor. What it meets may depend on all that was seen before. -/
inductive Executor where
  | http (network : List Sign → Http.Network)
  | other (perform : List Sign → Call → Option (Except Fault Unit))

/-- All that is around an activity but secrets. It may depend on all that was seen before. -/
structure Environs where
  now : List Sign → Moment
  /-- The registry at a step, which others use, too. -/
  registry : List Sign → Registry
  /-- The answer to a demand that is neither for a secret nor for a run, if there is one. -/
  answer? : List Sign → (d : Demand) → Option d.Answer
  executors : Executors Executor

/-- An activity that is followed: what was seen of it, latest first, and where it is. -/
structure Episode where
  signs : List Sign := []
  progress : Progress Activity Activity.Result

namespace Environs

/-- A call run by the executor of its kind. -/
def perform (e : Environs) (vault : Vault) (signs : List Sign) (call : Call) : Encounter (.run call) :=
  match e.executors.pick call.action with
  | .error cause => { answer? := some (.error (.config cause) : Except Fault Unit) }
  | .ok (.other perform) => { answer? := perform signs call }
  | .ok (.http network) =>
    let i := (secretsRead signs).length
    let exchanged := (Http.exchange (network signs) call).answered vault i
    let prepared := ((Http.prepare (network signs).toOutfit call).run.answered vault i).1
    { answer? := exchanged.1.result?, reads := exchanged.2, sending? := some ⟨prepared, exchanged.1⟩ }

/-- How a demand is met. Each secret comes from the store as it is by then. -/
def meet (e : Environs) (vault : Vault) (signs : List Sign) : (d : Demand) → Encounter d
  | .secret space name => { answer? := some (vault (secretsRead signs).length space name), reads := [(space, name)] }
  | .run call => e.perform vault signs call
  | d => { answer? := e.answer? signs d }

/-- One more step of an activity that is followed. One that is never answered does nothing any more. -/
def next (e : Environs) (settings : EngineSettings) (vault : Vault) (p : Episode) : Episode :=
  match p.progress with
  | .finished _ => p
  | .waiting activity =>
    let met := e.meet vault p.signs activity.demand
    let outcome? := met.answer?.map (activity.resume settings (e.now p.signs) (e.registry p.signs))
    ⟨⟨activity.demand, met, outcome?⟩ :: p.signs, outcome?.elim (.finished .none) (·.progress)⟩

/-- Some steps of an activity, or all if there are fewer. -/
def episode (e : Environs) (settings : EngineSettings) (vault : Vault) (start : Progress Activity Activity.Result) :
    Nat → Episode
  | 0 => { progress := start }
  | n + 1 => e.next settings vault (e.episode settings vault start n)

end Environs
end

/-! ## Activities that stay in a namespace -/

/-- Whether a demand is not for secrets outside a namespace, nor for a run in another one. -/
def Demand.Stays (space : String) : Demand → Prop
  | .secret s _ => s = space
  | .run call => call.space = space
  | .rules | .rule _ | .update _ | .resolve _ | .pause _ | .tick _ _ | .notification _ | .news _ | .never => True

/-- Whether a dispatch is for a rule of a namespace, and reads and runs in it. -/
def Dispatch.Stays (space : String) (d : Dispatch) : Prop :=
  d.rule.space = space ∧
    match d.stage with
    | .confirming | .recording _ => True
    | .reading _ _ s name next => (Query.ask s name next).Stays space
    | .running call _ => call.space = space

/-- Whether the task of a run has a namespace, and the run reads and runs in it. -/
def IntervalRun.Stays (space : String) (r : IntervalRun) : Prop :=
  r.task.space = space ∧
    match r.stage with
    | .waiting | .looking | .lost => True
    | .reading s name next => (Query.ask s name next).Stays space
    | .running call => call.space = space

/-- Whether an activity dispatches to one rule of a namespace, or runs a task of it. -/
def Activity.Stays (space : String) : Activity → Prop
  | .delivery (.dispatching d [] _) => d.Stays space
  | .task run => run.Stays space
  | .delivery (.dispatching _ (_ :: _) _) | .delivery (.listing _) | .watch _ | .arming _ | .unopened _ | .opening _
  | .reconciling _ | .reconciler _ => False

namespace Dispatch
variable {space : String}

theorem withHeaders_stays {d : Dispatch} (own : d.rule.space = space) (now : Moment) (action : Action)
    (rest : List Action) {query : Query (Except Misconfiguration (Dict String))} (stays : query.Stays space) :
    (d.withHeaders now action rest query).Stays space := by
  cases query with
  | ask s name next => exact ⟨own,stays⟩
  | done result =>
    cases result with
    | error cause => exact ⟨own,trivial⟩
    | ok headers => exact ⟨own,own⟩

theorem perform_stays {d : Dispatch} (own : d.rule.space = space) (now : Moment) (actions : List Action) :
    (d.perform now actions).Stays space := by
  cases actions with
  | nil => exact ⟨own,trivial⟩
  | cons action rest =>
    subst own
    exact withHeaders_stays rfl now action rest (resolveHeaders_stays _ _)

/-- A dispatch that goes on stays in the namespace of its rule. -/
theorem Stays.resume {settings : EngineSettings} {now : Moment} {registry registry' : Registry} {d d' : Dispatch}
    {answer : d.demand.Answer} (stays : d.Stays space)
    (went : d.resume settings now registry answer = (registry',.waiting d')) : d'.Stays space := by
  obtain ⟨own,stays⟩ := stays
  have advances := d.resume_advances settings now registry answer
  rw [went] at advances
  cases advances with
  | begins => exact perform_stays own now _
  | read answer => exact withHeaders_stays own now _ _ (stays.2 answer)
  | @ran _ _ _ rest answer =>
    cases answer with
    | ok _ => exact perform_stays own now rest
    | error fault => exact ⟨own,trivial⟩
  | records => exact ⟨own,trivial⟩

theorem Stays.demand {d : Dispatch} (stays : d.Stays space) : d.demand.Stays space := by
  obtain ⟨rule,event,stage⟩ := d
  obtain ⟨_,stays⟩ := stays
  cases stage with
  | confirming => trivial
  | reading action rest s name next => exact stays.1
  | running call rest => exact stays
  | recording recording =>
    obtain ⟨id,execution,outcome,attempt,stage⟩ := recording
    cases stage <;> trivial

end Dispatch

namespace IntervalRun
variable {space : String}

theorem withHeaders_stays {r : IntervalRun} (own : r.task.space = space)
    {query : Query (Except Misconfiguration (Dict String))} (stays : query.Stays space) :
    (r.withHeaders query).Stays space := by
  cases query with
  | ask s name next => exact ⟨own,stays⟩
  | done result =>
    cases result with
    | error cause => exact ⟨own,trivial⟩
    | ok headers => exact ⟨own,own⟩

theorem perform_stays {r : IntervalRun} (own : r.task.space = space) : r.perform.Stays space := by
  subst own
  exact withHeaders_stays rfl (resolveHeaders_stays _ _)

/-- The run of a task stays in the namespace of the task. -/
theorem Stays.resume {now : Moment} {registry registry' : Registry} {r r' : IntervalRun} {answer : r.demand.Answer}
    (stays : r.Stays space) (went : r.resume now registry answer = (registry',.waiting r')) : r'.Stays space := by
  obtain ⟨own,stays⟩ := stays
  cases advances_of_waiting went with
  | performs | found => exact perform_stays own
  | looks | passed | ran => exact ⟨own,trivial⟩
  | read answer => exact withHeaders_stays own (stays.2 answer)

theorem start_stays {task : IntervalTask} (own : task.space = space) (now : Moment) : (start task now).Stays space := by
  refine ⟨own,?_⟩
  rcases start_stage task now with resting | lost
  · rw [resting]
    trivial
  · rw [lost]
    trivial

theorem Stays.demand {r : IntervalRun} (stays : r.Stays space) : r.demand.Stays space := by
  obtain ⟨task,ticker,stage⟩ := r
  obtain ⟨_,stays⟩ := stays
  cases stage with
  | waiting => trivial
  | looking => trivial
  | reading s name next => exact stays.1
  | running call => exact stays
  | lost => trivial

end IntervalRun

namespace Activity
variable {space : String}

theorem Stays.resume {settings : EngineSettings} {now : Moment} {registry : Registry} {activity activity' : Activity}
    {answer : activity.demand.Answer} (stays : activity.Stays space)
    (went : (activity.resume settings now registry answer).progress = .waiting activity') :
    activity'.Stays space := by
  cases activity with
  | delivery delivery =>
    cases delivery with
    | listing event => exact stays.elim
    | dispatching d rest first? =>
      cases rest with
      | cons rule rest => exact stays.elim
      | nil =>
        change ((Delivery.withDispatch d.event [] first? (d.resume settings now registry answer)).progress.map
          Activity.delivery Result.outcome) = _ at went
        cases step : d.resume settings now registry answer with
        | mk between progress =>
          rw [step] at went
          cases progress with
          | waiting d' =>
            cases went
            exact Dispatch.Stays.resume stays step
          | finished result => cases went
  | task run =>
    change ((run.resume now registry answer).2.map Activity.task fun _ => Result.none) = _ at went
    cases step : run.resume now registry answer with
    | mk between progress =>
      rw [step] at went
      cases progress with
      | waiting run' =>
        cases went
        exact IntervalRun.Stays.resume stays step
      | finished result => cases went
  | watch | arming | unopened | opening | reconciling | reconciler => exact stays.elim

theorem Stays.demand {activity : Activity} (stays : activity.Stays space) : activity.demand.Stays space := by
  cases activity with
  | delivery delivery =>
    cases delivery with
    | listing event => exact stays.elim
    | dispatching d rest first? =>
      cases rest with
      | cons rule rest => exact stays.elim
      | nil => exact Dispatch.Stays.demand stays
  | task run => exact IntervalRun.Stays.demand stays
  | watch | arming | unopened | opening | reconciling | reconciler => exact stays.elim

end Activity

/-- A task has the namespace of the rule that it was armed for. -/
theorem Registry.arm_space (r : Registry) (event : Event) (rules : List Rule) :
    ∀ task ∈ (r.arm event rules).armed, task.space = task.key.rule.space := by
  let Placed (a : Arming) : Prop := ∀ task ∈ a.armed, task.space = task.key.rule.space
  refine Arming.arm_induction (motive := Placed) (fun task member => by cases member) ?_
  intro a holds rule _ _ entry _
  refine Arming.action_cases (motive := Placed) rule event a entry holds (fun _ => holds) ?_
  intro period free task member
  rw [Arming.register_of_free free] at member
  rcases List.mem_append.mp member with old | new
  · exact holds task old
  · cases List.mem_singleton.mp new
    rfl

/-- What begins for the rules of a namespace: the delivery of an event to one of them, or the run of a task that was
armed for one. -/
inductive Owned (space : String) : Progress Activity Activity.Result → Prop where
  | delivery (registry : Registry) (event : Event) (rule : Rule) (own : rule.space = space) :
      Owned space ((Delivery.proceed registry event none [rule]).progress.map .delivery .outcome)
  | task (registry : Registry) (event : Event) (rules : List Rule) (task : IntervalTask)
      (armed : task ∈ (registry.arm event rules).armed) (own : task.key.rule.space = space) (now : Moment) :
      Owned space (.waiting (.task (.start task now)))

theorem Owned.stays {space : String} {start : Progress Activity Activity.Result} (owned : Owned space start)
    (activity : Activity) (went : start = .waiting activity) : activity.Stays space := by
  cases owned with
  | delivery registry event rule own =>
    rw [Delivery.proceed] at went
    split at went
    · cases went
    · split at went
      next registry' d started =>
        cases went
        obtain ⟨rfl,_⟩ := Dispatch.start_waiting started
        exact ⟨own,trivial⟩
      next => cases went
  | task registry event rules task armed own now =>
    cases went
    exact IntervalRun.start_stays ((registry.arm_space event rules task armed).trans own) now

/-! ## Two stores -/

namespace Environs
variable [Credentials] {e : Environs} {space : String} {vault vault' : Vault}

theorem meet_same (alike : ∀ i name, vault i space name = vault' i space name) {d : Demand} (stays : d.Stays space)
    (signs : List Sign) : e.meet vault signs d = e.meet vault' signs d := by
  cases d with
  | secret s name =>
    cases stays
    simp only [meet,alike]
  | run call =>
    cases stays
    simp only [meet,perform,(Http.exchange_stays _ call).same alike,(Http.prepare_stays _ call).same alike]
  | rules | rule | update | resolve | pause | tick | notification | news | never => rfl

theorem meet_reads {d : Demand} (stays : d.Stays space) (signs : List Sign) :
    ∀ read ∈ (e.meet vault signs d).reads, read.1 = space := by
  cases d with
  | secret s name =>
    intro read member
    cases List.mem_singleton.mp member
    exact stays
  | run call =>
    cases stays
    intro read member
    simp only [meet,perform] at member
    split at member
    · cases member
    · cases member
    · exact (Http.exchange_stays _ call).asks vault _ read member
  | rules | rule | update | resolve | pause | tick | notification | news | never =>
    exact fun read member => by cases member

/-- Two stores that answer alike for a namespace cannot be told apart by what stays in it. -/
theorem episode_same (e : Environs) (settings : EngineSettings)
    (alike : ∀ i name, vault i space name = vault' i space name) {start : Progress Activity Activity.Result}
    (stays : ∀ activity, start = .waiting activity → activity.Stays space) (n : Nat) :
    e.episode settings vault start n = e.episode settings vault' start n ∧
      (∀ read ∈ secretsRead (e.episode settings vault start n).signs, read.1 = space) ∧
      ∀ activity, (e.episode settings vault start n).progress = .waiting activity → activity.Stays space := by
  induction n with
  | zero => exact ⟨rfl,by simp [episode,secretsRead],stays⟩
  | succ n ih =>
    obtain ⟨same,reads,confined⟩ := ih
    simp only [episode,← same]
    generalize e.episode settings vault start n = p at reads confined
    obtain ⟨signs,progress⟩ := p
    cases progress with
    | finished result => exact ⟨rfl,reads,confined⟩
    | waiting activity =>
      have here := confined activity rfl
      refine ⟨?_,?_,?_⟩
      · simp only [next,meet_same alike here.demand]
      · intro read member
        rcases List.mem_append.mp member with new | old
        · exact meet_reads here.demand signs read new
        · exact reads read old
      · intro activity' went
        simp only [next] at went
        cases answered : (e.meet vault signs activity.demand).answer? with
        | none => simp [answered] at went
        | some answer => exact here.resume (by simpa [answered] using went)

/-- Take two stores of secrets that answer alike for a namespace, at each question. Whatever begins for a rule of the
namespace, the same is seen with both, step by step and to the end: the same calls, the same requests over the same
clients, the same results, rules read and statuses stored. No secret of another namespace is read. -/
theorem secrets_isolated (e : Environs) (settings : EngineSettings) {space : String} {vault vault' : Vault}
    (alike : ∀ i name, vault i space name = vault' i space name) {start : Progress Activity Activity.Result}
    (owned : Owned space start) (n : Nat) :
    e.episode settings vault start n = e.episode settings vault' start n ∧
      ∀ read ∈ secretsRead (e.episode settings vault start n).signs, read.1 = space := by
  obtain ⟨same,reads,_⟩ := e.episode_same settings alike owned.stays n
  exact ⟨same,reads⟩

end Environs

namespace Sample

/-- A rule with an action that takes a header from a secret. -/
def keyedRule : Rule :=
  rule { url := "http://hook/keyed", headers := Dict.ofList [("authorization",{ secret? := some ⟨"token","key"⟩ })] }

/-- A store that has one secret in every namespace. -/
def shared : Vault := fun _ _ _ => .ok (Dict.ofList [("key","secret".toUTF8)])

/-- The same store with the secret of one namespace only. -/
def lone : Vault := fun i space name => if space = "default" then shared i space name else .error (.notFound name)

/-- Surroundings in which the rule is there and nothing fails. -/
def calm : Environs where
  now _ := moment
  registry _ := {}
  answer? _
    | .rules => some (Except.ok [keyedRule])
    | .rule _ => some (Except.ok keyedRule)
    | .update _ | .run _ => some (Except.ok ())
    | .secret _ name | .resolve ⟨_, _, name⟩ => some (Except.error (.notFound name))
    | .pause _ => some ()
    | .tick _ _ => some .due
    | .notification _ => some .ended
    | .news _ => some .ended
    | .never => none
  executors := Executors.empty.register "http"
    (.http fun _ =>
      { lookup := fun _ _ => .ok [], answer := fun _ _ => .response 200 "", draw := fun _ => 0 })

/-- A dispatch reads the secret of its namespace, and does not notice that the others are gone. -/
theorem secrets_isolated_of_lone :
    (∀ i name, lone i "default" name = shared i "default" name) ∧ lone 0 "other" "token" ≠ shared 0 "other" "token" ∧
      secretsRead (calm.episode {} lone
        ((Delivery.proceed {} event none [keyedRule]).progress.map .delivery .outcome) 2).signs =
          [("default","token")] ∧
      ∀ n, calm.episode {} lone ((Delivery.proceed {} event none [keyedRule]).progress.map .delivery .outcome) n =
        calm.episode {} shared ((Delivery.proceed {} event none [keyedRule]).progress.map .delivery .outcome) n := by
  have alike : ∀ i name, lone i "default" name = shared i "default" name := fun _ _ => rfl
  refine ⟨alike,nofun,rfl,fun n => ?_⟩
  exact (Environs.secrets_isolated calm {} alike (.delivery {} event keyedRule rfl) n).1

end Sample
end Callout
