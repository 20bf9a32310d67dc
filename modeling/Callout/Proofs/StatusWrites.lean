import Callout.Cluster.Rules
import Callout.Json.Writer
import Callout.Proofs.StoredRule
import Callout.Proofs.WriteBudget

/-!
Recordings on the cluster. A recording asks the server for the rule and sends it back with another status, and what the
server answers decides whether it does so again (`Rules.Correspondence`). So each rule that is sent is the one that was
told directly before, down to its version, and what is read of it is that rule with just the status changed
(`Rules.status_written`).
-/
namespace Callout
open Cluster (Request Response Inquiry)

/-! ## What can be written of a status -/

namespace Condition

theorem since_upsert {conditions : List Condition} {new : Condition} {now : Timestamp} {c : Condition}
    (member : c ∈ upsert conditions new now) : c.since = now ∨ ∃ old ∈ conditions, c.since = old.since := by
  induction conditions with
  | nil =>
    rw [upsert,List.mem_singleton] at member
    exact .inl (by rw [member])
  | cons old rest ih =>
    simp only [upsert] at member
    split at member
    · rcases List.mem_cons.mp member with rfl | member
      · dsimp only
        split
        · exact .inr ⟨old,List.mem_cons_self,rfl⟩
        · exact .inl rfl
      · exact .inr ⟨c,List.mem_cons_of_mem _ member,rfl⟩
    · rcases List.mem_cons.mp member with rfl | member
      · exact .inr ⟨c,List.mem_cons_self,rfl⟩
      · rcases ih member with now | ⟨old,inside,same⟩
        · exact .inl now
        · exact .inr ⟨old,List.mem_cons_of_mem _ inside,same⟩

end Condition

/-- A status that is recorded says no points in time but those that it said before, that of the execution and the one
at which it is recorded. -/
theorem RuleStatus.told_record {s : RuleStatus} {execution : Execution} {outcome : Outcome} {generation? : Option Int64}
    {now : Timestamp} (before : ∀ t ∈ s.timestamps, t.Told) (ran : execution.at_.Told) (present : now.Told) :
    ∀ t ∈ (s.record execution outcome generation? now).timestamps, t.Told := by
  intro t member
  rcases List.mem_append.mp member with member | member
  · obtain ⟨e,listed,rfl⟩ := List.mem_map.mp member
    simp only [record] at listed
    split at listed
    · exact before _ (List.mem_append_left _ (List.mem_map_of_mem listed))
    · rcases List.mem_append.mp listed with listed | last
      · exact before _ (List.mem_append_left _ (List.mem_map_of_mem listed))
      · rw [List.mem_singleton.mp last]
        exact ran
  · obtain ⟨c,listed,rfl⟩ := List.mem_map.mp member
    rcases Condition.since_upsert listed with same | ⟨old,inside,same⟩
    · rw [same]
      exact present
    · rw [same]
      exact before _ (List.mem_append_right _ (List.mem_map_of_mem inside))

/-! ## Exchanges with the server -/

namespace Cluster

/-- The code with which the server refuses, if an answer is a refusal. It stands in the answer's text, or else is the
status of the answer. -/
def Response.code? (r : Response) : Option UInt16 := (Refusal.ofResponse? r).map (·.code)

/-- The faults that a code stands for. -/
inductive Meaning (code? : Option UInt16) : Fault → Prop where
  | conflict (code : code? = some 409) (message : String) : Meaning code? (.conflict message)
  | notFound (code : code? = some 404) (message : String) : Meaning code? (.notFound message)
  | store (noConflict : code? ≠ some 409) (there : code? ≠ some 404) (message : String) : Meaning code? (.store message)

theorem Meaning.isConflict_iff {code? : Option UInt16} {fault : Fault} (meaning : Meaning code? fault) :
    fault.isConflict = true ↔ code? = some 409 := by
  cases meaning with
  | conflict code => exact iff_of_true rfl code
  | notFound code => exact iff_of_false nofun (by simp [code])
  | store noConflict => exact iff_of_false nofun noConflict

/-- An answer that fails means what its code stands for. -/
theorem Response.meaning {α : Type} {r : Response} {reader : Json → Option α} {error : Error}
    (failed : r.read reader = .error error) (what : String) : Meaning r.code? (error.fault what) := by
  rw [read] at failed
  simp only [code?]
  cases refused : Refusal.ofResponse? r with
  | some refusal =>
    rw [refused] at failed
    cases failed
    simp only [Error.fault]
    split
    next code => exact .conflict (congrArg some code) _
    next noConflict =>
      split
      next code => exact .notFound (congrArg some code) _
      next there => exact .store (by simpa using noConflict) (by simpa using there) _
  | none =>
    rw [refused] at failed
    dsimp only at failed
    split at failed
    · cases failed
    · cases failed
      exact .store (by simp) (by simp) _

theorem Response.read_of_parse {α : Type} {r : Response} {reader : Json → Option α} {a : α}
    (accepted : Refusal.ofResponse? r = none) (said : (Json.parse r.body).bind reader = some a) :
    r.read reader = .ok a := by
  simp only [read,accepted,said]

theorem Response.ofJson_of_read {α : Type} {r : Response} {reader : Json → Option α} {a : α}
    (told : r.read reader = .ok a) : ∃ j, reader j = some a := by
  rw [read] at told
  split at told
  · cases told
  · split at told
    next b found =>
      cases told
      obtain ⟨j,_,said⟩ := Option.bind_eq_some_iff.mp found
      exact ⟨j,said⟩
    · cases told

theorem Response.code?_of_read {α : Type} {r : Response} {reader : Json → Option α} {a : α}
    (told : r.read reader = .ok a) : r.code? = none := by
  rw [read] at told
  cases refused : Refusal.ofResponse? r with
  | none => rw [code?,refused,Option.map_none]
  | some refusal =>
    rw [refused] at told
    cases told

/-- A request and the answer to it. -/
structure Exchange where
  request : Request
  response : Response

/-- What an inquiry comes to, and what was exchanged after it, when the server gives its answers in turn. -/
def Inquiry.settle {α : Type} (answers : Nat → Response) (log : List Exchange) :
    Inquiry α → Except Fault α × List Exchange
  | .settled result => (result, log)
  | .asking request read => (read (answers log.length), log ++ [⟨request, answers log.length⟩])

namespace Inquiry
variable {α β : Type} {answers : Nat → Response} {log : List Exchange}

/-- What an inquiry about an object comes to. -/
inductive Settles (answers : Nat → Response) (log : List Exchange) (name : String) (request : Request)
    (reader : Json → Option α) : Except Fault α × List Exchange → Prop where
  /-- An object without name is not asked for. -/
  | nameless (nameless : name = "") (message : String) :
      Settles answers log name request reader (.error (.store message), log)
  | told (named : name ≠ "") {a : α} (told : (answers log.length).read reader = .ok a) :
      Settles answers log name request reader (.ok a, log ++ [⟨request, answers log.length⟩])
  /-- A failure means what the code of the answer stands for. -/
  | failed (named : name ≠ "") {error : Error} (failed : (answers log.length).read reader = .error error)
      {fault : Fault} (meaning : Meaning (answers log.length).code? fault) :
      Settles answers log name request reader (.error fault, log ++ [⟨request, answers log.length⟩])

theorem settles_aboutNamed (what name : String) (request : Request) (reader : Json → Option α) :
    Settles answers log name request reader ((aboutNamed what name request reader).settle answers log) := by
  by_cases nameless : name = ""
  · rw [aboutNamed,if_pos nameless]
    exact .nameless nameless _
  · rw [aboutNamed,if_neg nameless]
    simp only [about,settle]
    cases told : (answers log.length).read reader with
    | ok a => exact .told nameless told
    | error error => exact .failed nameless told (Response.meaning told what)

theorem settle_map (inquiry : Inquiry α) (f : α → β) :
    (inquiry.map f).settle answers log = ((inquiry.settle answers log).1.map f,(inquiry.settle answers log).2) := by
  cases inquiry <;> rfl

end Inquiry

namespace Rules

/-- What stands outside for a rule whose store is the cluster, by what was exchanged with its server. -/
def outside (answers : Nat → Response) (id : RuleId) (others : Outside (List Exchange)) : Outside (List Exchange) :=
  { others with
    read := fun log => (get id).settle answers log
    store := fun given log => ((update given).map fun _ => ()).settle answers log }

/-- The request for a rule. -/
def asking (id : RuleId) : Request := { path := pathOf id }

/-- The request that sends a rule for its status to be stored. -/
def sending (given : Rule) : Request :=
  { method := .put, path := pathOf given.id ++ "/status", body? := some given.toJson }

/-- The exchanges of a recording from an attempt and an answer on, and its result. -/
inductive Correspondence (answers : Nat → Response) (clock : Nat → Moment) (r : Recording) (budget : Nat) :
    Nat → Nat → List Exchange → Except Fault Unit → Prop where
  /-- A rule without name is not asked for. -/
  | unasked {k j : Nat} (nameless : r.rule.name = "") (message : String) :
      Correspondence answers clock r budget k j [] (.error (.store message))
  /-- The rule is not told. -/
  | unread {k j : Nat} (named : r.rule.name ≠ "") {error : Error}
      (failed : (answers j).read Rule.ofJson = .error error) {fault : Fault}
      (meaning : Meaning (answers j).code? fault) :
      Correspondence answers clock r budget k j [⟨asking r.rule, answers j⟩] (.error fault)
  /-- The rule that is told has no name by which it could be sent. -/
  | unsent {k j : Nat} (named : r.rule.name ≠ "") {latest : Rule} (told : (answers j).read Rule.ofJson = .ok latest)
      (nameless : latest.name = "") (message : String) :
      Correspondence answers clock r budget k j [⟨asking r.rule, answers j⟩] (.error (.store message))
  /-- The status is stored. -/
  | stored {k j : Nat} (named : r.rule.name ≠ "") {latest kept : Rule}
      (told : (answers j).read Rule.ofJson = .ok latest) (sendable : latest.name ≠ "") (n : Nat)
      (taken : (answers (j + 1)).read Rule.ofJson = .ok kept) :
      Correspondence answers clock r budget k j
        [⟨asking r.rule, answers j⟩, ⟨sending (r.extended latest (clock n).wall), answers (j + 1)⟩] (.ok ())
  /-- The status is not stored, and there is no conflict or no attempt left. -/
  | refused {k j : Nat} (named : r.rule.name ≠ "") {latest : Rule} (told : (answers j).read Rule.ofJson = .ok latest)
      (sendable : latest.name ≠ "") (n : Nat) {error : Error}
      (failed : (answers (j + 1)).read Rule.ofJson = .error error) {fault : Fault}
      (meaning : Meaning (answers (j + 1)).code? fault) (closed : (answers (j + 1)).code? ≠ some 409 ∨ ¬k < budget) :
      Correspondence answers clock r budget k j
        [⟨asking r.rule, answers j⟩, ⟨sending (r.extended latest (clock n).wall), answers (j + 1)⟩] (.error fault)
  /-- There is a conflict while attempts are left. -/
  | again {k j : Nat} (named : r.rule.name ≠ "") {latest : Rule} (told : (answers j).read Rule.ofJson = .ok latest)
      (sendable : latest.name ≠ "") (n : Nat) (conflict : (answers (j + 1)).code? = some 409) (left : k < budget)
      {rest : List Exchange} {result : Except Fault Unit}
      (later : Correspondence answers clock r budget (k + 1) (j + 2) rest result) :
      Correspondence answers clock r budget k j
        (⟨asking r.rule, answers j⟩ :: ⟨sending (r.extended latest (clock n).wall), answers (j + 1)⟩ :: rest) result

variable {answers : Nat → Response} {id : RuleId} {others : Outside (List Exchange)} {settings : EngineSettings}
  {clock : Nat → Moment} {execution : Execution} {outcome : RuleStatus.Outcome}

theorem read_settles (answers : Nat → Response) (id : RuleId) (others : Outside (List Exchange)) (log : List Exchange) :
    Inquiry.Settles answers log id.name (asking id) Rule.ofJson ((outside answers id others).read log) :=
  Inquiry.settles_aboutNamed _ _ _ _

theorem store_settles (answers : Nat → Response) (id : RuleId) (others : Outside (List Exchange)) (given : Rule)
    (log : List Exchange) : ∃ told,
    Inquiry.Settles answers log given.name (sending given) Rule.ofJson told ∧
      (outside answers id others).store given log = (told.1.map fun _ => (),told.2) :=
  ⟨_,Inquiry.settles_aboutNamed _ _ _ _,Inquiry.settle_map _ _⟩

/-- A refusal that ends a recording is no conflict, or no attempt is left; the result means the same either way. -/
theorem refusal_ends {r : Recording} {fault : Fault} {code? : Option UInt16} {result : Except Fault Unit}
    (ends : r.afterWriting settings (.error fault) = .finished result) (meaning : Meaning code? fault) :
    (code? ≠ some 409 ∨ ¬r.attempt < Recording.budget settings) ∧ ∃ fault, result = .error fault ∧ Meaning code? fault := by
  simp only [Recording.afterWriting] at ends
  split at ends
  next other =>
    cases ends
    exact ⟨.inl (by simpa [← meaning.isConflict_iff] using other),fault,rfl,meaning⟩
  next conflict =>
    have code := meaning.isConflict_iff.mp (by simpa using conflict)
    split at ends
    · cases ends
      exact ⟨.inr (by omega),_,rfl,.conflict code _⟩
    · cases ends

open Recording in
/-- The rule that was told is sent, and then the recording ends or another attempt follows. -/
theorem corresponds_writing {n k m : Nat} {log : List Exchange} {latest : Rule} {f : Filed (List Exchange)}
    (named : id.name ≠ "") (told : (answers log.length).read Rule.ofJson = .ok latest)
    (writes : Course (outside answers id others) settings clock m (log ++ [⟨asking id, answers log.length⟩])
      ⟨id,execution,outcome,k,.writing (extended ⟨id,execution,outcome,k,.reading⟩ latest (clock n).wall)⟩ f)
    (onward : ∀ m log g, k < Recording.budget settings →
      Course (outside answers id others) settings clock m log ⟨id,execution,outcome,k + 1,.reading⟩ g →
      ∃ rest, g.after = log ++ rest ∧
        Correspondence answers clock ⟨id,execution,outcome,1,.reading⟩ (Recording.budget settings) (k + 1) log.length
          rest g.result) :
    ∃ rest, f.after = log ++ rest ∧
      Correspondence answers clock ⟨id,execution,outcome,1,.reading⟩ (Recording.budget settings) k log.length rest
        f.result := by
  have next : (log ++ [(⟨asking id,answers log.length⟩ : Exchange)]).length = log.length + 1 := by simp
  obtain ⟨answer,sent,same⟩ := store_settles answers id others
    (extended ⟨id,execution,outcome,k,.reading⟩ latest (clock n).wall) (log ++ [⟨asking id,answers log.length⟩])
  rcases writes.of_writing with ⟨result,rfl,ends⟩ | ⟨fault,_,write,conflict,left,pauses,rfl⟩
  · rw [same] at ends ⊢
    cases sent with
    | nameless nameless message =>
      cases ends
      exact ⟨_,rfl,.unsent named told nameless message⟩
    | told sendable taken =>
      cases ends
      rw [next] at taken ⊢
      exact ⟨_,List.append_assoc _ _ _,.stored named told sendable n taken⟩
    | failed sendable failed meaning =>
      rw [next] at failed meaning ⊢
      obtain ⟨closed,_,rfl,meaning⟩ := refusal_ends ends meaning
      exact ⟨_,List.append_assoc _ _ _,.refused named told sendable n failed meaning closed⟩
  · obtain ⟨_,later,rfl⟩ := pauses.of_pausing
    rw [same] at write later
    cases sent with
    | nameless =>
      cases write
      cases conflict
    | told => cases write
    | failed sendable failed meaning =>
      cases write
      rw [next] at failed meaning later
      obtain ⟨rest,after,again⟩ := onward _ _ _ left later
      refine ⟨_,by rw [after,List.append_assoc,List.append_assoc]; rfl,.again named told sendable n
        (meaning.isConflict_iff.mp conflict) left ?_⟩
      simpa using again

open Recording in
/-- What is exchanged for a recording follows from the answers of the server, attempt by attempt. -/
theorem corresponds {n k : Nat} {log : List Exchange} {f : Filed (List Exchange)}
    (course : Course (outside answers id others) settings clock n log ⟨id,execution,outcome,k,.reading⟩ f) :
    ∃ rest, f.after = log ++ rest ∧
      Correspondence answers clock ⟨id,execution,outcome,1,.reading⟩ (Recording.budget settings) k log.length rest
        f.result := by
  have asked := read_settles answers id others log
  rcases course.of_reading with ⟨fault,read,rfl⟩ | ⟨latest,g,read,writes,rfl⟩
  · generalize (outside answers id others).read log = reply at asked read
    cases asked with
    | nameless nameless message =>
      cases read
      exact ⟨[],(List.append_nil _).symm,.unasked nameless message⟩
    | told => cases read
    | failed named failed meaning =>
      cases read
      exact ⟨_,rfl,.unread named failed meaning⟩
  · generalize (outside answers id others).read log = reply at asked read writes
    cases asked with
    | nameless | failed => cases read
    | told named told =>
      cases read
      have attempt := corresponds_writing named told writes fun _ _ _ _ later => corresponds later
      exact attempt
termination_by Recording.budget settings - k

/-! ## What stands around an exchange -/

/-- Whether an exchange sends a rule. -/
def isSending (e : Exchange) : Bool := e.request.method = .put

/-- An exchange that asks for the rule, and what follows: the rule that is told is sent back, unless it cannot be. -/
def Asks (r : Recording) (result : Except Fault Unit) (after : List Exchange) (e : Exchange) : Prop :=
  e.request = asking r.rule ∧
    match e.response.read Rule.ofJson with
    | .error _ => after = [] ∧ ∃ fault, result = .error fault ∧ Meaning e.response.code? fault
    | .ok latest =>
      if latest.name = "" then after = [] ∧ ∃ message, result = .error (.store message)
      else ∃ put later, after = put :: later ∧ isSending put = true

/-- An exchange that sends a rule, with the one before it and what follows. What is sent says the rule that was told
there, with the status after the dispatch. The rule is asked for again just if there is a conflict and an attempt is
left. -/
def Sends (clock : Nat → Moment) (r : Recording) (budget : Nat) (result : Except Fault Unit)
    (before after : List Exchange) (e : Exchange) : Prop :=
  (∃ earlier get latest n body, before = earlier ++ [get] ∧ get.request = asking r.rule ∧
    get.response.read Rule.ofJson = .ok latest ∧
    e.request = { method := .put, path := pathOf latest.id ++ "/status", body? := some body } ∧
    Rule.ofJson body = some { latest with
      status? := some
        ((latest.status?.getD {}).record r.execution r.outcome latest.metadata.generation? (clock n).wall) }) ∧
  if e.response.code? = some 409 ∧ before.countP isSending + 1 < budget then
    ∃ get later, after = get :: later ∧ get.request = asking r.rule
  else
    after = [] ∧
      match e.response.read Rule.ofJson with
      | .ok _ => result = .ok ()
      | .error _ => ∃ fault, result = .error fault ∧ Meaning e.response.code? fault

/-- Whether what is sent of the rules that are told is read as the same. -/
def Faithful (answers : Nat → Response) (clock : Nat → Moment) (r : Recording) : Prop :=
  ∀ j latest n, (answers j).read Rule.ofJson = .ok latest →
    Rule.ofJson (r.extended latest (clock n).wall).toJson = some (r.extended latest (clock n).wall)

namespace Correspondence
variable {r : Recording} {budget k j : Nat} {log : List Exchange} {result : Except Fault Unit}

theorem asking_first (c : Correspondence answers clock r budget k j log result) (named : r.rule.name ≠ "") :
    ∃ get later, log = get :: later ∧ get.request = asking r.rule := by
  cases c with
  | unasked nameless => exact absurd nameless named
  | unread | unsent | stored | refused | again => exact ⟨_,_,rfl,rfl⟩

theorem of_nameless (c : Correspondence answers clock r budget k j log result) (nameless : r.rule.name = "") :
    log = [] ∧ ∃ message, result = .error (.store message) := by
  cases c with
  | unasked _ message => exact ⟨rfl,message,rfl⟩
  | unread named | unsent named | stored named | refused named | again named => exact absurd nameless named

/-- What is true of the two exchanges of an attempt is true of each of them in its place. -/
theorem around_pair {P : List Exchange → List Exchange → Exchange → Prop} {earlier rest before after : List Exchange}
    {get put e : Exchange} (first : P earlier (put :: rest) get) (second : P (earlier ++ [get]) rest put)
    (others : ∀ before after e, rest = before ++ e :: after → P (earlier ++ get :: put :: before) after e)
    (place : get :: put :: rest = before ++ e :: after) : P (earlier ++ before) after e := by
  rcases before with _ | ⟨_,_ | ⟨_,before⟩⟩
  · cases place
    rwa [List.append_nil]
  · cases place
    exact second
  · simp only [List.cons_append,List.cons.injEq] at place
    obtain ⟨rfl,rfl,place⟩ := place
    exact others before after e place

/-- What is true of an exchange in its place: it has the answer of its turn, and asks or sends. -/
def InPlace (answers : Nat → Response) (clock : Nat → Moment) (r : Recording) (budget : Nat)
    (result : Except Fault Unit) (before after : List Exchange) (e : Exchange) : Prop :=
  e.response = answers before.length ∧ (Asks r result after e ∨ Sends clock r budget result before after e)

theorem inPlace_single {earlier before after : List Exchange} {get e : Exchange}
    (answered : get.response = answers earlier.length) (asks : Asks r result [] get)
    (place : [get] = before ++ e :: after) : InPlace answers clock r budget result (earlier ++ before) after e := by
  rcases before with _ | ⟨_,before⟩
  · cases place
    rw [List.append_nil]
    exact ⟨answered,.inl asks⟩
  · simp at place

/-- The rule that is told is sent. -/
theorem inPlace_asking {earlier rest : List Exchange} {latest : Rule} {put : Exchange}
    (told : (answers earlier.length).read Rule.ofJson = .ok latest) (sendable : latest.name ≠ "")
    (sent : isSending put = true) :
    InPlace answers clock r budget result earlier (put :: rest) ⟨asking r.rule,answers earlier.length⟩ := by
  refine ⟨rfl,.inl ⟨rfl,?_⟩⟩
  simp only [told,if_neg sendable]
  exact ⟨put,rest,rfl,sent⟩

/-- What is sent is the rule that was told, with the status after the dispatch. -/
theorem inPlace_sending (faithful : Faithful answers clock r) {earlier rest : List Exchange} {latest : Rule} {n : Nat}
    (told : (answers earlier.length).read Rule.ofJson = .ok latest)
    (follows : let response := answers (earlier.length + 1)
      if response.code? = some 409 ∧ earlier.countP isSending + 1 < budget then
        ∃ get later, rest = get :: later ∧ get.request = asking r.rule
      else
        rest = [] ∧
          match response.read Rule.ofJson with
          | .ok _ => result = .ok ()
          | .error _ => ∃ fault, result = .error fault ∧ Meaning response.code? fault) :
    InPlace answers clock r budget result (earlier ++ [⟨asking r.rule,answers earlier.length⟩]) rest
      ⟨sending (r.extended latest (clock n).wall),answers (earlier.length + 1)⟩ := by
  refine ⟨by rw [List.length_append]; rfl,.inr ⟨?_,?_⟩⟩
  · exact ⟨earlier,_,latest,n,_,rfl,rfl,told,rfl,faithful _ latest n told⟩
  · rw [List.countP_append]
    exact follows

/-- What stands around each exchange, after earlier ones that met a conflict each. -/
theorem inPlace (c : Correspondence answers clock r budget k j log result) (faithful : Faithful answers clock r)
    (earlier : List Exchange) (counted : earlier.countP isSending + 1 = k) (numbered : earlier.length = j)
    {before after : List Exchange} {e : Exchange} (place : log = before ++ e :: after) :
    InPlace answers clock r budget result (earlier ++ before) after e := by
  induction c generalizing earlier before after e with
  | unasked => simp at place
  | unread named failed meaning =>
    subst numbered
    refine inPlace_single rfl ⟨rfl,?_⟩ place
    simp only [failed]
    exact ⟨trivial,_,rfl,meaning⟩
  | unsent named told nameless message =>
    subst numbered
    refine inPlace_single rfl ⟨rfl,?_⟩ place
    simp only [told,if_pos nameless]
    exact ⟨trivial,message,rfl⟩
  | stored named told sendable n taken =>
    subst numbered
    refine around_pair (inPlace_asking told sendable rfl) (inPlace_sending faithful told ?_) (by simp) place
    simp [Response.code?_of_read taken,taken]
  | refused named told sendable n failed meaning closed =>
    subst numbered
    refine around_pair (inPlace_asking told sendable rfl) (inPlace_sending faithful told ?_) (by simp) place
    have ends : ¬((answers (earlier.length + 1)).code? = some 409 ∧ earlier.countP isSending + 1 < budget) := by
      rw [counted]
      exact fun ⟨conflict,left⟩ => closed.elim (· conflict) (· left)
    simp only [if_neg ends,failed]
    exact ⟨trivial,_,rfl,meaning⟩
  | @again _ _ named latest told sendable n conflict left _ _ later ih =>
    subst numbered
    refine around_pair (inPlace_asking told sendable rfl) (inPlace_sending faithful told ?_) ?_ place
    · rw [counted]
      simp only [if_pos (And.intro conflict left)]
      exact later.asking_first named
    · intro before after e place
      have onward := ih (earlier ++ [⟨asking r.rule,answers earlier.length⟩,
        ⟨sending (r.extended latest (clock n).wall),answers (earlier.length + 1)⟩]) ?_ ?_ place
      · simpa using onward
      · rw [List.countP_append,← counted]
        rfl
      · simp

end Correspondence

/-- What is sent of a rule that was read is read as the same, if clocks show what texts can say and the times in its
metadata are whole seconds. -/
theorem faithful_of_seconds {r : Recording}
    (seconds : ∀ j latest, (answers j).read Rule.ofJson = .ok latest → ∀ t ∈ latest.metadata.times, t.nano = 0)
    (dated : r.execution.at_.Told) (ticking : ∀ n, (clock n).wall.Told) : Faithful answers clock r := by
  intro j latest n told
  have whole := seconds j latest told
  obtain ⟨json,read⟩ := Response.ofJson_of_read told
  refine (Rule.returns_of_read read whole (RuleStatus.told_record ?_ dated (ticking n))).read
  cases status : latest.status? with
  | none => exact fun t member => nomatch member
  | some s => exact Rule.told_of_ofJson read s status

/-- Take any answers of the server, one after the other, to a recording whose store is the cluster. The recording ends.
It asks for the rule unless that has no name. Whenever it was told the rule it sends, in the next request, what is read
as that rule with its metadata and its specification, and with the status after the dispatch; it does not if that rule
has no name. It asks again just if the server refused with the code of a conflict and an attempt is left. Any other
answer ends the recording, and one that fails ends it with a conflict, with something that is not there, or with a fault
of the store, as the code says. -/
theorem status_written (answers : Nat → Response) (others : Outside (List Exchange)) (settings : EngineSettings)
    (clock : Nat → Moment) (n : Nat) (id : RuleId) (execution : Execution) (outcome : RuleStatus.Outcome)
    (seconds : ∀ j latest, (answers j).read Rule.ofJson = .ok latest → ∀ t ∈ latest.metadata.times, t.nano = 0)
    (dated : execution.at_.Told) (ticking : ∀ n, (clock n).wall.Told) :
    let o := outside answers id others
    let r : Recording := { rule := id, execution, outcome }
    (∃ f, Recording.Course o settings clock n [] r f) ∧ ∀ f, Recording.Course o settings clock n [] r f →
      (if id.name = "" then f.after = [] ∧ ∃ message, f.result = .error (.store message)
        else ∃ get later, f.after = get :: later ∧ get.request = asking id) ∧
      ∀ before e after, f.after = before ++ e :: after →
        e.response = answers before.length ∧
          (Asks r f.result after e ∨ Sends clock r (Recording.budget settings) f.result before after e) := by
  intro o r
  refine ⟨Recording.Course.exists o settings clock n [] id execution outcome,fun f course => ?_⟩
  obtain ⟨log,after,corresponds⟩ := corresponds course
  have faithful : Faithful answers clock r := faithful_of_seconds seconds dated ticking
  rw [List.nil_append] at after
  rw [after]
  refine ⟨?_,fun before e after place => corresponds.inPlace faithful [] rfl rfl place⟩
  split
  next nameless => exact corresponds.of_nameless nameless
  next named => exact corresponds.asking_first named

end Rules
end Cluster
namespace Sample
open Cluster (Response Exchange)
open Cluster.Rules

/-- An answer that tells a rule. -/
def telling : Response := { body := onceRule.toJson.compact }

/-- An answer that refuses a status for a conflict. -/
def refusing : Response := { status := 409, body := "" }

/-- A server that tells a rule, refuses its status, and goes on telling the rule. -/
def overtaking (j : Nat) : Response := if j = 1 then refusing else telling

/-- Nothing but the cluster stands outside. -/
def vacant : Outside (List Exchange) where
  stored? _ := none
  read log := (.error (.notFound "rule"),log)
  store _ log := (.ok (),log)
  secret _ name log := (.error (.notFound name),log)
  run _ log := (.ok (),log)

theorem code?_refusing : refusing.code? = some 409 := by decide +kernel

theorem read_telling : ∃ latest, telling.read Rule.ofJson = .ok latest ∧ latest.name = "r" ∧
    latest.metadata.times = [] := by
  have plain : ((Json.read onceRule.toJson.write).bind Rule.ofJson).any
      (fun latest => latest.name = "r" && latest.metadata.times.isEmpty) = true := by decide +kernel
  obtain ⟨latest,found,said⟩ := (Option.any_eq_true _ _).mp plain
  refine ⟨latest,Response.read_of_parse rfl ?_,by simpa using said⟩
  have parsed : Json.parse telling.body = Json.read onceRule.toJson.write := by
    rw [telling,Json.parse,Json.compact,String.toList_ofList]
  rw [parsed]
  exact found

theorem seconds_of_overtaking (j : Nat) (latest : Rule) (told : (overtaking j).read Rule.ofJson = .ok latest) :
    ∀ t ∈ latest.metadata.times, t.nano = 0 := by
  rw [overtaking] at told
  split at told
  · cases (Response.code?_of_read told).symm.trans code?_refusing
  obtain ⟨_,same,_,none⟩ := read_telling
  cases same.symm.trans told
  rw [none]
  exact nofun

/-- After the conflict the rule is asked for again. -/
theorem status_written_overtaken : ∃ f,
    Recording.Course (outside overtaking onceRule.id vacant) {} (fun _ => moment) 0 []
      { rule := onceRule.id, execution := ⟨"uid-a", .create, moment.wall⟩, outcome := .ok () } f ∧
    ∃ get put again later, f.after = get :: put :: again :: later ∧ put.response = refusing ∧
      again.request = asking onceRule.id := by
  have dated : moment.wall.Told := by
    refine ⟨⟨by decide,by decide,by decide⟩,by decide⟩
  obtain ⟨⟨f,course⟩,each⟩ := status_written overtaking vacant {} (fun _ => moment) 0 onceRule.id
    ⟨"uid-a",.create,moment.wall⟩ (.ok ()) seconds_of_overtaking dated fun _ => dated
  obtain ⟨first,places⟩ := each f course
  refine ⟨f,course,?_⟩
  rw [if_neg (by decide)] at first
  obtain ⟨get,later,whole,asked⟩ := first
  obtain ⟨told,(⟨_,next⟩ | ⟨⟨_,_,_,_,_,nothing,_⟩,_⟩)⟩ := places [] get later whole
  case inr => simp at nothing
  obtain ⟨latest,read,name,_⟩ := read_telling
  rw [told,show overtaking _ = telling from rfl,read] at next
  dsimp only at next
  rw [if_neg (by rw [name]; decide)] at next
  obtain ⟨put,later,rfl,sent⟩ := next
  obtain ⟨told',(⟨asked',_⟩ | ⟨_,next⟩)⟩ := places [get] put later whole
  · simp [isSending,asked',asking] at sent
  · have refused : put.response = refusing := told'
    rw [refused,if_pos ⟨code?_refusing,by simp [isSending,asked,asking,Recording.budget]⟩] at next
    obtain ⟨again,later,rfl,again_asked⟩ := next
    exact ⟨get,put,again,later,whole,refused,again_asked⟩

end Sample
end Callout
