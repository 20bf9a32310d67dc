import Callout.Proofs.TimeText
import Callout.Rule.Spec
import Callout.Rule.Status

/-!
The data format in both directions. What each part of a rule writes is read as that part (`Json.Returns`), from
numbers and words up to records, where an absent field stands for no value, an empty map is not written, and the
rest is written always. With the texts of points in time this gives the same for whole specifications and
statuses (`wire_round_trip`).
-/
namespace Callout

/-! ## Values -/

namespace Json
variable {α : Type} {reader : Json → Option α} {writer : α → Json}

/-- What is written of a value is read as that value. It is not null, which would read as no value. -/
structure Returns (reader : Json → Option α) (writer : α → Json) (a : α) : Prop where
  read : reader (writer a) = some a
  solid : writer a ≠ .null

theorem returns_text (s : String) : Returns text? .text s := ⟨rfl,fun null => by cases null⟩

theorem returns_bool (b : Bool) : Returns bool? .bool b := ⟨rfl,fun null => by cases null⟩

/-- Whole numbers of a type that lies between two bounds. -/
theorem returns_int {low high : Int} {ofInt : Int → α} {toInt : α → Int} {a : α} (least : low ≤ toInt a)
    (most : toInt a < high) (inverse : ofInt (toInt a) = a) :
    Returns (fun j => (j.intBetween? low high).map ofInt) (fun a => .int (toInt a)) a := by
  refine ⟨?_,fun null => by cases null⟩
  rw [intBetween?, if_pos ⟨least,most⟩, Option.map_some, inverse]

theorem returns_uint16 (n : UInt16) : Returns uint16? (fun n => .int n.toNat) n :=
  returns_int (Int.natCast_nonneg _) (Int.ofNat_lt.2 n.toNat_lt) (by simp)

theorem returns_uint32 (n : UInt32) : Returns uint32? (fun n => .int n.toNat) n :=
  returns_int (Int.natCast_nonneg _) (Int.ofNat_lt.2 n.toNat_lt) (by simp)

theorem returns_int64 (n : Int64) : Returns int64? (fun n => .int n.toInt) n :=
  returns_int n.le_toInt n.toInt_lt (Int64.ofInt_toInt n)

theorem returns_choice {words : List (String × α)} {toText : α → String} {a : α}
    (known : words.lookup (toText a) = some a) : Returns (choice? words) (fun a => .text (toText a)) a :=
  ⟨known,fun null => by cases null⟩

theorem mapM_map {β : Type} {reader : β → Option α} {writer : α → β} {l : List α}
    (read : ∀ a ∈ l, reader (writer a) = some a) : (l.map writer).mapM reader = some l := by
  induction l with
  | nil => rfl
  | cons a l ih =>
    obtain ⟨first,rest⟩ := List.forall_mem_cons.1 read
    simp [first, ih rest]

theorem mem_of_mapM {β : Type} {reader : β → Option α} {items : List β} {l : List α} {a : α}
    (read : items.mapM reader = some l) (inside : a ∈ l) : ∃ b, reader b = some a := by
  induction items generalizing l with
  | nil =>
    cases read
    cases inside
  | cons b items ih =>
    rw [List.mapM_cons] at read
    obtain ⟨first,told,read⟩ := Option.bind_eq_some_iff.1 read
    obtain ⟨others,rest,same⟩ := Option.bind_eq_some_iff.1 read
    cases same
    obtain rfl | inside := List.mem_cons.1 inside
    · exact ⟨b,told⟩
    · exact ih rest inside

theorem returns_list {l : List α} (back : ∀ a ∈ l, Returns reader writer a) :
    Returns (listOf? reader) (fun l => .list (l.map writer)) l :=
  ⟨mapM_map fun a member => (back a member).read,fun null => by cases null⟩

theorem returns_dict {d : Dict α} (back : ∀ e ∈ d.entries, Returns reader writer e.2) :
    Returns (dictOf? reader) (ofDict writer) d := by
  refine ⟨?_,fun null => by cases null⟩
  refine Option.bind_eq_some_iff.2 ⟨d.entries,mapM_map fun e member => ?_,?_⟩
  · simp [(back e member).read]
  · simp [Dict.ofList_entries]

/-! ## Records -/

@[simp] theorem lookup_field (name other : String) (j : Json) :
    (field name j).lookup other = if other = name then some j else none := by
  by_cases same : other = name
  · simp [field, same]
  · have differ : (other == name) = false := by simpa using same
    simp [field, List.lookup_cons, same, differ]

@[simp] theorem lookup_fieldIfSome (name other : String) (writer : α → Json) (o : Option α) :
    (fieldIfSome name writer o).lookup other = if other = name then o.map writer else none := by
  cases o with
  | none => simp [fieldIfSome]
  | some a => exact lookup_field name other (writer a)

@[simp] theorem lookup_fieldIfEntries (name other : String) (writer : α → Json) (d : Dict α) :
    (fieldIfEntries name writer d).lookup other =
      if other = name then if d.isEmpty then none else some (ofDict writer d) else none := by
  by_cases empty : d.isEmpty
  · simp [fieldIfEntries, empty]
  · simp only [fieldIfEntries, empty]
    exact lookup_field name other _

namespace Parts
variable {p : Parts} {name : String}

theorem required_returns {a : α} (found : p.present.lookup name = some (writer a))
    (back : Returns reader writer a) : p.required name reader = some a := by
  rw [required, found, Option.bind_some, back.read]

theorem defaulted_returns {a value : α} (found : p.present.lookup name = some (writer a))
    (back : Returns reader writer a) : p.defaulted name reader value = some a := by
  rw [defaulted, found]
  exact back.read

theorem optional_returns {o : Option α} (found : p.present.lookup name = o.map writer)
    (back : ∀ a ∈ o, Returns reader writer a) : p.optional name reader = some o := by
  cases o with
  | none =>
    rw [optional, found]
    rfl
  | some a =>
    obtain ⟨read,solid⟩ := back a rfl
    rw [optional, found, Option.map_some]
    split
    · next null => cases null
    · next null => exact absurd (Option.some.inj null) solid
    · next same =>
      cases same
      rw [read, Option.map_some]

/-- A map without entries is not written, and read where nothing is written. -/
theorem entries_return {d : Dict α}
    (found : p.present.lookup name = if d.isEmpty then none else some (ofDict writer d))
    (back : ∀ e ∈ d.entries, Returns reader writer e.2) : p.defaulted name (dictOf? reader) .empty = some d := by
  by_cases empty : d.isEmpty
  · rw [defaulted, found, if_pos empty]
    exact congrArg some (Dict.eq_of_entries_eq (List.isEmpty_iff.1 empty).symm)
  · exact defaulted_returns (by rw [found, if_neg empty]) (returns_dict back)

theorem defaulted_list_mem {l : List α} {a : α} (read : p.defaulted name (listOf? reader) [] = some l)
    (inside : a ∈ l) : ∃ j, reader j = some a := by
  simp only [defaulted] at read
  split at read
  · cases read
    cases inside
  · simp only [listOf?] at read
    split at read
    · exact mem_of_mapM read inside
    · cases read

end Parts
end Json

/-! ## Specifications -/

open Json (Returns returns_text returns_bool returns_list)
open Json.Parts
attribute [local simp] List.lookup_append

theorem Filter.returns (f : Filter) : Returns Filter.ofJson Filter.toJson f := by
  refine ⟨?_,fun null => by cases null⟩
  refine Option.bind_eq_some_iff.2 ⟨f.labels,entries_return (by simp) fun e _ => returns_text e.2,?_⟩
  refine Option.bind_eq_some_iff.2 ⟨f.namePattern?,optional_returns (by simp) fun s _ => returns_text s,?_⟩
  exact Option.bind_eq_some_iff.2 ⟨f.namespacePattern?,optional_returns (by simp) fun s _ => returns_text s,rfl⟩

theorem SecretKey.returns (s : SecretKey) : Returns SecretKey.ofJson SecretKey.toJson s :=
  ⟨rfl,fun null => by cases null⟩

theorem HeaderSource.returns (h : HeaderSource) : Returns HeaderSource.ofJson HeaderSource.toJson h := by
  refine ⟨?_,fun null => by cases null⟩
  refine Option.bind_eq_some_iff.2 ⟨h.value?,optional_returns (by simp) fun s _ => returns_text s,?_⟩
  exact Option.bind_eq_some_iff.2 ⟨h.secret?,optional_returns (by simp) fun s _ => s.returns,rfl⟩

theorem Body.returns (b : Body) : Returns Body.ofJson Body.toJson b := ⟨rfl,fun null => by cases null⟩

theorem RetrySettings.returns (r : RetrySettings) : Returns RetrySettings.ofJson RetrySettings.toJson r := by
  refine ⟨?_,fun null => by cases null⟩
  refine Option.bind_eq_some_iff.2 ⟨r.maxAttempts?,optional_returns (by simp) fun n _ => Json.returns_uint32 n,?_⟩
  refine Option.bind_eq_some_iff.2 ⟨r.backoff?,optional_returns (by simp) fun s _ => returns_text s,?_⟩
  refine Option.bind_eq_some_iff.2 ⟨r.maxBackoff?,optional_returns (by simp) fun s _ => returns_text s,?_⟩
  refine Option.bind_eq_some_iff.2 ⟨r.onNetworkError?,optional_returns (by simp) fun b _ => returns_bool b,?_⟩
  exact Option.bind_eq_some_iff.2 ⟨r.onStatus?,
    optional_returns (by simp) fun l _ => returns_list fun n _ => Json.returns_uint16 n,rfl⟩

theorem AuthoritiesSource.returns (s : AuthoritiesSource) :
    Returns AuthoritiesSource.ofJson AuthoritiesSource.toJson s :=
  ⟨rfl,fun null => by cases null⟩

theorem ClientSource.returns (s : ClientSource) : Returns ClientSource.ofJson ClientSource.toJson s :=
  ⟨rfl,fun null => by cases null⟩

theorem TlsSettings.returns (t : TlsSettings) : Returns TlsSettings.ofJson TlsSettings.toJson t := by
  refine ⟨?_,fun null => by cases null⟩
  refine Option.bind_eq_some_iff.2 ⟨t.skipVerify,defaulted_returns (by simp) (returns_bool _),?_⟩
  refine Option.bind_eq_some_iff.2 ⟨t.serverName?,optional_returns (by simp) fun s _ => returns_text s,?_⟩
  refine Option.bind_eq_some_iff.2 ⟨t.authorities?,optional_returns (by simp) fun s _ => s.returns,?_⟩
  exact Option.bind_eq_some_iff.2 ⟨t.client?,optional_returns (by simp) fun s _ => s.returns,rfl⟩

theorem ActionMode.returns (m : ActionMode) : Returns ActionMode.ofJson ActionMode.toJson m := by
  cases m <;> exact ⟨rfl,fun null => by cases null⟩

theorem Action.returns (a : Action) : Returns Action.ofJson Action.toJson a := by
  refine ⟨?_,fun null => by cases null⟩
  refine Option.bind_eq_some_iff.2 ⟨a.kind,defaulted_returns (by simp) (returns_text _),?_⟩
  refine Option.bind_eq_some_iff.2 ⟨a.method?,optional_returns (by simp) fun s _ => returns_text s,?_⟩
  refine Option.bind_eq_some_iff.2 ⟨a.url,required_returns (by simp) (returns_text _),?_⟩
  refine Option.bind_eq_some_iff.2 ⟨a.headers,entries_return (by simp) fun e _ => e.2.returns,?_⟩
  refine Option.bind_eq_some_iff.2 ⟨a.body?,optional_returns (by simp) fun b _ => b.returns,?_⟩
  refine Option.bind_eq_some_iff.2 ⟨a.expectedStatus?,optional_returns (by simp) fun s _ => returns_text s,?_⟩
  refine Option.bind_eq_some_iff.2 ⟨a.mode,defaulted_returns (by simp) a.mode.returns,?_⟩
  refine Option.bind_eq_some_iff.2 ⟨a.schedule?,optional_returns (by simp) fun s _ => returns_text s,?_⟩
  refine Option.bind_eq_some_iff.2 ⟨a.timeout?,optional_returns (by simp) fun s _ => returns_text s,?_⟩
  refine Option.bind_eq_some_iff.2 ⟨a.retry?,optional_returns (by simp) fun r _ => r.returns,?_⟩
  exact Option.bind_eq_some_iff.2 ⟨a.tls?,optional_returns (by simp) fun t _ => t.returns,rfl⟩

theorem ResourceType.returns_selector (t : ResourceType) : Returns ResourceType.ofSelector ResourceType.toJson t :=
  ⟨rfl,fun null => by cases null⟩

theorem EventKind.returns (k : EventKind) : Returns EventKind.ofJson EventKind.toJson k :=
  Json.returns_choice (by cases k <;> rfl)

theorem RuleSpec.returns (s : RuleSpec) : Returns RuleSpec.ofJson RuleSpec.toJson s := by
  refine ⟨?_,fun null => by cases null⟩
  refine Option.bind_eq_some_iff.2 ⟨s.selector,required_returns (by simp) s.selector.returns_selector,?_⟩
  refine Option.bind_eq_some_iff.2 ⟨s.events,required_returns (by simp) (returns_list fun k _ => k.returns),?_⟩
  refine Option.bind_eq_some_iff.2 ⟨s.filter?,optional_returns (by simp) fun f _ => f.returns,?_⟩
  exact Option.bind_eq_some_iff.2 ⟨s.actions,required_returns (by simp) (returns_list fun a _ => a.returns),rfl⟩

/-! ## Statuses -/

theorem Timestamp.returns {t : Timestamp} (told : t.Told) : Returns Timestamp.ofJson Timestamp.toJson t := by
  refine ⟨?_,by simp [toJson]⟩
  rw [toJson, ofJson, Json.text?, Option.bind_some]
  exact parse_toText told

theorem Timestamp.told_of_ofJson {j : Json} {t : Timestamp} (read : Timestamp.ofJson j = some t) : t.Told := by
  obtain ⟨text,-,parsed⟩ := Option.bind_eq_some_iff.1 read
  exact parse_told parsed

theorem ConditionStatus.returns (s : ConditionStatus) :
    Returns (Json.choice? ConditionStatus.words) (fun s => .text s.toText) s :=
  Json.returns_choice (by cases s <;> rfl)

theorem Condition.returns {c : Condition} (told : c.since.Told) : Returns Condition.ofJson Condition.toJson c := by
  refine ⟨?_,fun null => by cases null⟩
  refine Option.bind_eq_some_iff.2 ⟨c.type,required_returns (by simp) (returns_text _),?_⟩
  refine Option.bind_eq_some_iff.2 ⟨c.status,required_returns (by simp) c.status.returns,?_⟩
  refine Option.bind_eq_some_iff.2 ⟨c.reason,defaulted_returns (by simp) (returns_text _),?_⟩
  refine Option.bind_eq_some_iff.2 ⟨c.message,defaulted_returns (by simp) (returns_text _),?_⟩
  refine Option.bind_eq_some_iff.2 ⟨c.generation?,optional_returns (by simp) fun n _ => Json.returns_int64 n,?_⟩
  exact Option.bind_eq_some_iff.2 ⟨c.since,required_returns (by simp) (Timestamp.returns told),rfl⟩

theorem Execution.returns {e : Execution} (told : e.at_.Told) : Returns Execution.ofJson Execution.toJson e := by
  refine ⟨?_,fun null => by cases null⟩
  refine Option.bind_eq_some_iff.2 ⟨e.event,required_returns (by simp) e.event.returns,?_⟩
  exact Option.bind_eq_some_iff.2 ⟨e.at_,required_returns rfl (Timestamp.returns told),rfl⟩

/-- The points in time of a status: when its executions ran, and since when its conditions hold. -/
def RuleStatus.timestamps (s : RuleStatus) : List Timestamp :=
  s.executions.map Execution.at_ ++ s.conditions.map Condition.since

theorem RuleStatus.returns_of_told {s : RuleStatus} (told : ∀ t ∈ s.timestamps, t.Told) :
    Returns RuleStatus.ofJson RuleStatus.toJson s := by
  have ran : ∀ e ∈ s.executions, e.at_ ∈ s.timestamps := fun e member =>
    List.mem_append_left _ (List.mem_map_of_mem member)
  have held : ∀ c ∈ s.conditions, c.since ∈ s.timestamps := fun c member =>
    List.mem_append_right _ (List.mem_map_of_mem member)
  refine ⟨?_,fun null => by cases null⟩
  refine Option.bind_eq_some_iff.2 ⟨s.executions,defaulted_returns (by simp) (returns_list fun e member =>
    Execution.returns (told _ (ran e member))),?_⟩
  refine Option.bind_eq_some_iff.2 ⟨s.lastError?,optional_returns (by simp) fun s _ => returns_text s,?_⟩
  exact Option.bind_eq_some_iff.2 ⟨s.conditions,defaulted_returns (by simp) (returns_list fun c member =>
    Condition.returns (told _ (held c member))),rfl⟩

theorem RuleStatus.returns {s : RuleStatus} (regular : ∀ t ∈ s.timestamps, t.Regular)
    (fourDigit : ∀ t ∈ s.timestamps, t.FourDigit) : Returns RuleStatus.ofJson RuleStatus.toJson s :=
  returns_of_told fun t member => ⟨regular t member,(fourDigit t member).inRange⟩

theorem Execution.told_of_ofJson {j : Json} {e : Execution} (read : Execution.ofJson j = some e) : e.at_.Told := by
  obtain ⟨p,-,read⟩ := Option.bind_eq_some_iff.1 read
  obtain ⟨object,-,read⟩ := Option.bind_eq_some_iff.1 read
  obtain ⟨event,-,read⟩ := Option.bind_eq_some_iff.1 read
  obtain ⟨t,dated,same⟩ := Option.bind_eq_some_iff.1 read
  cases same
  obtain ⟨field,-,told⟩ := Option.bind_eq_some_iff.1 dated
  exact Timestamp.told_of_ofJson told

theorem Condition.told_of_ofJson {j : Json} {c : Condition} (read : Condition.ofJson j = some c) : c.since.Told := by
  obtain ⟨p,-,read⟩ := Option.bind_eq_some_iff.1 read
  obtain ⟨type,-,read⟩ := Option.bind_eq_some_iff.1 read
  obtain ⟨status,-,read⟩ := Option.bind_eq_some_iff.1 read
  obtain ⟨reason,-,read⟩ := Option.bind_eq_some_iff.1 read
  obtain ⟨message,-,read⟩ := Option.bind_eq_some_iff.1 read
  obtain ⟨generation?,-,read⟩ := Option.bind_eq_some_iff.1 read
  obtain ⟨t,dated,same⟩ := Option.bind_eq_some_iff.1 read
  cases same
  obtain ⟨field,-,told⟩ := Option.bind_eq_some_iff.1 dated
  exact Timestamp.told_of_ofJson told

theorem RuleStatus.told_of_ofJson {j : Json} {s : RuleStatus} (read : RuleStatus.ofJson j = some s) :
    ∀ t ∈ s.timestamps, t.Told := by
  obtain ⟨p,-,read⟩ := Option.bind_eq_some_iff.1 read
  obtain ⟨executions,ran,read⟩ := Option.bind_eq_some_iff.1 read
  obtain ⟨lastError?,-,read⟩ := Option.bind_eq_some_iff.1 read
  obtain ⟨conditions,held,same⟩ := Option.bind_eq_some_iff.1 read
  cases same
  intro t member
  obtain inside | inside := List.mem_append.1 member
  · obtain ⟨e,listed,rfl⟩ := List.mem_map.1 inside
    obtain ⟨item,told⟩ := defaulted_list_mem ran listed
    exact Execution.told_of_ofJson told
  · obtain ⟨c,listed,rfl⟩ := List.mem_map.1 inside
    obtain ⟨item,told⟩ := defaulted_list_mem held listed
    exact Condition.told_of_ofJson told

theorem RuleStatus.regular_of_ofJson {j : Json} {s : RuleStatus} (read : RuleStatus.ofJson j = some s) :
    ∀ t ∈ s.timestamps, t.Regular :=
  fun t member => (told_of_ofJson read t member).regular

/-! ## The whole -/

/-- What is written of a specification is read as the same, and so is what is written of a status if its leap seconds
follow the last seconds of minutes. Whatever values are read, what is written of what they say is read as the same and
written as the same again. -/
theorem wire_round_trip :
    (∀ spec : RuleSpec, RuleSpec.ofJson spec.toJson = some spec) ∧
    (∀ status : RuleStatus, (∀ t ∈ status.timestamps, t.Regular ∧ t.FourDigit) →
      RuleStatus.ofJson status.toJson = some status) ∧
    (∀ (j : Json) (spec : RuleSpec), RuleSpec.ofJson j = some spec →
      ∃ again, RuleSpec.ofJson spec.toJson = some again ∧ again = spec ∧ again.toJson = spec.toJson) ∧
    (∀ (j : Json) (status : RuleStatus), RuleStatus.ofJson j = some status →
      (∀ t ∈ status.timestamps, t.FourDigit) →
        ∃ again, RuleStatus.ofJson status.toJson = some again ∧ again = status ∧ again.toJson = status.toJson) := by
  refine ⟨fun spec => spec.returns.read,?_,?_,?_⟩
  · intro status proper
    exact (RuleStatus.returns (fun t member => (proper t member).1) fun t member => (proper t member).2).read
  · intro j spec read
    exact ⟨spec,spec.returns.read,rfl,rfl⟩
  · intro j status read fourDigit
    exact ⟨status,(RuleStatus.returns (RuleStatus.regular_of_ofJson read) fourDigit).read,rfl,rfl⟩

namespace Sample

/-- A specification as a list, with no group, another word for a mode, nulls, and a field that is not known. -/
def looseSpec : Json :=
  .list [.object [("kind", .text "ConfigMap"), ("version", .text "v1")], .list [.text "CREATE"], .null,
    .list [.object [("mode", .text "cron"), ("schedule", .text "10s"), ("since", .int 3), ("timeout", .null),
      ("url", .text "http://hook/")]]]

/-- What it says. -/
def tidySpec : RuleSpec where
  selector := ⟨"","v1","ConfigMap"⟩
  events := [.create]
  actions := [{ url := "http://hook/", mode := .interval, schedule? := some "10s" }]

/-- A status whose execution falls into a leap second, told with an offset. -/
def looseStatus : Json :=
  .object [("executions", .list [.list [.text "uid-a", .text "create", .text "2017-01-01 00:59:60.5+01:00"]]),
    ("lastError", .null)]

/-- What it says. -/
def tidyStatus : RuleStatus where
  executions := [⟨"uid-a",.create,⟨17166,86399,1500000000⟩⟩]

theorem wire_round_trip_of_loose :
    (RuleSpec.ofJson looseSpec = some tidySpec ∧
      ∃ again, RuleSpec.ofJson tidySpec.toJson = some again ∧ again = tidySpec ∧ again.toJson = tidySpec.toJson) ∧
    (∀ t ∈ tidyStatus.timestamps, t.Regular ∧ t.FourDigit) ∧
    RuleStatus.ofJson tidyStatus.toJson = some tidyStatus ∧
    RuleStatus.ofJson looseStatus = some tidyStatus ∧
      ∃ again, RuleStatus.ofJson tidyStatus.toJson = some again ∧ again = tidyStatus ∧
        again.toJson = tidyStatus.toJson := by
  have spec : RuleSpec.ofJson looseSpec = some tidySpec := by decide +kernel
  have status : RuleStatus.ofJson looseStatus = some tidyStatus := by decide +kernel
  have fourDigit : ∀ t ∈ tidyStatus.timestamps, t.FourDigit := by decide +kernel
  have dated : ∀ t ∈ tidyStatus.timestamps, t.Regular ∧ t.FourDigit := fun t member =>
    ⟨RuleStatus.regular_of_ofJson status t member,fourDigit t member⟩
  exact ⟨⟨spec,wire_round_trip.2.2.1 _ _ spec⟩,dated,wire_round_trip.2.1 _ dated,status,
    wire_round_trip.2.2.2 _ _ status fourDigit⟩

/-- A status whose execution falls into a leap second after the first second of a minute. -/
def misplacedStatus : RuleStatus where
  executions := [⟨"uid-a",.create,⟨19723,1,1500000000⟩⟩]

/-- It is written as a time in the second after that, and so it is not read back. -/
theorem misplaced_not_returned :
    (∀ t ∈ misplacedStatus.timestamps, t.FourDigit ∧ t.second < 86400 ∧ t.nano < 2000000000) ∧
      RuleStatus.ofJson misplacedStatus.toJson =
        some { executions := [⟨"uid-a",.create,⟨19723,2,500000000⟩⟩] } ∧
      RuleStatus.ofJson misplacedStatus.toJson ≠ some misplacedStatus := by
  decide +kernel

end Sample
end Callout
