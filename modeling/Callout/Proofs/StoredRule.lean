import Callout.Proofs.WireFormat
import Callout.Rule

/-!
Rules as they are stored, with their metadata. Times in metadata are written without fractions of seconds, so what is
written of metadata is read as the same if their times are whole seconds (`Metadata.returns`). With that a rule that was
read may be given another status and is written so that it is read as just that rule (`Rule.returns_of_read`).
-/
namespace Callout
open Json (Returns returns_text returns_bool returns_int64 returns_list returns_dict)
open Json.Parts
attribute [local simp] List.lookup_append

/-! ## Metadata -/

/-- What metadata can say of a point in time: what texts can say, if it is a whole second. -/
structure Timestamp.Whole (t : Timestamp) : Prop where
  told : t.Told
  whole : t.nano = 0

theorem Timestamp.Whole.returns {t : Timestamp} (whole : t.Whole) :
    Returns Timestamp.ofJson (fun t => .text t.toSecondText) t := by
  have same : t.toSecondText = t.toText := by
    obtain ⟨day,second,nano⟩ := t
    cases whole.whole
    rfl
  refine ⟨?_,nofun⟩
  rw [same,ofJson,Json.text?,Option.bind_some]
  exact parse_toText whole.told

theorem Owner.returns (o : Owner) : Returns Owner.ofJson Owner.toJson o := by
  refine ⟨?_,nofun⟩
  refine Option.bind_eq_some_iff.2 ⟨o.blocksDeletion?,optional_returns (by simp) fun b _ => returns_bool b,?_⟩
  refine Option.bind_eq_some_iff.2 ⟨o.controls?,optional_returns (by simp) fun b _ => returns_bool b,?_⟩
  refine Option.bind_eq_some_iff.2 ⟨some o.kind,optional_returns (by simp) fun s _ => returns_text s,?_⟩
  refine Option.bind_eq_some_iff.2 ⟨some o.name,optional_returns (by simp) fun s _ => returns_text s,?_⟩
  exact Option.bind_eq_some_iff.2 ⟨some o.uid,optional_returns (by simp) fun s _ => returns_text s,rfl⟩

/-- The managers whose text can be read: what they manage is not null, which stands for no value. -/
structure Manager.Proper (m : Manager) : Prop where
  solid : m.fields? ≠ some .null
  dated : ∀ t ∈ m.time?, t.Whole

theorem Manager.returns {m : Manager} (proper : m.Proper) : Returns Manager.ofJson Manager.toJson m := by
  refine ⟨?_,nofun⟩
  refine Option.bind_eq_some_iff.2 ⟨m.apiVersion?,optional_returns (by simp) fun s _ => returns_text s,?_⟩
  refine Option.bind_eq_some_iff.2 ⟨m.fieldsType?,optional_returns (by simp) fun s _ => returns_text s,?_⟩
  refine Option.bind_eq_some_iff.2 ⟨m.fields?,optional_returns (by simp) fun j held => ⟨rfl,?_⟩,?_⟩
  · rintro rfl
    exact proper.solid held
  refine Option.bind_eq_some_iff.2 ⟨m.manager?,optional_returns (by simp) fun s _ => returns_text s,?_⟩
  refine Option.bind_eq_some_iff.2 ⟨m.operation?,optional_returns (by simp) fun s _ => returns_text s,?_⟩
  refine Option.bind_eq_some_iff.2 ⟨m.subresource?,optional_returns (by simp) fun s _ => returns_text s,?_⟩
  exact Option.bind_eq_some_iff.2 ⟨m.time?,optional_returns (by simp) fun t held =>
    (proper.dated t held).returns,rfl⟩

/-- The metadata whose text can be read. -/
structure Metadata.Proper (m : Metadata) : Prop where
  created : ∀ t ∈ m.created?, t.Whole
  deleted : ∀ t ∈ m.deleted?, t.Whole
  managed : ∀ managers ∈ m.managers?, ∀ k ∈ managers, k.Proper

theorem Metadata.returns {m : Metadata} (proper : m.Proper) : Returns Metadata.ofJson Metadata.toJson m := by
  refine ⟨?_,nofun⟩
  -- The fields that are written are kept apart from what is read of them.
  obtain ⟨p,parts,written⟩ : ∃ p : Json.Parts, m.toJson.fieldParts? = some p ∧ m.toJson = .object p.present :=
    ⟨_,rfl,rfl⟩
  rw [toJson,Json.object.injEq] at written
  unfold ofJson
  refine Option.bind_eq_some_iff.2 ⟨p,parts,?_⟩
  refine Option.bind_eq_some_iff.2 ⟨m.annotations?,optional_returns (by simp [← written]) fun d _ =>
    returns_dict fun e _ => returns_text e.2,?_⟩
  refine Option.bind_eq_some_iff.2 ⟨m.created?,optional_returns (by simp [← written]) fun t held =>
    (proper.created t held).returns,?_⟩
  refine Option.bind_eq_some_iff.2 ⟨m.deletionGrace?,optional_returns (by simp [← written]) fun n _ => returns_int64 n,?_⟩
  refine Option.bind_eq_some_iff.2 ⟨m.deleted?,optional_returns (by simp [← written]) fun t held =>
    (proper.deleted t held).returns,?_⟩
  refine Option.bind_eq_some_iff.2 ⟨m.finalizers?,optional_returns (by simp [← written]) fun l _ =>
    returns_list fun s _ => returns_text s,?_⟩
  refine Option.bind_eq_some_iff.2 ⟨m.generateName?,optional_returns (by simp [← written]) fun s _ => returns_text s,?_⟩
  refine Option.bind_eq_some_iff.2 ⟨m.generation?,optional_returns (by simp [← written]) fun n _ => returns_int64 n,?_⟩
  refine Option.bind_eq_some_iff.2 ⟨m.labels?,optional_returns (by simp [← written]) fun d _ =>
    returns_dict fun e _ => returns_text e.2,?_⟩
  refine Option.bind_eq_some_iff.2 ⟨m.managers?,optional_returns (by simp [← written]) fun l held =>
    returns_list fun k listed => Manager.returns (proper.managed l held k listed),?_⟩
  refine Option.bind_eq_some_iff.2 ⟨m.name?,optional_returns (by simp [← written]) fun s _ => returns_text s,?_⟩
  refine Option.bind_eq_some_iff.2 ⟨m.space?,optional_returns (by simp [← written]) fun s _ => returns_text s,?_⟩
  refine Option.bind_eq_some_iff.2 ⟨m.owners?,optional_returns (by simp [← written]) fun l _ =>
    returns_list fun o _ => o.returns,?_⟩
  refine Option.bind_eq_some_iff.2 ⟨m.version?,optional_returns (by simp [← written]) fun s _ => returns_text s,?_⟩
  refine Option.bind_eq_some_iff.2 ⟨m.selfLink?,optional_returns (by simp [← written]) fun s _ => returns_text s,?_⟩
  exact Option.bind_eq_some_iff.2 ⟨m.uid?,optional_returns (by simp [← written]) fun s _ => returns_text s,rfl⟩

/-! ## Metadata that were read -/

/-- What an optional field is read as: nothing when it is missing or null, and else what its value is read as. -/
theorem Json.Parts.optional_cases {α : Type} {p : Json.Parts} {name : String} {reader : Json → Option α} {o : Option α}
    (read : p.optional name reader = some o) :
    ((p.present.lookup name = none ∨ p.present.lookup name = some .null) ∧ o = none) ∨
      ∃ j a, p.present.lookup name = some j ∧ j ≠ .null ∧ reader j = some a ∧ o = some a := by
  unfold optional at read
  split at read
  next missing =>
    cases read
    exact .inl ⟨.inl missing,rfl⟩
  next null =>
    cases read
    exact .inl ⟨.inr null,rfl⟩
  next j solid found =>
    obtain ⟨a,told,same⟩ := Option.map_eq_some_iff.mp read
    exact .inr ⟨j,a,found,solid,told,same.symm⟩

theorem Json.Parts.of_optional {α : Type} {p : Json.Parts} {name : String} {reader : Json → Option α} {o : Option α}
    (read : p.optional name reader = some o) {a : α} (inside : a ∈ o) : ∃ j, j ≠ .null ∧ reader j = some a := by
  obtain ⟨_,rfl⟩ | ⟨j,b,_,solid,told,rfl⟩ := optional_cases read
  · cases inside
  · cases inside
    exact ⟨j,solid,told⟩

theorem Json.of_listOf {α : Type} {reader : Json → Option α} {j : Json} {l : List α} (read : listOf? reader j = some l)
    {a : α} (inside : a ∈ l) : ∃ item, reader item = some a := by
  cases j with
  | list items => exact mem_of_mapM read inside
  | null | bool | int | real | text | object => cases read

theorem Manager.proper_of_ofJson {j : Json} {m : Manager} (read : Manager.ofJson j = some m)
    (whole : ∀ t ∈ m.time?, t.nano = 0) : m.Proper := by
  obtain ⟨p,-,read⟩ := Option.bind_eq_some_iff.1 read
  obtain ⟨apiVersion?,-,read⟩ := Option.bind_eq_some_iff.1 read
  obtain ⟨fieldsType?,-,read⟩ := Option.bind_eq_some_iff.1 read
  obtain ⟨fields?,managed,read⟩ := Option.bind_eq_some_iff.1 read
  obtain ⟨manager?,-,read⟩ := Option.bind_eq_some_iff.1 read
  obtain ⟨operation?,-,read⟩ := Option.bind_eq_some_iff.1 read
  obtain ⟨subresource?,-,read⟩ := Option.bind_eq_some_iff.1 read
  obtain ⟨time?,dated,same⟩ := Option.bind_eq_some_iff.1 read
  cases same
  refine ⟨?_,fun t inside => ⟨?_,whole t inside⟩⟩
  · rintro rfl
    obtain ⟨j,solid,told⟩ := of_optional managed rfl
    cases told
    exact solid rfl
  · obtain ⟨j,-,told⟩ := of_optional dated inside
    exact Timestamp.told_of_ofJson told

/-- The points in time of metadata. -/
def Metadata.times (m : Metadata) : List Timestamp :=
  m.created?.toList ++ m.deleted?.toList ++ (m.managers?.getD []).filterMap Manager.time?

theorem Metadata.created_mem {m : Metadata} {t : Timestamp} (inside : t ∈ m.created?) : t ∈ m.times := by
  simp [times,Option.mem_def.mp inside]

theorem Metadata.deleted_mem {m : Metadata} {t : Timestamp} (inside : t ∈ m.deleted?) : t ∈ m.times := by
  simp [times,Option.mem_def.mp inside]

theorem Metadata.managed_mem {m : Metadata} {managers : List Manager} (held : managers ∈ m.managers?) {k : Manager}
    (listed : k ∈ managers) {t : Timestamp} (inside : t ∈ k.time?) : t ∈ m.times := by
  simp only [times,Option.mem_def.mp held,Option.getD_some,List.mem_append,List.mem_filterMap]
  exact .inr ⟨k,listed,inside⟩

theorem Metadata.proper_of_ofJson {j : Json} {m : Metadata} (read : Metadata.ofJson j = some m)
    (whole : ∀ t ∈ m.times, t.nano = 0) : m.Proper := by
  obtain ⟨p,-,read⟩ := Option.bind_eq_some_iff.1 read
  obtain ⟨annotations?,-,read⟩ := Option.bind_eq_some_iff.1 read
  obtain ⟨created?,created,read⟩ := Option.bind_eq_some_iff.1 read
  obtain ⟨deletionGrace?,-,read⟩ := Option.bind_eq_some_iff.1 read
  obtain ⟨deleted?,deleted,read⟩ := Option.bind_eq_some_iff.1 read
  obtain ⟨finalizers?,-,read⟩ := Option.bind_eq_some_iff.1 read
  obtain ⟨generateName?,-,read⟩ := Option.bind_eq_some_iff.1 read
  obtain ⟨generation?,-,read⟩ := Option.bind_eq_some_iff.1 read
  obtain ⟨labels?,-,read⟩ := Option.bind_eq_some_iff.1 read
  obtain ⟨managers?,managed,read⟩ := Option.bind_eq_some_iff.1 read
  obtain ⟨name?,-,read⟩ := Option.bind_eq_some_iff.1 read
  obtain ⟨space?,-,read⟩ := Option.bind_eq_some_iff.1 read
  obtain ⟨owners?,-,read⟩ := Option.bind_eq_some_iff.1 read
  obtain ⟨version?,-,read⟩ := Option.bind_eq_some_iff.1 read
  obtain ⟨selfLink?,-,read⟩ := Option.bind_eq_some_iff.1 read
  obtain ⟨uid?,-,same⟩ := Option.bind_eq_some_iff.1 read
  cases same
  have dated {name : String} {time? : Option Timestamp} (read : p.optional name Timestamp.ofJson = some time?)
      (whole : ∀ t ∈ time?, t.nano = 0) : ∀ t ∈ time?, t.Whole := fun t inside => by
    obtain ⟨j,-,told⟩ := of_optional read inside
    exact ⟨Timestamp.told_of_ofJson told,whole t inside⟩
  refine ⟨dated created fun t inside => whole t (created_mem inside),
    dated deleted fun t inside => whole t (deleted_mem inside),fun managers held k listed => ?_⟩
  obtain ⟨j,-,told⟩ := of_optional managed held
  obtain ⟨item,told⟩ := Json.of_listOf told listed
  exact Manager.proper_of_ofJson told fun t inside => whole t (managed_mem held listed inside)

/-! ## Rules -/

theorem Json.Parts.nullable_returns {α : Type} {p : Json.Parts} {name : String} {reader : Json → Option α}
    {writer : α → Json} {a : α} (found : p.present.lookup name = some (writer a)) (back : Returns reader writer a) :
    p.nullable name reader = some (some a) := by
  rw [nullable,found]
  split
  next absent => cases absent
  next null => exact absurd (Option.some.inj null) back.solid
  next same =>
    cases same
    rw [back.read,Option.map_some]

theorem Json.Parts.of_nullable {α : Type} {p : Json.Parts} {name : String} {reader : Json → Option α} {o : Option α}
    (read : p.nullable name reader = some o) {a : α} (inside : a ∈ o) : ∃ j, reader j = some a := by
  simp only [nullable] at read
  split at read
  · split at read
    · cases read
    · cases read
      cases inside
  · cases read
    cases inside
  next j _ _ =>
    obtain ⟨b,told,same⟩ := Option.map_eq_some_iff.mp read
    cases same
    cases inside
    exact ⟨j,told⟩

/-- A rule that was read, with any status that can be told, is written so that it is read as just that rule. -/
theorem Rule.returns_of_read {j : Json} {rule : Rule} (read : Rule.ofJson j = some rule)
    (whole : ∀ t ∈ rule.metadata.times, t.nano = 0) {status : RuleStatus} (told : ∀ t ∈ status.timestamps, t.Told) :
    Returns Rule.ofJson Rule.toJson { rule with status? := some status } := by
  obtain ⟨p,-,read⟩ := Option.bind_eq_some_iff.1 read
  obtain ⟨metadata,stored,read⟩ := Option.bind_eq_some_iff.1 read
  obtain ⟨spec,-,read⟩ := Option.bind_eq_some_iff.1 read
  obtain ⟨status?,-,same⟩ := Option.bind_eq_some_iff.1 read
  cases same
  obtain ⟨field,-,stored⟩ := Option.bind_eq_some_iff.1 stored
  have proper := Metadata.proper_of_ofJson stored whole
  refine ⟨?_,nofun⟩
  obtain ⟨q,parts,written⟩ : ∃ q : Json.Parts,
      (toJson ⟨metadata,spec,some status⟩).parts? ["metadata","spec","status"] = some q ∧
        toJson ⟨metadata,spec,some status⟩ = .object q.present := ⟨_,rfl,rfl⟩
  rw [toJson,Json.object.injEq] at written
  unfold ofJson
  refine Option.bind_eq_some_iff.2 ⟨q,parts,?_⟩
  refine Option.bind_eq_some_iff.2 ⟨metadata,required_returns (by simp [← written]) (Metadata.returns proper),?_⟩
  refine Option.bind_eq_some_iff.2 ⟨spec,required_returns (by simp [← written]) spec.returns,?_⟩
  exact Option.bind_eq_some_iff.2 ⟨some status,
    nullable_returns (by simp [← written]) (RuleStatus.returns_of_told told),rfl⟩

/-- What a status that was read says of points in time can be told. -/
theorem Rule.told_of_ofJson {j : Json} {rule : Rule} (read : Rule.ofJson j = some rule) :
    ∀ status ∈ rule.status?, ∀ t ∈ status.timestamps, t.Told := by
  obtain ⟨p,-,read⟩ := Option.bind_eq_some_iff.1 read
  obtain ⟨metadata,-,read⟩ := Option.bind_eq_some_iff.1 read
  obtain ⟨spec,-,read⟩ := Option.bind_eq_some_iff.1 read
  obtain ⟨status?,stored,same⟩ := Option.bind_eq_some_iff.1 read
  cases same
  intro status held
  obtain ⟨j,told⟩ := of_nullable stored held
  exact RuleStatus.told_of_ofJson told

end Callout
