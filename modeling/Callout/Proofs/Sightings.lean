import Callout.Cluster.Watch
import Callout.Proofs.Basic
import Callout.Proofs.StoredRule
import Mathlib.Data.List.Forall2
import Mathlib.Data.List.Induction

/-!
What becomes of objects on their way from the cluster to snapshots. A snapshot is shaped from a few facts that stand in
an object's metadata (`Snapshot.ofRaw_eq`), and its list of field managers is not among them. The typed metadata that an
object passes through keep these facts (`Metadata.facts_of_ofJson`, `Metadata.facts_toJson`). So the snapshot of what is
told of an object agrees with the snapshot of the object as it was written (`Cluster.snapshots_conveyed`).
-/
namespace Callout
attribute [local simp] List.lookup_append

namespace Snapshot

/-! ## What a snapshot is shaped from -/

/-- What snapshots are shaped from. -/
structure Facts where
  name? : Option String
  space? : Option String
  uid? : Option String
  version? : Option String
  labels : Dict String

/-- The facts that stand in the metadata of an object, if it has any. -/
def Facts.of (metadata? : Option Json) : Facts :=
  let read (key : String) : Option String := (metadata?.bind (·.field? key)).bind Json.text?
  { name? := read "name", space? := read "namespace", uid? := read "uid", version? := read "resourceVersion",
    labels := labelsOf metadata? }

/-- The snapshot with these facts, unless they have neither an identifier nor a name. -/
def Facts.shape (f : Facts) (raw : Json) : Option Snapshot :=
  if f.name?.getD "" = "" ∧ f.uid?.getD "" = "" then none
  else
    some
      { name := f.name?.getD "", uid := f.uid?.getD "", space? := f.space?.filter (· ≠ ""), version? := f.version?,
        labels := f.labels, raw }

theorem field?_erase (j : Json) (key other : String) :
    (j.erase key).field? other = if other = key then none else j.field? other := by
  cases j with
  | object fields => exact Dict.lookup_filter_ne key fields other
  | null | bool | int | real | text | list => simp [Json.erase,Json.field?]

theorem metadata_withoutManagers (object : Json) :
    (withoutManagers object).field? "metadata" = (object.field? "metadata").map (·.erase "managedFields") := by
  cases object with
  | object fields =>
    simp only [withoutManagers,Json.field?]
    induction fields with
    | nil => rfl
    | cons entry rest ih =>
      obtain ⟨key,value⟩ := entry
      by_cases same : key = "metadata"
      · simp [same]
      · have passed : ("metadata" == key) = false := by simpa using Ne.symm same
        simpa [List.lookup_cons,passed] using ih
  | null | bool | int | real | text | list => rfl

theorem Facts.of_erase (metadata? : Option Json) :
    Facts.of (metadata?.map (·.erase "managedFields")) = Facts.of metadata? := by
  cases metadata? with
  | none => rfl
  | some metadata => simp [Facts.of,labelsOf,field?_erase]

/-- Field managers have no part in what a snapshot is shaped from. -/
theorem ofRaw_eq (object : Json) :
    ofRaw object = (Facts.of (object.field? "metadata")).shape (withoutManagers object) := by
  rw [← Facts.of_erase,← metadata_withoutManagers]
  rfl

theorem Facts.shape_raw {f : Facts} {raw : Json} {s : Snapshot} (shaped : f.shape raw = some s) : s.raw = raw := by
  unfold shape at shaped
  split at shaped
  · cases shaped
  · cases shaped
    rfl

theorem withoutManagers_again (object : Json) : withoutManagers (withoutManagers object) = withoutManagers object := by
  cases object with
  | object fields =>
    simp only [withoutManagers,List.map_map,Json.object.injEq]
    refine List.map_congr_left fun entry _ => ?_
    obtain ⟨key,value⟩ := entry
    by_cases same : key = "metadata"
    · cases value <;> simp [same,Json.erase]
    · simp [same]
  | null | bool | int | real | text | list => rfl

theorem ofRaw_withoutManagers (object : Json) : ofRaw (withoutManagers object) = ofRaw object := by
  rw [ofRaw_eq,ofRaw_eq,metadata_withoutManagers,Facts.of_erase,withoutManagers_again]

/-! ## Objects with the same facts -/

/-- Whether two snapshots agree on all but the objects that they are of. -/
structure Agrees (s t : Snapshot) : Prop where
  name : s.name = t.name
  space? : s.space? = t.space?
  uid : s.uid = t.uid
  version? : s.version? = t.version?
  labels : s.labels = t.labels

theorem agrees_of_facts {a b : Json} (same : Facts.of (a.field? "metadata") = Facts.of (b.field? "metadata")) :
    Option.Rel Agrees (ofRaw a) (ofRaw b) := by
  rw [ofRaw_eq a,ofRaw_eq b,same]
  unfold Facts.shape
  split
  · exact .none
  · exact .some ⟨rfl,rfl,rfl,rfl,rfl⟩

/-- Two objects that differ at most in the field managers of their metadata. -/
inductive Remanaged : Json → Json → Prop where
  | metadata (before after : List (String × Json)) {fields fields' : List (String × Json)}
      (others : fields.filter (·.1 ≠ "managedFields") = fields'.filter (·.1 ≠ "managedFields")) :
      Remanaged (.object (before ++ ("metadata", .object fields) :: after))
        (.object (before ++ ("metadata", .object fields') :: after))

theorem Remanaged.ofRaw_eq {a b : Json} (remanaged : Remanaged a b) : ofRaw a = ofRaw b := by
  cases remanaged with
  | @metadata before after fields fields' others =>
    have same : withoutManagers (.object (before ++ ("metadata",.object fields) :: after)) =
        withoutManagers (.object (before ++ ("metadata",.object fields') :: after)) := by
      simp only [withoutManagers,Json.erase,List.map_append,List.map_cons,if_true,others]
    rw [← ofRaw_withoutManagers,same,ofRaw_withoutManagers]

/-! ## Metadata -/

theorem Facts.of_some {metadata : Json} {f : Facts} (name : (metadata.field? "name").bind Json.text? = f.name?)
    (space : (metadata.field? "namespace").bind Json.text? = f.space?)
    (uid : (metadata.field? "uid").bind Json.text? = f.uid?)
    (version : (metadata.field? "resourceVersion").bind Json.text? = f.version?)
    (labels : labelsOf (some metadata) = f.labels) : Facts.of (some metadata) = f := by
  unfold of
  simp only [Option.bind_some,name,space,uid,version,labels]

theorem labelsOf_some {metadata labels : Json} (found : metadata.field? "labels" = some labels) :
    labelsOf (some metadata) =
      Dict.ofList ((labels.fields?.getD []).filterMap fun (key,value) => value.text?.map (key,·)) := by
  unfold labelsOf
  rw [Option.bind_some,found]
  cases labels <;> rfl

theorem labelsOf_none {metadata : Json} (missing : metadata.field? "labels" = none) :
    labelsOf (some metadata) = .empty := by
  unfold labelsOf
  rw [Option.bind_some,missing]

end Snapshot

namespace Json
variable {α : Type} {reader : Json → Option α}

theorem Parts.text_of_optional {p : Parts} {name : String} {o : Option String}
    (read : p.optional name text? = some o) : (p.present.lookup name).bind text? = o := by
  obtain ⟨missing | null,rfl⟩ | ⟨j,a,found,_,told,rfl⟩ := optional_cases read
  · rw [missing,Option.bind_none]
  · rw [null]
    rfl
  · rw [found,Option.bind_some,told]

/-- A map that is read as a whole is the map of those entries that can be read. -/
theorem dictOf_entries {j : Json} {d : Dict α} (read : dictOf? reader j = some d) :
    Dict.ofList ((j.fields?.getD []).filterMap fun (key,value) => (reader value).map (key,·)) = d := by
  cases j with
  | object fields =>
    obtain ⟨entries,told,same⟩ := Option.bind_eq_some_iff.1 read
    cases same
    have all := congrArg (List.filterMap id) (mapM_eq_some_iff.mp told)
    rw [List.filterMap_map,List.filterMap_map] at all
    exact congrArg Dict.ofList (all.trans List.filterMap_some)
  | null | bool | int | real | text | list => cases read

end Json

namespace Metadata
open Snapshot (Facts labelsOf labelsOf_some labelsOf_none)
open Json.Parts (text_of_optional optional_cases)

/-- The facts that metadata hold. -/
def facts (m : Metadata) : Facts := ⟨m.name?,m.space?,m.uid?,m.version?,m.labels?.getD .empty⟩

/-- What is written of metadata has their facts. -/
theorem facts_toJson (m : Metadata) : Facts.of (some m.toJson) = m.facts := by
  have text {name : String} {o : Option String} (found : m.toJson.field? name = o.map .text) :
      (m.toJson.field? name).bind Json.text? = o := by
    rw [found]
    cases o <;> rfl
  have labelled : m.toJson.field? "labels" = m.labels?.map (Json.ofDict .text) := by simp [toJson,Json.field?]
  refine Facts.of_some (text ?_) (text ?_) (text ?_) (text ?_) ?_
  case refine_5 =>
    cases told : m.labels? with
    | none => simpa [facts,told] using labelsOf_none (by rw [labelled,told]; rfl)
    | some d =>
      rw [told] at labelled
      rw [labelsOf_some labelled,facts,told]
      exact Json.dictOf_entries (Json.returns_dict fun e _ => Json.returns_text e.2).read
  all_goals simp [toJson,Json.field?,facts]

/-- Metadata that were read hold the facts of what they were read from. -/
theorem facts_of_ofJson {j : Json} {m : Metadata} (read : ofJson j = some m) : Facts.of (some j) = m.facts := by
  obtain ⟨p,parts,read⟩ := Option.bind_eq_some_iff.1 read
  obtain ⟨annotations?,-,read⟩ := Option.bind_eq_some_iff.1 read
  obtain ⟨created?,-,read⟩ := Option.bind_eq_some_iff.1 read
  obtain ⟨deletionGrace?,-,read⟩ := Option.bind_eq_some_iff.1 read
  obtain ⟨deleted?,-,read⟩ := Option.bind_eq_some_iff.1 read
  obtain ⟨finalizers?,-,read⟩ := Option.bind_eq_some_iff.1 read
  obtain ⟨generateName?,-,read⟩ := Option.bind_eq_some_iff.1 read
  obtain ⟨generation?,-,read⟩ := Option.bind_eq_some_iff.1 read
  obtain ⟨labels?,labelled,read⟩ := Option.bind_eq_some_iff.1 read
  obtain ⟨managers?,-,read⟩ := Option.bind_eq_some_iff.1 read
  obtain ⟨name?,named,read⟩ := Option.bind_eq_some_iff.1 read
  obtain ⟨space?,placed,read⟩ := Option.bind_eq_some_iff.1 read
  obtain ⟨owners?,-,read⟩ := Option.bind_eq_some_iff.1 read
  obtain ⟨version?,versioned,read⟩ := Option.bind_eq_some_iff.1 read
  obtain ⟨selfLink?,-,read⟩ := Option.bind_eq_some_iff.1 read
  obtain ⟨uid?,identified,same⟩ := Option.bind_eq_some_iff.1 read
  cases same
  have fields (name : String) : j.field? name = p.present.lookup name := by
    cases j with
    | object fields =>
      cases parts
      rfl
    | null | bool | int | real | text | list => cases parts
  refine Facts.of_some ?_ ?_ ?_ ?_ ?_
  · exact fields "name" ▸ text_of_optional named
  · exact fields "namespace" ▸ text_of_optional placed
  · exact fields "uid" ▸ text_of_optional identified
  · exact fields "resourceVersion" ▸ text_of_optional versioned
  · obtain ⟨missing | null,rfl⟩ | ⟨labels,d,found,_,told,rfl⟩ := optional_cases labelled
    · exact labelsOf_none ((fields "labels").trans missing)
    · exact labelsOf_some ((fields "labels").trans null)
    · exact (labelsOf_some ((fields "labels").trans found)).trans (Json.dictOf_entries told)

end Metadata

/-! ## Objects -/

namespace Json

/-- Whether no key of an object stands twice. -/
def Distinct (j : Json) : Prop := ∀ fields ∈ j.fields?, (fields.map Prod.fst).Nodup

/-- Of several fields with one key the last counts. -/
theorem field?_ofFields (fields : List (String × Json)) (key : String) :
    (ofFields fields).field? key = fields.reverse.lookup key := by
  induction fields using List.reverseRecOn with
  | nil => rfl
  | append_singleton before entry ih =>
    obtain ⟨other,value⟩ := entry
    change (before.foldl (fun l f => Dict.insertEntry f.1 f.2 l) []).lookup key = _ at ih
    simp only [ofFields,field?,List.foldl_append,List.foldl_cons,List.foldl_nil,List.reverse_append,
      List.reverse_singleton,List.singleton_append,Dict.lookup_insertEntry,ih,List.lookup_cons]
    by_cases same : key = other
    · simp [same]
    · rw [if_neg same,beq_false_of_ne same]

theorem lookup_reverse {fields : List (String × Json)} (distinct : (fields.map Prod.fst).Nodup) (key : String) :
    fields.reverse.lookup key = fields.lookup key := by
  induction fields with
  | nil => rfl
  | cons entry rest ih =>
    obtain ⟨other,value⟩ := entry
    obtain ⟨apart,distinct⟩ := List.nodup_cons.mp distinct
    rw [List.reverse_cons,List.lookup_append,ih distinct,List.lookup_cons,List.lookup_cons]
    by_cases same : key = other
    · subst same
      have missing : rest.lookup key = none := by
        rw [List.lookup_eq_none_iff]
        rintro ⟨k,v⟩ inside
        simp only [bne_iff_ne]
        rintro rfl
        exact apart (List.mem_map.mpr ⟨_,inside,rfl⟩)
      simp [missing]
    · rw [beq_false_of_ne same,List.lookup_nil,Option.or_none]

end Json

namespace Cluster.Object

theorem takeInterface_sublist (fields : List (String × Json)) : (takeInterface fields).2.Sublist fields := by
  unfold takeInterface
  dsimp only
  split
  · exact List.filter_sublist.trans List.filter_sublist
  · exact List.filter_sublist.trans List.filter_sublist
  · exact List.filter_sublist.trans List.filter_sublist
  · exact List.filter_sublist

theorem lookup_takeInterface (fields : List (String × Json)) {key : String} (versionless : key ≠ "apiVersion")
    (kindless : key ≠ "kind") : (takeInterface fields).2.lookup key = fields.lookup key := by
  unfold takeInterface
  dsimp only
  split <;> simp only [Dict.lookup_filter_ne,if_neg versionless,if_neg kindless]

theorem takeInterface_of_texts {fields : List (String × Json)} {version kind : String}
    (versioned : fields.lookup "apiVersion" = some (.text version))
    (sorted : fields.lookup "kind" = some (.text kind)) : (takeInterface fields).1 = some (version,kind) := by
  unfold takeInterface
  rw [versioned,sorted]

/-- The metadata are written in the place of all that the rest may hold for them. -/
theorem field?_toJson_metadata (o : Object) : o.toJson.field? "metadata" = some o.metadata.toJson := by
  unfold toJson
  rw [Json.field?_ofFields,List.reverse_append]
  rfl

theorem field?_toJson (o : Object) {key : String} (versionless : key ≠ "apiVersion") (kindless : key ≠ "kind")
    (other : key ≠ "metadata") : o.toJson.field? key = o.rest.reverse.lookup key := by
  obtain ⟨interface?,metadata,rest⟩ := o
  unfold toJson
  rw [Json.field?_ofFields]
  cases interface? with
  | none => simp [List.lookup_cons,beq_false_of_ne other]
  | some interface =>
    simp [List.lookup_cons,beq_false_of_ne other,beq_false_of_ne versionless,beq_false_of_ne kindless]

theorem field?_toJson_interface {o : Object} {version kind : String} (kept : o.interface? = some (version,kind)) :
    o.toJson.field? "apiVersion" = some (.text version) ∧ o.toJson.field? "kind" = some (.text kind) := by
  unfold toJson
  rw [Json.field?_ofFields,Json.field?_ofFields,kept,List.reverse_append,List.reverse_append]
  exact ⟨rfl,rfl⟩

/-- Whether what is told of an object, `raw`, conveys the object as it was written, `item`. -/
structure Conveys (item raw : Json) : Prop where
  /-- It is what is written of the object that was read. -/
  told : ∃ o, ofJson item = some o ∧ raw = o.toJson
  /-- It has a snapshot just if the object has one, and the two agree. -/
  snapshot : Option.Rel Snapshot.Agrees (Snapshot.ofRaw raw) (Snapshot.ofRaw item)
  /-- Version and kind of the interface are kept when both are there. -/
  interface : ∀ version kind : String, item.field? "apiVersion" = some (.text version) →
    item.field? "kind" = some (.text kind) →
    raw.field? "apiVersion" = some (.text version) ∧ raw.field? "kind" = some (.text kind)
  /-- All other parts but the metadata pass through as they are. -/
  others : item.Distinct → ∀ key ∉ ["apiVersion","kind","metadata"], raw.field? key = item.field? key

/-- What an object is that was read: its metadata are what was read of them, or empty, and the parts that are left are
divided into the interface and the rest. -/
theorem ofJson_inv {j : Json} {o : Object} (read : ofJson j = some o) :
    ∃ fields, j = .object fields ∧ (fields.lookup "metadata").elim (some {}) Metadata.ofJson = some o.metadata ∧
      takeInterface (fields.filter (·.1 ≠ "metadata")) = (o.interface?,o.rest) := by
  obtain ⟨fields,object,read⟩ := Option.bind_eq_some_iff.1 read
  obtain ⟨metadata,stored,same⟩ := Option.bind_eq_some_iff.1 read
  refine ⟨fields,?_,?_⟩
  · cases j with
    | object others =>
      cases object
      rfl
    | null | bool | int | real | text | list => cases object
  · generalize takeInterface (fields.filter (·.1 ≠ "metadata")) = taken at same
    obtain ⟨interface?,rest⟩ := taken
    cases same
    exact ⟨stored,rfl⟩

theorem conveys_of_ofJson {j : Json} {o : Object} (read : ofJson j = some o) : Conveys j o.toJson := by
  obtain ⟨fields,rfl,stored,taken⟩ := ofJson_inv read
  refine ⟨⟨o,read,rfl⟩,Snapshot.agrees_of_facts ?_,fun version kind versioned sorted => ?_,fun distinct key apart => ?_⟩
  · rw [field?_toJson_metadata,Metadata.facts_toJson,Json.field?]
    cases given : fields.lookup "metadata" with
    | none =>
      rw [given,Option.elim_none,Option.some.injEq] at stored
      rw [← stored]
      rfl
    | some field =>
      rw [given] at stored
      exact (Metadata.facts_of_ofJson stored).symm
  · refine field?_toJson_interface ?_
    have kept : (takeInterface (fields.filter (·.1 ≠ "metadata"))).1 = some (version,kind) := by
      refine takeInterface_of_texts ?_ ?_
      · rwa [Dict.lookup_filter_ne,if_neg (by decide)]
      · rwa [Dict.lookup_filter_ne,if_neg (by decide)]
    rwa [taken] at kept
  · simp only [List.mem_cons,List.not_mem_nil,or_false,not_or] at apart
    obtain ⟨versionless,kindless,other⟩ := apart
    have kept : o.rest.Sublist fields := by
      have sublist := (takeInterface_sublist (fields.filter (·.1 ≠ "metadata"))).trans List.filter_sublist
      rwa [taken] at sublist
    have found : o.rest.lookup key = fields.lookup key := by
      have passed := lookup_takeInterface (fields.filter (·.1 ≠ "metadata")) versionless kindless
      rwa [taken,Dict.lookup_filter_ne,if_neg other] at passed
    rw [field?_toJson o versionless kindless other,
      Json.lookup_reverse ((kept.map Prod.fst).nodup (distinct fields rfl)),found,Json.field?]

end Cluster.Object

namespace Cluster
open Object (Conveys conveys_of_ofJson)

/-- A change is told with the object that it is of. What is told has the snapshot of the object as it was written, up to
the object that the snapshot holds. When a watch starts over, all objects are told in their order. The object that a
snapshot holds has that snapshot, and the field managers of an object have no part in its snapshot. -/
theorem snapshots_conveyed :
    (∀ (item : Json) (o : Object), Object.ofJson item = some o →
      ∃ raw, Conveys item raw ∧ (Change.applied o).notification = .applied raw ∧
        (Change.deleted o).notification = .deleted raw) ∧
    (∀ (items : List Json) (objects : List Object), items.mapM Object.ofJson = some objects →
      ∃ raws, List.Forall₂ Conveys items raws ∧ (Change.restarted objects).notification = .restarted raws) ∧
    (∀ (j : Json) (s : Snapshot), Snapshot.ofRaw j = some s → Snapshot.ofRaw s.raw = some s) ∧
    ∀ a b : Json, Snapshot.Remanaged a b → Snapshot.ofRaw a = Snapshot.ofRaw b := by
  refine ⟨fun item o read => ⟨o.toJson,conveys_of_ofJson read,rfl,rfl⟩,fun items objects read => ?_,
    fun j s shaped => ?_,fun a b => Snapshot.Remanaged.ofRaw_eq⟩
  · refine ⟨objects.map Object.toJson,List.forall₂_map_right_iff.mpr ?_,rfl⟩
    have each : items.map Object.ofJson = objects.map some := mapM_eq_some_iff.mp read
    have read : List.Forall₂ (fun item o => Object.ofJson item = some o) items objects := by
      rwa [← List.forall₂_eq_eq_eq,List.forall₂_map_left_iff,List.forall₂_map_right_iff] at each
    exact read.imp fun item o read => conveys_of_ofJson read
  · rw [Snapshot.ofRaw_eq] at shaped
    rw [Snapshot.Facts.shape_raw shaped,Snapshot.ofRaw_withoutManagers,Snapshot.ofRaw_eq,shaped]

end Cluster

namespace Sample
open Cluster

/-- An object with the given field managers, a null field and one that is not known. -/
def managed (managers : List Json) : Json :=
  .object
    [("apiVersion", .text "v1"), ("data", .object [("a", .text "1")]), ("kind", .text "ConfigMap"),
      ("metadata", .object
        ([("clusterName", .text "east"), ("creationTimestamp", .null), ("labels", .object [("app", .text "web")])] ++
          ("managedFields", .list managers) ::
          [("name", .text "web"), ("namespace", .text ""), ("resourceVersion", .text "7"), ("uid", .text "u")]))]

/-- The field managers of an object that was edited. -/
def editor : List Json := [.object [("manager", .text "edit")]]

/-- An object with neither a name nor an identifier. -/
def stray : Json := .object [("data", .null), ("metadata", .object [("name", .null), ("labels", .null)])]

/-- What is told of an edited object has a snapshot with what the object says of itself, and so has the object that the
snapshot holds. What is told of a list has the stray object in its place, which has no snapshot. -/
theorem snapshots_conveyed_of_edited :
    (∃ o raw s, Object.ofJson (managed editor) = some o ∧ (Change.applied o).notification = .applied raw ∧
      (Change.deleted o).notification = .deleted raw ∧ Snapshot.ofRaw raw = some s ∧ s.name = "web" ∧ s.space? = none ∧
      s.uid = "u" ∧ s.version? = some "7" ∧ s.labels.get? "app" = some "web" ∧ Snapshot.ofRaw s.raw = some s) ∧
    (∃ objects first second, [stray,managed []].mapM Object.ofJson = some objects ∧
      (Change.restarted objects).notification = .restarted [first,second] ∧ Snapshot.ofRaw first = none ∧
      second.field? "data" = some (.object [("a", .text "1")])) ∧
    Snapshot.ofRaw (managed editor) = Snapshot.ofRaw (managed []) := by
  obtain ⟨single,several,again,unmanaged⟩ := snapshots_conveyed
  refine ⟨?_,?_,unmanaged _ _ (.metadata [("apiVersion", .text "v1"), _, _] [] rfl)⟩
  · obtain ⟨o,read⟩ : ∃ o, Object.ofJson (managed editor) = some o := ⟨_,rfl⟩
    obtain ⟨raw,conveys,applied,deleted⟩ := single _ o read
    have shaped : Option.Rel Snapshot.Agrees (Snapshot.ofRaw raw) (Snapshot.ofRaw (managed editor)) := conveys.snapshot
    rw [show Snapshot.ofRaw (managed editor) = some _ from rfl] at shaped
    cases same : Snapshot.ofRaw raw with
    | none =>
      rw [same] at shaped
      cases shaped
    | some s =>
      rw [same] at shaped
      obtain ⟨name,space,uid,version,labels⟩ := Option.rel_some_some.mp shaped
      exact ⟨o,raw,s,read,applied,deleted,same,name,space,uid,version,labels ▸ rfl,again raw s same⟩
  · obtain ⟨objects,read⟩ : ∃ objects, [stray,managed []].mapM Object.ofJson = some objects := ⟨_,rfl⟩
    obtain ⟨raws,conveyed,restarted⟩ := several _ objects read
    obtain _ | ⟨first,_ | ⟨second,_ | _⟩⟩ := conveyed
    have distinct : (managed []).Distinct := by
      rintro fields ⟨⟩
      decide
    refine ⟨objects,_,_,read,restarted,?_,second.others distinct "data" (by decide)⟩
    have missing := first.snapshot
    rw [show Snapshot.ofRaw stray = none from rfl] at missing
    generalize Snapshot.ofRaw _ = shaped at missing
    cases missing
    rfl

end Sample
end Callout
