import Callout.Proofs.Isolation
import Mathlib.Data.List.Forall2

/-!
What the headers of an action come to. Headers are taken in the order of their names, and each that names a secret
meets the store as it is when its turn comes (`HeaderTurn.all`). A header has a value, or there is one reason why it has
none (`HeaderTurn.Has`, `HeaderTurn.Lacks`). Either all headers have one and these are the values, or the first that has
none is told, by its name (`headers_settled`).
-/
namespace Callout

theorem fromUTF8?_eq_some_iff {bytes : ByteArray} {text : String} :
    String.fromUTF8? bytes = some text ↔ text.toUTF8 = bytes := by
  constructor
  · intro read
    obtain ⟨valid,same⟩ := Option.dite_none_right_eq_some.mp read
    cases same
    rfl
  · rintro rfl
    exact dif_pos text.isValidUTF8

/-! ## One value of a secret -/

/-- Whether a store tells a secret with these bytes under a key, and they are not empty. -/
def SecretStore.Holds (store : SecretStore) (space name key : String) (bytes : ByteArray) : Prop :=
  ∃ data, store space name = .ok data ∧ data.get? key = some bytes ∧ bytes.size ≠ 0

theorem SecretStore.Holds.unique {store : SecretStore} {space name key : String} {bytes bytes' : ByteArray}
    (held : store.Holds space name key bytes) (held' : store.Holds space name key bytes') : bytes = bytes' := by
  obtain ⟨data,told,found,_⟩ := held
  obtain ⟨data',told',found',_⟩ := held'
  cases told.symm.trans told'
  exact Option.some.inj (found.symm.trans found')

namespace Secret
variable {store : SecretStore} {space name key : String}

/-- Why a store holds nothing under a key of a secret. -/
inductive Withheld (store : SecretStore) (space name key : String) : Misconfiguration → Prop where
  /-- The store does not tell the secret, for whatever fault. -/
  | unread (fault : Fault) (refused : store space name = .error fault) :
      Withheld store space name key (.secretUnread space name fault)
  /-- The secret has nothing under the key. -/
  | nothing (data : SecretData) (told : store space name = .ok data)
      (empty : ∀ bytes ∈ data.get? key, bytes.size = 0) :
      Withheld store space name key (.secretKeyMissing space name key)

theorem find?_eq_some_iff {data : SecretData} {bytes : ByteArray} :
    find? data key = some bytes ↔ data.get? key = some bytes ∧ bytes.size ≠ 0 := by
  simp [find?,Option.filter_eq_some_iff]

theorem find?_eq_none_iff {data : SecretData} :
    find? data key = none ↔ ∀ bytes ∈ data.get? key, bytes.size = 0 := by
  simp [find?,Option.filter_eq_none_iff]

/-- What a secret holds is what is found in it. -/
theorem holds_iff {data : SecretData} (told : store space name = .ok data) {bytes : ByteArray} :
    store.Holds space name key bytes ↔ find? data key = some bytes := by
  rw [find?_eq_some_iff]
  constructor
  · rintro ⟨data',told',found⟩
    cases told.symm.trans told'
    exact found
  · exact fun found => ⟨data,told,found⟩

theorem Withheld.not_holds {cause : Misconfiguration} (withheld : Withheld store space name key cause)
    (bytes : ByteArray) : ¬store.Holds space name key bytes := by
  cases withheld with
  | unread fault refused =>
    rintro ⟨data,told,_⟩
    cases refused.symm.trans told
  | nothing data told empty =>
    rw [holds_iff told,find?_eq_none_iff.mpr empty]
    exact nofun

/-- The value of a secret takes one question, and it is what the store holds or the reason why it holds nothing. -/
theorem value_answered (vault : Vault) (i : Nat) (space name key : String) :
    ((value space name key).answered vault i).2 = [(space, name)] ∧
      match ((value space name key).answered vault i).1 with
      | .ok bytes => (vault i).Holds space name key bytes
      | .error cause => Withheld (vault i) space name key cause := by
  refine ⟨rfl,?_⟩
  simp only [value,Query.answered]
  cases told : vault i space name with
  | error fault => exact .unread fault told
  | ok data =>
    cases found : find? data key with
    | none =>
      simp only [found]
      exact .nothing data told (find?_eq_none_iff.mp found)
    | some bytes =>
      simp only [found]
      exact (holds_iff told).mpr found

end Secret

/-! ## One header -/

/-- A header, with the store of secrets that it meets. -/
structure HeaderTurn where
  name : String
  source : HeaderSource
  store : SecretStore

namespace HeaderTurn

/-- Headers in their order, from a question on. A header that names a secret takes one question. -/
def all (vault : Vault) : Nat → List (String × HeaderSource) → List HeaderTurn
  | _, [] => []
  | i, (name, source) :: rest =>
    ⟨name, source, vault i⟩ :: all vault (if source.secret?.isSome then i + 1 else i) rest

/-- The value of a header: the text that is in its secret, or the value that is given if it names none. -/
def Has (space : String) (h : HeaderTurn) (text : String) : Prop :=
  match h.source.secret? with
  | some secret => h.store.Holds space secret.name secret.key text.toUTF8
  | none => h.source.value? = some text

/-- Why a header has no value. -/
inductive Lacks (space : String) (h : HeaderTurn) : Misconfiguration → Prop where
  /-- Its secret has no value. -/
  | withheld {secret : SecretKey} (named : h.source.secret? = some secret) {cause : Misconfiguration}
      (withheld : Secret.Withheld h.store space secret.name secret.key cause) : Lacks space h (.header h.name cause)
  /-- What its secret holds is no text. -/
  | notText {secret : SecretKey} (named : h.source.secret? = some secret) (bytes : ByteArray)
      (held : h.store.Holds space secret.name secret.key bytes) (garbled : ∀ text : String, text.toUTF8 ≠ bytes) :
      Lacks space h (.headerNotText h.name)
  /-- Neither a secret is named nor a value given. -/
  | bare (unnamed : h.source.secret? = none) (absent : h.source.value? = none) :
      Lacks space h (.headerWithoutValue h.name)

variable {space : String} {h : HeaderTurn} {cause : Misconfiguration}

/-- A header that lacks a value has none. -/
theorem Lacks.not_has (lacks : h.Lacks space cause) (text : String) : ¬h.Has space text := by
  intro has
  simp only [Has] at has
  cases lacks with
  | withheld named withheld =>
    rw [named] at has
    exact withheld.not_holds _ has
  | notText named bytes held garbled =>
    rw [named] at has
    exact garbled text (has.unique held)
  | bare unnamed absent =>
    rw [unnamed] at has
    cases absent.symm.trans has

/-- The reason names the header. -/
theorem Lacks.names (lacks : h.Lacks space cause) :
    ∃ why : String, cause.message = "header " ++ h.name ++ ": " ++ why := by
  have plain {rest why : String} (apart : rest = ": " ++ why) :
      "header " ++ h.name ++ rest = "header " ++ h.name ++ ": " ++ why := by
    rw [apart,← String.append_assoc]
  cases lacks with
  | @withheld _ _ cause _ =>
    refine ⟨"config: " ++ cause.message,?_⟩
    change "header " ++ h.name ++ ": config: " ++ cause.message = _
    rw [plain (by decide : ": config: " = ": " ++ "config: "),String.append_assoc]
  | notText => exact ⟨"secret value is not utf-8",plain (by decide)⟩
  | bare => exact ⟨"neither value nor secretKeyRef set",plain (by decide)⟩

end HeaderTurn

/-- A header asks for its secret, if it names one. Then it has a value, or it lacks one. -/
theorem HeaderSource.resolve_answered (vault : Vault) (i : Nat) (space name : String) (source : HeaderSource) :
    ((source.resolve space name).answered vault i).2.length = (if source.secret?.isSome then 1 else 0) ∧
      match ((source.resolve space name).answered vault i).1 with
      | .ok text => HeaderTurn.Has space ⟨name,source,vault i⟩ text
      | .error cause => HeaderTurn.Lacks space ⟨name,source,vault i⟩ cause := by
  obtain ⟨value?,secret?⟩ := source
  cases secret? with
  | none =>
    refine ⟨by cases value? <;> rfl,?_⟩
    cases value? with
    | none => exact .bare rfl rfl
    | some value => exact rfl
  | some secret =>
    obtain ⟨asked,told⟩ := Secret.value_answered vault i space secret.name secret.key
    rw [show resolve space name ⟨value?,some secret⟩ = (Secret.value space secret.name secret.key).bind _ from rfl,
      Query.answered_bind]
    generalize (Secret.value space secret.name secret.key).answered vault i = first at asked told
    obtain ⟨result,reads⟩ := first
    cases asked
    cases result with
    | error cause => exact ⟨rfl,.withheld rfl told⟩
    | ok bytes =>
      cases read : String.fromUTF8? bytes with
      | none =>
        simp only [read]
        refine ⟨rfl,.notText rfl bytes told fun text same => ?_⟩
        cases (fromUTF8?_eq_some_iff.mpr same).symm.trans read
      | some text =>
        simp only [read]
        cases fromUTF8?_eq_some_iff.mp read
        exact ⟨rfl,told⟩

/-! ## All headers -/

namespace HeaderTurn

/-- Values that belong to headers, one to each. -/
abbrev Valued (space : String) : List HeaderTurn → List (String × String) → Prop :=
  List.Forall₂ fun h value => value.1 = h.name ∧ h.Has space value.2

/-- How headers come out: each has its value, or the first that lacks one is told. -/
inductive Settled (space : String) (turns : List HeaderTurn) :
    Except Misconfiguration (List (String × String)) → Prop where
  | values {values : List (String × String)} (all : Valued space turns values) : Settled space turns (.ok values)
  | first {before after : List HeaderTurn} {h : HeaderTurn} {cause : Misconfiguration}
      (split : turns = before ++ h :: after) (had : ∀ b ∈ before, ∃ text, b.Has space text)
      (lacks : h.Lacks space cause) : Settled space turns (.error cause)

variable {space : String} {h : HeaderTurn} {turns : List HeaderTurn} {values : List (String × String)}

theorem Valued.names (all : Valued space turns values) : values.map (·.1) = turns.map (·.name) := by
  induction all with
  | nil => rfl
  | cons head _ ih => rw [List.map_cons,List.map_cons,head.1,ih]

theorem Valued.has (all : Valued space turns values) (member : h ∈ turns) :
    ∃ text, h.Has space text ∧ (h.name,text) ∈ values := by
  induction all with
  | nil => cases member
  | @cons _ value _ _ head _ ih =>
    rcases List.mem_cons.mp member with rfl | later
    · exact ⟨value.2,head.2,by simp [← head.1]⟩
    · obtain ⟨text,has,found⟩ := ih later
      exact ⟨text,has,List.mem_cons_of_mem _ found⟩

/-- A header that has its value goes before the others. -/
theorem Settled.cons {text : String} {result : Except Misconfiguration (List (String × String))}
    (has : h.Has space text) (rest : Settled space turns result) :
    Settled space (h :: turns) (result.map ((h.name,text) :: ·)) := by
  cases rest with
  | values all => exact .values (.cons ⟨rfl,has⟩ all)
  | @first before after _ _ split had lacks =>
    refine .first (by rw [split]; rfl : h :: turns = (h :: before) ++ _ :: after) ?_ lacks
    rintro b (_|⟨_,member⟩)
    exacts [⟨text,has⟩,had b member]

theorem map_all (vault : Vault) (i : Nat) (entries : List (String × HeaderSource)) :
    (all vault i entries).map (fun h => (h.name,h.source)) = entries := by
  induction entries generalizing i with
  | nil => rfl
  | cons entry rest ih => exact congrArg (entry :: ·) (ih _)

end HeaderTurn

theorem resolveEntries_settled (vault : Vault) (i : Nat) (space : String) (entries : List (String × HeaderSource)) :
    HeaderTurn.Settled space (HeaderTurn.all vault i entries)
      ((resolveEntries space entries).answered vault i).1 := by
  induction entries generalizing i with
  | nil => exact .values .nil
  | cons entry rest ih =>
    obtain ⟨name,source⟩ := entry
    obtain ⟨asked,outcome⟩ := source.resolve_answered vault i space name
    change HeaderTurn.Settled space _ (((source.resolve space name).bind _).answered vault i).1
    rw [Query.answered_bind]
    revert outcome asked
    generalize (source.resolve space name).answered vault i = first
    obtain ⟨result,reads⟩ := first
    cases result with
    | error cause => exact fun _ lacks => .first (List.nil_append _).symm nofun lacks
    | ok text =>
      intro asked has
      have later : HeaderTurn.all vault i ((name,source) :: rest) =
          ⟨name,source,vault i⟩ :: HeaderTurn.all vault (i + reads.length) rest := by
        rw [asked]
        dsimp only [HeaderTurn.all]
        split <;> rfl
      rw [later]
      change HeaderTurn.Settled space _ (((resolveEntries space rest).bind _).answered vault _).1
      rw [Query.answered_bind]
      exact (ih _).cons has

/-- Either every header that is declared has a value, and what they come to has these names and these values, or the
first that has none is told, by its name and with its own reason. It is told so whatever the store said of its
secret. -/
theorem headers_settled (vault : Vault) (i : Nat) (space : String) (headers : Dict HeaderSource) :
    let turns := HeaderTurn.all vault i headers.entries
    let result := ((resolveHeaders space headers).answered vault i).1
    turns.map (fun h => (h.name, h.source)) = headers.entries ∧
      ((∃ values, result = .ok values) ↔ ∀ h ∈ turns, ∃ text, h.Has space text) ∧
      match result with
      | .ok values =>
        values.keys = headers.keys ∧ ∀ h ∈ turns, ∃ text, h.Has space text ∧ values.get? h.name = some text
      | .error cause =>
        ∃ before h after, turns = before ++ h :: after ∧ (∀ b ∈ before, ∃ text, b.Has space text) ∧
          (∀ text, ¬h.Has space text) ∧ h.Lacks space cause ∧
          ∃ why, (Fault.config cause).message = "config: " ++ ("header " ++ h.name ++ ": " ++ why) := by
  intro turns result
  have declared := HeaderTurn.map_all vault i headers.entries
  have settled := resolveEntries_settled vault i space headers.entries
  have same : result = ((resolveEntries space headers.entries).answered vault i).1.map Dict.ofList := by
    change (((resolveEntries space headers.entries).bind _).answered vault i).1 = _
    rw [Query.answered_bind]
    rfl
  rw [same]
  refine ⟨declared,?_⟩
  change turns.map _ = _ at declared
  change HeaderTurn.Settled space turns _ at settled
  generalize ((resolveEntries space headers.entries).answered vault i).1 = resolved at settled
  cases settled with
  | @values values all =>
    have keys : values.map (·.1) = headers.keys := by
      rw [all.names,Dict.keys,← declared,List.map_map]
      rfl
    have ordered : (Dict.ofList values).entries = values := by
      refine Dict.entries_foldl_insert values .empty ?_
      have ordered : headers.keys.Pairwise (· < ·) := List.pairwise_map.mpr headers.ordered
      rw [← keys] at ordered
      exact List.pairwise_map.mp ordered
    refine ⟨⟨fun _ h member => ?_,fun _ => ⟨_,rfl⟩⟩,?_,fun h member => ?_⟩
    · exact (all.has member).imp fun _ => And.left
    · rw [Dict.keys,ordered,keys]
    · obtain ⟨text,has,found⟩ := all.has member
      exact ⟨text,has,(Dict.get?_eq_some_iff _ _ _).mpr (ordered.symm ▸ found)⟩
  | @first before after h cause split had lacks =>
    refine ⟨⟨nofun,fun all => ?_⟩,before,h,after,split,had,lacks.not_has,lacks,?_⟩
    · obtain ⟨text,has⟩ := all h (by simp [split])
      exact absurd has (lacks.not_has text)
    · obtain ⟨why,told⟩ := lacks.names
      exact ⟨why,congrArg ("config: " ++ ·) told⟩

end Callout
