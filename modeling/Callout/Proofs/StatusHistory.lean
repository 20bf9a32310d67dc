import Callout.Proofs.Reporting

/-!
A status over its whole history. Each record keeps the ledger that was there and adds an entry for a key that has none
(`RuleStatus.keys_recordAll`), so what a ledger holds for a key is what was said of it first
(`RuleStatus.first?_recordAll`). The last error and the ready condition say what the last record said, both the same,
and no other condition is touched (`RuleStatus.recordAll_history`).
-/
namespace Callout

/-- What tells the entries of a ledger apart. -/
structure Execution.Key where
  /-- The identity of the object. -/
  object : String
  event : EventKind
deriving DecidableEq, Repr

def Execution.key (e : Execution) : Execution.Key := ⟨e.object, e.event⟩

/-- Whether a condition says how a dispatch ended, and a last error says the same. -/
inductive Condition.Agrees (c : Condition) : Option String → RuleStatus.Outcome → Prop where
  | success (status : c.status = .holds) (reason : c.reason = "ActionSucceeded")
      (message : c.message = "All actions executed successfully") : Agrees c none (.ok ())
  | failure {fault : Fault} (status : c.status = .fails) (reason : c.reason = fault.reason)
      (message : c.message = fault.message) : Agrees c (some fault.message) (.error fault)

namespace RuleStatus

/-- What is recorded of a dispatch: an execution and how it ended, for a generation of the rule and at a time. -/
structure Report where
  execution : Execution
  outcome : Outcome
  generation? : Option Int64
  now : Timestamp

/-- The status after some records, one after the other. -/
def recordAll (s : RuleStatus) (reports : List Report) : RuleStatus :=
  reports.foldl (fun s report => s.record report.execution report.outcome report.generation? report.now) s

/-- The keys of a ledger, in its order. -/
def keys (s : RuleStatus) : List (Execution.Key) := s.executions.map Execution.key

/-- The first of some executions with a key. -/
def first? (executions : List Execution) (key : Execution.Key) : Option Execution :=
  executions.find? (·.key = key)

/-! ## One record -/

theorem hasExecuted_iff (s : RuleStatus) (object : String) (event : EventKind) :
    s.hasExecuted object event = true ↔ ⟨object,event⟩ ∈ s.keys := by
  simp [hasExecuted,keys,Execution.key]

section
variable (s : RuleStatus) (report : Report)

theorem executions_record :
    (s.record report.execution report.outcome report.generation? report.now).executions =
      if report.execution.key ∈ s.keys then s.executions else s.executions ++ [report.execution] := by
  have held := s.hasExecuted_iff report.execution.object report.execution.event
  simp only [record,held]
  rfl

theorem keys_record :
    (s.record report.execution report.outcome report.generation? report.now).keys =
      if report.execution.key ∈ s.keys then s.keys else s.keys ++ [report.execution.key] := by
  rw [keys,executions_record]
  split <;> simp [keys]

/-- An entry that is not added would not have been the first one with its key. -/
theorem first?_record (key : Execution.Key) :
    first? (s.record report.execution report.outcome report.generation? report.now).executions key =
      first? (s.executions ++ [report.execution]) key := by
  rw [executions_record]
  split
  next held =>
    obtain ⟨e,member,same⟩ := List.mem_map.mp held
    by_cases here : report.execution.key = key
    · have found : (first? s.executions key).isSome := List.find?_isSome.mpr ⟨e,member,by simp [same,here]⟩
      obtain ⟨entry,first⟩ := Option.isSome_iff_exists.mp found
      simp only [first?] at first ⊢
      rw [List.find?_append,first,Option.some_or]
    · simp [first?,here]
  next => rfl

theorem agrees_record :
    ∃ c, (s.record report.execution report.outcome report.generation? report.now).ready? = some c ∧
      c.Agrees (s.record report.execution report.outcome report.generation? report.now).lastError?
        report.outcome := by
  obtain ⟨since,found⟩ := s.record_ready report.execution report.outcome report.generation? report.now
  refine ⟨_,found,?_⟩
  cases outcome : report.outcome with
  | ok _ => exact .success rfl rfl rfl
  | error fault => exact .failure rfl rfl rfl

end

end RuleStatus

theorem Condition.filter_upsert (held : List Condition) (new : Condition) (now : Timestamp) :
    (upsert held new now).filter (·.type ≠ new.type) = held.filter (·.type ≠ new.type) := by
  induction held with
  | nil => simp [upsert]
  | cons c rest ih =>
    by_cases same : c.type = new.type
    · simp [upsert,same]
    · simpa [upsert,same] using ih

namespace RuleStatus

/-! ## Many records -/

theorem recordAll_cons (s : RuleStatus) (report : Report) (reports : List Report) :
    s.recordAll (report :: reports) =
      (s.record report.execution report.outcome report.generation? report.now).recordAll reports := rfl

theorem recordAll_concat (s : RuleStatus) (reports : List Report) (report : Report) :
    s.recordAll (reports ++ [report]) =
      (s.recordAll reports).record report.execution report.outcome report.generation? report.now := by
  simp [recordAll,List.foldl_append]

theorem executions_recordAll (s : RuleStatus) (reports : List Report) :
    s.executions <+: (s.recordAll reports).executions := by
  induction reports generalizing s with
  | nil => exact List.prefix_rfl
  | cons report reports ih =>
    rw [recordAll_cons]
    refine List.IsPrefix.trans ?_ (ih _)
    rw [executions_record]
    split
    · exact List.prefix_rfl
    · exact List.prefix_append _ _

/-- The keys are those before and those that are recorded, in the order in which they first appear. -/
theorem keys_recordAll {s : RuleStatus} (distinct : s.keys.Nodup) (reports : List Report) :
    (s.recordAll reports).keys = (s.keys ++ reports.map (·.execution.key)).eraseDups := by
  induction reports using List.reverseRecOn with
  | nil => simp [recordAll,eraseDups_of_nodup distinct]
  | append_singleton reports report ih =>
    rw [recordAll_concat,keys_record,ih,List.map_append,List.map_singleton,← List.append_assoc,
      eraseDups_concat]
    simp only [List.mem_eraseDups]

theorem nodup_keys_recordAll {s : RuleStatus} (distinct : s.keys.Nodup) (reports : List Report) :
    (s.recordAll reports).keys.Nodup := by
  induction reports generalizing s with
  | nil => exact distinct
  | cons report reports ih =>
    refine ih ?_
    rw [keys_record]
    split
    · exact distinct
    next new => exact (List.perm_append_singleton _ _).nodup_iff.mpr (List.nodup_cons.mpr ⟨new,distinct⟩)

/-- What a ledger holds for a key is what was there first, or else what was recorded first. -/
theorem first?_recordAll (s : RuleStatus) (reports : List Report) (key : Execution.Key) :
    first? (s.recordAll reports).executions key = first? (s.executions ++ reports.map (·.execution)) key := by
  induction reports using List.reverseRecOn with
  | nil => simp [recordAll]
  | append_singleton reports report ih =>
    rw [recordAll_concat,first?_record,List.map_append,List.map_singleton,← List.append_assoc]
    simp only [first?] at ih ⊢
    rw [List.find?_append,List.find?_append,ih]

theorem conditions_recordAll (s : RuleStatus) (reports : List Report) :
    (s.recordAll reports).conditions.filter (·.type ≠ "Ready") = s.conditions.filter (·.type ≠ "Ready") := by
  induction reports using List.reverseRecOn with
  | nil => rfl
  | append_singleton reports report ih =>
    have touched := Condition.filter_upsert (s.recordAll reports).conditions
      (readyFor report.outcome report.generation? report.now) report.now
    rw [readyFor_type] at touched
    rw [recordAll_concat,← ih]
    exact touched

theorem readies_recordAll {s : RuleStatus} (few : s.conditions.countP (·.type = "Ready") ≤ 1) {reports : List Report}
    (some_report : reports ≠ []) : (s.recordAll reports).conditions.countP (·.type = "Ready") = 1 := by
  induction reports using List.reverseRecOn with
  | nil => exact absurd rfl some_report
  | append_singleton reports report ih =>
    rw [recordAll_concat]
    refine record_alone _ _ _ _ _ ?_
    by_cases first : reports = []
    · rw [first]
      exact few
    · exact Nat.le_of_eq (ih first)

/-- Take a status whose ledger has no two entries with one key, and any records. The ledger that was there is how the
later one begins, and keys stay distinct. A ledger holds for each key what was there or was recorded first, and there
is an entry exactly for the keys that were there or were recorded. The last error and the ready condition say how the
dispatch of the last record ended, and conditions of other types stay as they are. -/
theorem recordAll_history {s : RuleStatus} (distinct : s.keys.Nodup) (reports : List Report) :
    s.executions <+: (s.recordAll reports).executions ∧
      (s.recordAll reports).keys.Nodup ∧
      (s.recordAll reports).keys = (s.keys ++ reports.map (·.execution.key)).eraseDups ∧
      (∀ key, first? (s.recordAll reports).executions key =
        first? (s.executions ++ reports.map (·.execution)) key) ∧
      (∀ object event, (s.recordAll reports).hasExecuted object event = true ↔
        s.hasExecuted object event = true ∨
          ∃ report ∈ reports, report.execution.object = object ∧ report.execution.event = event) ∧
      (∀ last, reports.getLast? = some last →
        ∃ c, (s.recordAll reports).ready? = some c ∧ c.Agrees (s.recordAll reports).lastError? last.outcome) ∧
      (s.conditions.countP (·.type = "Ready") ≤ 1 → reports ≠ [] →
        (s.recordAll reports).conditions.countP (·.type = "Ready") = 1) ∧
      (s.recordAll reports).conditions.filter (·.type ≠ "Ready") = s.conditions.filter (·.type ≠ "Ready") := by
  refine ⟨s.executions_recordAll reports,nodup_keys_recordAll distinct reports,keys_recordAll distinct reports,
    s.first?_recordAll reports,fun object event => ?_,fun last ends => ?_,
    fun few some_report => readies_recordAll few some_report,s.conditions_recordAll reports⟩
  · rw [hasExecuted_iff,hasExecuted_iff,keys_recordAll distinct,List.mem_eraseDups,List.mem_append,List.mem_map]
    simp [Execution.key]
  · obtain ⟨earlier,rfl⟩ := List.getLast?_eq_some_iff.mp ends
    rw [recordAll_concat]
    exact agrees_record _ last

end RuleStatus

namespace Sample
open RuleStatus

/-- A status with one entry, and a condition that no dispatch is about. -/
def seasoned : RuleStatus := { executions := [⟨"uid-a", .create, second 5⟩], conditions := [inOrder] }

/-- A creation that is recorded again, an update whose action fails, and the same update once more, which goes well. -/
def accounts : List RuleStatus.Report :=
  [⟨⟨"uid-a", .create, second 10⟩, .ok (), some 1, second 10⟩,
    ⟨⟨"uid-a", .update, second 20⟩, .error (.status 500 ""), some 1, second 20⟩,
    ⟨⟨"uid-a", .update, second 30⟩, .ok (), some 2, second 30⟩]

/-- The update keeps the time of its first record, though its last one tells how it ended. -/
theorem recordAll_history_of_retried :
    seasoned.keys.Nodup ∧
      (seasoned.recordAll accounts).executions =
        [⟨"uid-a",.create,second 5⟩,⟨"uid-a",.update,second 20⟩] ∧
      first? (seasoned.recordAll accounts).executions ⟨"uid-a",.update⟩ = some ⟨"uid-a",.update,second 20⟩ ∧
      (seasoned.recordAll accounts).lastError? = none ∧
      (seasoned.recordAll accounts).conditions.countP (·.type = "Ready") = 1 ∧
      (seasoned.recordAll accounts).conditions.filter (·.type ≠ "Ready") = [inOrder] := by
  have distinct : seasoned.keys.Nodup := by decide
  obtain ⟨_,_,_,first,_,last,single,others⟩ := recordAll_history distinct accounts
  obtain ⟨c,_,agrees⟩ := last ⟨⟨"uid-a",.update,second 30⟩,.ok (),some 2,second 30⟩ rfl
  have quiet : (seasoned.recordAll accounts).lastError? = none := by
    generalize (seasoned.recordAll accounts).lastError? = error at agrees
    cases agrees
    rfl
  exact ⟨distinct,by decide,first ⟨"uid-a",.update⟩,quiet,single (by decide) (by decide),others⟩

end Sample
end Callout
