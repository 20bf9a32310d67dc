import Callout.Proofs.Basic
import Callout.Rule.Condition
import Mathlib.Data.List.DropRight

/-!
Conditions over their whole history. A condition that is set takes the place of the one of its type and touches no
other (`held?_upsert_self`, `held?_upsert_of_ne`), so what is held of a type follows from what was set of it
(`held?_setAll`). Its status dates from the first of the reports at the end that say it, or from before them all
(`settle_dates`).
-/
namespace Callout
namespace Condition

/-- A condition that is set, and the time at which it is. -/
structure Report where
  condition : Condition
  now : Timestamp
deriving DecidableEq, Repr

/-- The conditions after some reports, one after the other. -/
def setAll (held : List Condition) (reports : List Report) : List Condition :=
  reports.foldl (fun held report => upsert held report.condition report.now) held

/-- The condition of a type. -/
def held? (conditions : List Condition) (type : String) : Option Condition := conditions.find? (·.type = type)

namespace Report

/-- Whether a report says that a status holds. -/
def tells (status : ConditionStatus) (report : Report) : Bool := report.condition.status = status

/-- The reports on a type. -/
def about (type : String) (reports : List Report) : List Report := reports.filter (·.condition.type = type)

/-- A report whose condition brings a time of its own. -/
def dated (report : Report) (since : Timestamp) : Report :=
  { report with condition := { report.condition with since } }

/-- The condition that a report leaves in the place of another one. -/
def settled (old? : Option Condition) (report : Report) : Condition :=
  { report.condition with
    since := match old? with
      | some old => if old.status = report.condition.status then old.since else report.now
      | none => report.now }

/-- What reports on one type leave in the place of its condition. -/
def settle (old? : Option Condition) (reports : List Report) : Option Condition :=
  reports.foldl (fun old? report => some (report.settled old?)) old?

/-- The time from which a status holds that the last of some reports says: the one of the first report of the longest
run at their end that says it, or, if all of them say it and the condition before them did, the time of that one. -/
def dates? (old? : Option Condition) (reports : List Report) (status : ConditionStatus) : Option Timestamp :=
  match old?.filter (fun old => old.status = status ∧ reports.all (tells status)) with
  | some old => some old.since
  | none => (reports.rtakeWhile (tells status)).head?.map (·.now)

end Report

/-! ## One report -/

section
variable (held : List Condition) (new : Condition) (now : Timestamp)

theorem types_upsert :
    (upsert held new now).map (·.type) =
      if new.type ∈ held.map (·.type) then held.map (·.type) else held.map (·.type) ++ [new.type] := by
  induction held with
  | nil => simp [upsert]
  | cons c rest ih =>
    by_cases same : c.type = new.type
    · simp [upsert,same]
    · have other : ¬ new.type = c.type := fun equal => same equal.symm
      simp only [upsert,same,if_false,List.map_cons,ih,List.mem_cons,other,false_or]
      split <;> rfl

theorem held?_upsert_self :
    held? (upsert held new now) new.type = some (Report.settled (held? held new.type) ⟨new,now⟩) := by
  induction held with
  | nil => simp [upsert,held?,Report.settled]
  | cons c rest ih =>
    by_cases same : c.type = new.type
    · simp [upsert,held?,Report.settled,same]
    · simpa [upsert,held?,same] using ih

theorem held?_upsert_of_ne {type : String} (other : new.type ≠ type) :
    held? (upsert held new now) type = held? held type := by
  induction held with
  | nil => simp [upsert,held?,other]
  | cons c rest ih =>
    by_cases same : c.type = new.type
    · have unlike : c.type ≠ type := fun equal => other (same ▸ equal)
      simp [upsert,held?,same,other]
    · simp only [upsert,same,if_false,held?,List.find?_cons]
      rw [← held?,← held?,ih]

/-- The time that a new condition brings is not kept. -/
theorem upsert_dated (since : Timestamp) : upsert held { new with since } now = upsert held new now := by
  induction held with
  | nil => rfl
  | cons c rest ih => simp only [upsert,ih]

end

/-! ## Many reports -/

@[simp] theorem setAll_nil (held : List Condition) : setAll held [] = held := rfl

theorem setAll_cons (held : List Condition) (report : Report) (reports : List Report) :
    setAll held (report :: reports) = setAll (upsert held report.condition report.now) reports := rfl

theorem setAll_concat (held : List Condition) (reports : List Report) (report : Report) :
    setAll held (reports ++ [report]) = upsert (setAll held reports) report.condition report.now := by
  simp [setAll,List.foldl_append]

/-- The types that are held are those before and those that are set, in the order in which they first appear. -/
theorem types_setAll {held : List Condition} (distinct : (held.map (·.type)).Nodup) (reports : List Report) :
    (setAll held reports).map (·.type) =
      (held.map (·.type) ++ reports.map (·.condition.type)).eraseDups := by
  induction reports using List.reverseRecOn with
  | nil => simp [eraseDups_of_nodup distinct]
  | append_singleton reports report ih =>
    rw [setAll_concat,types_upsert,ih,List.map_append,List.map_singleton,← List.append_assoc,eraseDups_concat]
    simp only [List.mem_eraseDups]

theorem nodup_types_setAll {held : List Condition} (distinct : (held.map (·.type)).Nodup) (reports : List Report) :
    ((setAll held reports).map (·.type)).Nodup := by
  induction reports generalizing held with
  | nil => exact distinct
  | cons report reports ih =>
    refine ih ?_
    rw [types_upsert]
    split
    · exact distinct
    next new => exact List.nodup_append.mpr ⟨distinct,by simp,by simpa using new⟩

/-- What is held of a type follows from what was set of it. -/
theorem held?_setAll (held : List Condition) (reports : List Report) (type : String) :
    held? (setAll held reports) type = Report.settle (held? held type) (Report.about type reports) := by
  induction reports generalizing held with
  | nil => rfl
  | cons report reports ih =>
    rw [setAll_cons,ih]
    by_cases same : report.condition.type = type
    · subst same
      simp [held?_upsert_self,Report.about,Report.settle]
    · simp [held?_upsert_of_ne _ _ _ same,Report.about,same]

theorem setAll_dated (held : List Condition) (reports : List Report) (times : Report → Timestamp) :
    setAll held (reports.map fun report => report.dated (times report)) = setAll held reports := by
  induction reports generalizing held with
  | nil => rfl
  | cons report reports ih =>
    rw [List.map_cons,setAll_cons,setAll_cons,ih]
    exact congrArg (setAll · reports) (upsert_dated held report.condition report.now (times report))

namespace Report

theorem settle_concat (old? : Option Condition) (reports : List Report) (last : Report) :
    settle old? (reports ++ [last]) = some (last.settled (settle old? reports)) := by
  simp [settle,List.foldl_append]

/-- A status that is said once more dates from the same time. -/
theorem dates?_again (old? : Option Condition) {reports : List Report} {status : ConditionStatus}
    (run : reports.rtakeWhile (tells status) ≠ []) {again : Report} (same : again.tells status) :
    dates? old? (reports ++ [again]) status = dates? old? reports status := by
  have longer := List.rtakeWhile_concat_pos (tells status) reports again same
  simp only [dates?,longer,List.head?_append_of_ne_nil _ run,List.all_append,List.all_cons,List.all_nil,same,
    Bool.and_true]

/-- A status that was not said before dates from now. -/
theorem dates?_anew (old? : Option Condition) {reports : List Report} {status : ConditionStatus}
    (before : reports ≠ []) (other : reports.rtakeWhile (tells status) = []) {new : Report} (here : new.tells status) :
    dates? old? (reports ++ [new]) status = some new.now := by
  have run : (reports ++ [new]).rtakeWhile (tells status) = [new] := by
    rw [List.rtakeWhile_concat_pos (tells status) reports new here,other,List.nil_append]
  have broken : reports.all (tells status) = false := by
    refine Bool.not_eq_true _ ▸ fun all => before ?_
    rw [← other,List.rtakeWhile_eq_self_iff.mpr (List.all_eq_true.mp all)]
  simp [dates?,run,broken]

/-- Reports leave what the last of them says, and the time from which its status holds. -/
theorem settle_dates (old? : Option Condition) (reports : List Report) (last : Report) :
    ∃ since, settle old? (reports ++ [last]) = some { last.condition with since } ∧
      dates? old? (reports ++ [last]) last.condition.status = some since := by
  -- Each report sees only what the one before it left; the time of that one is where the run that it ends began.
  induction reports using List.reverseRecOn generalizing last with
  | nil =>
    refine ⟨_,settle_concat old? [] last,?_⟩
    have run : [last].rtakeWhile (tells last.condition.status) = [last] :=
      List.rtakeWhile_eq_self_iff.mpr (by simp [tells])
    cases old? with
    | none => simp [dates?,settle,run]
    | some old =>
      by_cases same : old.status = last.condition.status <;>
        simp [dates?,settle,Option.filter_some,run,tells,same]
  | append_singleton reports before ih =>
    obtain ⟨since,left,dates⟩ := ih before
    refine ⟨_,settle_concat old? (reports ++ [before]) last,?_⟩
    rw [left]
    have here : last.tells last.condition.status := by simp [tells]
    by_cases same : before.condition.status = last.condition.status
    · have run : (reports ++ [before]).rtakeWhile (tells last.condition.status) ≠ [] := by
        rw [List.rtakeWhile_concat_pos _ _ _ (by simpa [tells] using same)]
        simp
      rw [same] at dates
      rw [dates?_again old? run here,dates]
      simp [same]
    · have other : (reports ++ [before]).rtakeWhile (tells last.condition.status) = [] :=
        List.rtakeWhile_concat_neg _ _ _ (by simpa [tells] using same)
      rw [dates?_anew old? (by simp) other here]
      simp [same]

end Report

/-- Take conditions of distinct types and any reports. The types stay distinct and in the order in which they first
appear. What is held of a type is what the last report on it said, with the time from which its status holds; without
a report on the type it is what was held before. No time that a report brings along is kept. -/
theorem setAll_history {held : List Condition} (distinct : (held.map (·.type)).Nodup) (reports : List Report) :
    ((setAll held reports).map (·.type)).Nodup ∧
      (setAll held reports).map (·.type) = (held.map (·.type) ++ reports.map (·.condition.type)).eraseDups ∧
      (∀ type, Report.about type reports = [] → held? (setAll held reports) type = held? held type) ∧
      (∀ type last, (Report.about type reports).getLast? = some last →
        ∃ since, held? (setAll held reports) type = some { last.condition with since } ∧
          Report.dates? (held? held type) (Report.about type reports) last.condition.status = some since) ∧
      ∀ times : Report → Timestamp,
        setAll held (reports.map fun report => report.dated (times report)) = setAll held reports := by
  refine ⟨nodup_types_setAll distinct reports,types_setAll distinct reports,fun type none => ?_,
    fun type last ends => ?_,setAll_dated held reports⟩
  · rw [held?_setAll,none]
    rfl
  · obtain ⟨earlier,split⟩ := List.getLast?_eq_some_iff.mp ends
    obtain ⟨since,left,dates⟩ := Report.settle_dates (held? held type) earlier last
    exact ⟨since,by rw [held?_setAll,split,left],by rw [split,dates]⟩

end Condition

namespace Sample
open Condition

/-- A second of the first of January 2024. -/
def second (n : Nat) : Timestamp := ⟨19723, n, 0⟩

/-- A rule was in order from the first second on. -/
def inOrder : Condition :=
  { type := "Synced", status := .holds, reason := "", message := "", generation? := none, since := second 1 }

/-- A report on how a dispatch ended, that brings no time worth keeping. -/
def outcomeAt (n : Nat) (ok : Bool) (reason : String) : Condition.Report :=
  ⟨.ready ok reason reason (some 1) (second 0), second n⟩

/-- Two failures, with a report on another condition between them, and two successes. -/
def reports : List Condition.Report :=
  [outcomeAt 10 false "ActionFailed", ⟨{ inOrder with reason := "Resynced" }, second 15⟩,
    outcomeAt 20 false "InvalidConfig", outcomeAt 30 true "ActionSucceeded", outcomeAt 40 true "ActionSucceeded"]

/-- The last status dates from the first success; the condition that was reported in between keeps its time. -/
theorem setAll_history_of_recovery :
    ([inOrder].map (·.type)).Nodup ∧ (setAll [inOrder] reports).map (·.type) = ["Synced","Ready"] ∧
      held? (setAll [inOrder] reports) "Ready" =
        some (.ready true "ActionSucceeded" "ActionSucceeded" (some 1) (second 30)) ∧
      held? (setAll [inOrder] reports) "Synced" = some { inOrder with reason := "Resynced" } := by
  have distinct : ([inOrder].map (·.type)).Nodup := by decide
  obtain ⟨_,types,_,last,_⟩ := setAll_history distinct reports
  obtain ⟨late,ready,flipped⟩ := last "Ready" (outcomeAt 40 true "ActionSucceeded") rfl
  obtain ⟨early,synced,kept⟩ := last "Synced" ⟨{ inOrder with reason := "Resynced" },second 15⟩ rfl
  obtain rfl : second 30 = late := Option.some.inj flipped
  obtain rfl : second 1 = early := Option.some.inj kept
  exact ⟨distinct,types,ready,synced⟩

end Sample
end Callout
