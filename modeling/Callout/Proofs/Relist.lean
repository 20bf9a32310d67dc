import Callout.Proofs.Replay

/-!
What a list of all objects does to a tracker (`Tracker.push_restarted`). Each listed object is told as it differs from
what was known of it before its place in the list, and each tracked object that the list does not have is told to be
deleted, as it was last known. Afterwards exactly the listed objects are tracked, each as it was listed last, so that
the same list tells nothing new.
-/
namespace Callout

theorem latest_cons (object : Snapshot) (seen : List Snapshot) (id : String) :
    latest (object :: seen) id = (latest seen id).or (if id = object.identity then some object else none) := by
  unfold latest
  by_cases same : object.identity = id
  · rw [List.filter_cons_of_pos (by simpa using same),List.getLast?_cons]
    cases (seen.filter (·.identity = id)).getLast? <;> simp [same]
  · rw [List.filter_cons_of_neg (by simpa using same)]
    simp [Ne.symm same]

theorem latest_eq_none_iff {seen : List Snapshot} {id : String} :
    latest seen id = none ↔ id ∉ seen.map Snapshot.identity := by
  simp [latest]

/-- When the objects of a list are distinct, each of them was shown last as it is listed. -/
theorem latest_of_nodup {list : List Snapshot} (distinct : (list.map Snapshot.identity).Nodup) {object : Snapshot}
    (member : object ∈ list) : latest list object.identity = some object := by
  induction list with
  | nil => cases member
  | cons first rest ih =>
    obtain ⟨alone,distinct⟩ := List.nodup_cons.mp distinct
    rw [latest_cons]
    rcases List.mem_cons.mp member with rfl | later
    · rw [latest_eq_none_iff.mpr alone,if_pos rfl,Option.none_or]
    · rw [ih distinct later,Option.some_or]

/-- The events that tell that an object is created. -/
def creations (events : List Event) (id : String) : List Event :=
  events.filter fun e => e.kind = .create ∧ e.object.identity = id

namespace Tracker

/-- What was known of an object before a place of a list: its last snapshot in front of it, or the tracked one. -/
def knownBefore (t : Tracker) (earlier : List Snapshot) (id : String) : Option Snapshot :=
  (latest earlier id).or (t.known.get? id)

/-- What an object that exists is told as, given what was known of it. -/
def sighting (t : Tracker) (object : Snapshot) : Option Snapshot → Option Event
  | none => some (t.live .create object)
  | some previous =>
    if previous.version? = none ∨ previous.version? ≠ object.version? then some (t.live .update object) else none

/-- What the objects of a list are told as, one after the other. -/
def sightings (t : Tracker) (list : List Snapshot) : List Event :=
  list.zipIdx.filterMap fun entry => t.sighting entry.1 (t.knownBefore (list.take entry.2) entry.1.identity)

/-- The entries of the tracked objects that a list does not have. -/
def missing (t : Tracker) (list : List Snapshot) : List (String × Snapshot) :=
  t.known.entries.filter fun entry => entry.1 ∉ list.map Snapshot.identity

/-! ## The objects of a list -/

theorem observe_snd (t : Tracker) (object : Snapshot) :
    (t.observe object).2 = t.sighting object (t.known.get? object.identity) := by
  cases tracked : t.known.get? object.identity with
  | none => exact observe_of_untracked tracked
  | some previous =>
    rw [observe_of_tracked tracked,sighting]
    by_cases changed : previous.version? = none ∨ previous.version? ≠ object.version?
    · rw [if_pos changed,if_neg]
      rintro ⟨versioned,same⟩
      rcases changed with none | other
      · simp [none] at versioned
      · exact other same
    · rw [if_neg changed,if_pos]
      obtain ⟨versioned,same⟩ := not_or.mp changed
      exact ⟨Option.isSome_iff_ne_none.mpr versioned,Decidable.not_not.mp same⟩

/-- After an object is shown, it is known as it was shown. -/
theorem knownBefore_observe (t : Tracker) (object : Snapshot) (earlier : List Snapshot) (id : String) :
    (t.observe object).1.knownBefore earlier id = t.knownBefore (object :: earlier) id := by
  rw [knownBefore,knownBefore,latest_cons,observe_fst,Dict.get?_insert,Option.or_assoc]
  split <;> rfl

theorem sighting_observe (t : Tracker) (object other : Snapshot) (known? : Option Snapshot) :
    (t.observe object).1.sighting other known? = t.sighting other known? := by
  rw [observe_fst]
  rfl

theorem sightings_cons (t : Tracker) (object : Snapshot) (rest : List Snapshot) :
    t.sightings (object :: rest) = (t.observe object).2.toList ++ (t.observe object).1.sightings rest := by
  simp only [sightings,List.zipIdx_cons',List.filterMap_cons,List.filterMap_map,observe_snd]
  have later : (fun entry : Snapshot × Nat => t.sighting entry.1
        (t.knownBefore ((object :: rest).take entry.2) entry.1.identity)) ∘ Prod.map id (· + 1) =
      fun entry => (t.observe object).1.sighting entry.1
        ((t.observe object).1.knownBefore (rest.take entry.2) entry.1.identity) := by
    funext entry
    simp [sighting_observe,knownBefore_observe]
  rw [later]
  have first : t.knownBefore ((object :: rest).take 0) object.identity = t.known.get? object.identity := rfl
  rw [first]
  cases t.sighting object (t.known.get? object.identity) <;> rfl

theorem observeAll_spec (t : Tracker) (list : List Snapshot) :
    (t.observeAll list).1.type = t.type ∧
      (∀ id, (t.observeAll list).1.known.get? id = t.knownBefore list id) ∧
      (t.observeAll list).2 = t.sightings list := by
  induction list generalizing t with
  | nil => exact ⟨rfl,fun id => rfl,rfl⟩
  | cons object rest ih =>
    obtain ⟨type,known,events⟩ := ih (t.observe object).1
    simp only [observeAll]
    refine ⟨?_,fun id => ?_,?_⟩
    · rw [type,observe_fst]
    · rw [known,knownBefore_observe]
    · rw [events,sightings_cons]

/-! ## The objects that a list does not have -/

theorem nodup_entries {α : Type} (d : Dict α) : d.entries.Nodup :=
  d.ordered.imp fun less same => Std.ne_of_lt less (congrArg Prod.fst same)

theorem get?_eraseAll {α : Type} (gone : List (String × α)) (d : Dict α) (id : String) :
    (gone.foldl (fun d entry => d.erase entry.1) d).get? id = if id ∈ gone.map (·.1) then none else d.get? id := by
  induction gone generalizing d with
  | nil => rfl
  | cons entry rest ih =>
    rw [List.foldl_cons,ih,Dict.get?_erase]
    by_cases here : id = entry.1
    · simp [here]
    · have others : id ∈ (entry :: rest).map (·.1) ↔ id ∈ rest.map (·.1) := by
        rw [List.map_cons,List.mem_cons,or_iff_right here]
      simp only [others,here,if_false]

/-- What is tracked and not listed after the objects of a list were shown was so before. -/
theorem missing_observeAll (t : Tracker) (list : List Snapshot) :
    ((t.observeAll list).1.missing list).Perm (t.missing list) := by
  refine (List.perm_ext_iff_of_nodup ((nodup_entries _).filter _) ((nodup_entries _).filter _)).mpr ?_
  rintro ⟨id,last⟩
  simp only [List.mem_filter,decide_eq_true_eq,← Dict.get?_eq_some_iff]
  refine and_congr_left fun unlisted => ?_
  rw [(t.observeAll_spec list).2.1,knownBefore,latest_eq_none_iff.mpr unlisted,Option.none_or]

theorem relist_spec (t : Tracker) (list : List Snapshot) :
    (t.relist list).1.type = t.type ∧ (∀ id, (t.relist list).1.known.get? id = latest list id) ∧
      (t.relist list).2 =
        t.sightings list ++ ((t.observeAll list).1.missing list).map fun entry => t.tombstone entry.2 := by
  obtain ⟨type,known,events⟩ := t.observeAll_spec list
  have gone : (t.observeAll list).1.known.entries.filter (fun entry => !(list.map Snapshot.identity).contains entry.1) =
      (t.observeAll list).1.missing list := by
    simp only [missing,List.contains_eq_mem,decide_not]
  simp only [relist,gone,events]
  refine ⟨type,fun id => ?_,trivial⟩
  rw [get?_eraseAll]
  split
  · rename_i absent
    obtain ⟨entry,member,rfl⟩ := List.mem_map.mp absent
    exact (latest_eq_none_iff.mpr (by simpa using (List.mem_filter.mp member).2)).symm
  · rename_i kept
    rw [known,knownBefore]
    cases listed : latest list id with
    | some object => rfl
    | none =>
      rw [Option.none_or]
      cases tracked : t.known.get? id with
      | none => rfl
      | some last =>
        -- what is tracked and not listed is gone
        refine (kept (List.mem_map.mpr ⟨(id,last),List.mem_filter.mpr ⟨?_,?_⟩,rfl⟩)).elim
        · rw [← Dict.get?_eq_some_iff,known,knownBefore,listed,tracked]
          rfl
        · simpa using latest_eq_none_iff.mp listed

/-! ## What is told -/

theorem contains_observe (t : Tracker) (object : Snapshot) (id : String) :
    (t.observe object).1.known.contains id = (decide (id = object.identity) || t.known.contains id) := by
  rw [observe_fst,Dict.contains,Dict.contains,Dict.get?_insert]
  by_cases here : id = object.identity <;> simp [here]

/-- An object is told to be created once, as it is listed first, unless it is tracked. -/
theorem creations_sightings (t : Tracker) (list : List Snapshot) (id : String) :
    creations (t.sightings list) id =
      if t.known.contains id then [] else ((list.find? (·.identity = id)).map (t.live .create)).toList := by
  induction list generalizing t with
  | nil => split <;> rfl
  | cons object rest ih =>
    have live : (t.observe object).1.live = t.live := by
      rw [observe_fst]
      rfl
    rw [sightings_cons,creations,List.filter_append,← creations,← creations,ih,contains_observe,live]
    by_cases here : object.identity = id
    · subst here
      cases tracked : t.known.get? object.identity with
      | none => simp [observe_of_untracked tracked,Dict.contains,tracked,creations,Tracker.live]
      | some previous =>
        rw [observe_of_tracked tracked]
        split <;> simp [Dict.contains,tracked,creations,Tracker.live]
    · have none : creations (t.observe object).2.toList id = [] := by
        rw [observe_snd]
        refine List.filter_eq_nil_iff.mpr fun e member => ?_
        have shown : e.object = object := by
          unfold sighting at member
          split at member
          · simp only [Option.toList_some,List.mem_singleton] at member
            rw [member]
            rfl
          · split at member
            · simp only [Option.toList_some,List.mem_singleton] at member
              rw [member]
              rfl
            · cases member
        simp [shown,here]
      rw [none]
      simp [here,Ne.symm here]

/-- A list that is given again right away tells nothing, if its objects are distinct and have versions. -/
theorem sightings_again {t : Tracker} {list : List Snapshot} (tracked : ∀ id, t.known.get? id = latest list id)
    (distinct : (list.map Snapshot.identity).Nodup) (versioned : ∀ object ∈ list, object.version?.isSome) :
    t.sightings list = [] := by
  refine List.filterMap_eq_nil_iff.mpr fun entry member => ?_
  obtain ⟨object,place⟩ := entry
  have listed : list[place]? = some object := List.mk_mem_zipIdx_iff_getElem?.mp member
  have inside : object ∈ list := List.mem_of_getElem? listed
  have new : object.identity ∉ (list.take place).map Snapshot.identity := by
    intro earlier
    obtain ⟨i,found⟩ := List.getElem?_of_mem earlier
    rw [List.map_take,List.getElem?_take] at found
    split at found
    · rename_i before
      have same : (list.map Snapshot.identity)[place]? = some object.identity := by simp [listed]
      have held := List.getElem?_eq_some_iff.mp same
      have other := List.getElem?_eq_some_iff.mp found
      have equal := (List.getElem_inj distinct).mp (other.2.trans held.2.symm)
      omega
    · cases found
  dsimp only
  rw [knownBefore,latest_eq_none_iff.mpr new,Option.none_or,tracked,latest_of_nodup distinct inside,sighting,if_neg]
  rintro (none | other)
  · have some := versioned object inside
    rw [none] at some
    cases some
  · exact other rfl

theorem missing_eq_nil {t : Tracker} {list : List Snapshot} (tracked : ∀ id, t.known.get? id = latest list id) :
    t.missing list = [] := by
  refine List.filter_eq_nil_iff.mpr fun entry member => ?_
  obtain ⟨id,last⟩ := entry
  rw [← Dict.get?_eq_some_iff,tracked] at member
  simp only [decide_eq_true_eq]
  intro unlisted
  rw [latest_eq_none_iff.mpr unlisted] at member
  cases member

end Tracker

/-- After a list of all objects, exactly the listed objects are tracked, each as it was listed last. Each listed object
is told as it differs from what was known of it before: to be created once, where it is listed first, if it was not
tracked; to be updated if it had no version or another one. Then each object that was tracked and is not listed is told
to be deleted, as it was last known. The same list tells nothing if it is given again right away, its objects are
distinct and all have versions. -/
theorem Tracker.push_restarted (t : Tracker) (objects : List Json) :
    (∀ id, (t.push (.restarted objects)).1.known.get? id = latest (Notification.restarted objects).shown id) ∧
      (∃ gone : List (String × Snapshot), gone.Perm (t.missing (Notification.restarted objects).shown) ∧
        (t.push (.restarted objects)).2 =
          t.sightings (Notification.restarted objects).shown ++ gone.map fun entry => t.tombstone entry.2) ∧
      (∀ id, creations (t.push (.restarted objects)).2 id =
        if t.known.contains id then []
        else (((Notification.restarted objects).shown.find? (·.identity = id)).map (t.live .create)).toList) ∧
      (((Notification.restarted objects).shown.map Snapshot.identity).Nodup →
        (∀ object ∈ (Notification.restarted objects).shown, object.version?.isSome) →
          ((t.push (.restarted objects)).1.push (.restarted objects)).2 = []) := by
  simp only [push,Notification.shown]
  generalize objects.filterMap Snapshot.ofRaw = list
  obtain ⟨type,tracked,told⟩ := t.relist_spec list
  refine ⟨tracked,⟨_,t.missing_observeAll list,told⟩,fun id => ?_,fun distinct versioned => ?_⟩
  · have deletions : ∀ gone : List (String × Snapshot),
        creations (gone.map fun entry => t.tombstone entry.2) id = [] := by
      intro gone
      refine List.filter_eq_nil_iff.mpr fun e member => ?_
      obtain ⟨entry,_,rfl⟩ := List.mem_map.mp member
      simp [tombstone]
    rw [told,creations,List.filter_append,← creations,← creations,deletions,List.append_nil,creations_sightings]
  · obtain ⟨_,_,again⟩ := (t.relist list).1.relist_spec list
    have none := (missing_observeAll (t.relist list).1 list).trans (.of_eq (missing_eq_nil tracked))
    rw [again,sightings_again tracked distinct versioned,none.eq_nil]
    rfl

namespace Sample

/-- Two config maps were created. -/
def tracking : Tracker :=
  ((Tracker.new ⟨"", "v1", "ConfigMap"⟩).follow
    [.applied (configMap "a" "u1" "1"), .applied (configMap "b" "u2" "1")]).1

/-- One of them changed, one is missing, and there is a new one. -/
def listing : List Json := [configMap "a" "u1" "2", configMap "c" "u3" "1"]

theorem push_restarted_of_listing :
    (((tracking.push (.restarted listing)).2.map fun e => (e.kind, e.lastKnown, e.object.identity)) =
        [(.update, false, "u1"), (.create, false, "u3"), (.delete, true, "u2")]) ∧
      ((tracking.push (.restarted listing)).1.push (.restarted listing)).2 = [] := by
  have distinct : ((Notification.restarted listing).shown.map Snapshot.identity).Nodup := by decide
  have versioned : ∀ object ∈ (Notification.restarted listing).shown, object.version?.isSome := by decide
  exact ⟨by decide,(Tracker.push_restarted tracking listing).2.2.2 distinct versioned⟩

end Sample
end Callout
