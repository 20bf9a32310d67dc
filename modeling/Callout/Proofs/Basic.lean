/-!
Facts about lists and results, whatever they are of. A list is looked at around one of its items
(`mem_middle`, `forall_middle`), an item is named by what tells it from all others (`eq_of_nodup_map`), and steps that
can fail come to a result just if each of them does (`except_bind_eq_ok_iff`, `mapM_eq_some_iff`).
-/
namespace Callout

/-! ## One item among others -/

section
variable {α : Type} {before after : List α} {item other : α}

theorem mem_middle : other ∈ before ++ item :: after ↔ other = item ∨ other ∈ before ++ after := by
  rw [List.perm_middle.mem_iff,List.mem_cons]

theorem mem_of_place {all : List α} (place : all = before ++ item :: after) : item ∈ all := by
  rw [place]
  exact mem_middle.mpr (.inl rfl)

theorem mem_beside {all : List α} (place : all = before ++ item :: after) (member : other ∈ before ++ after) :
    other ∈ all := by
  rw [place]
  exact mem_middle.mpr (.inr member)

theorem forall_middle {holds : α → Prop} :
    (∀ x ∈ before ++ item :: after, holds x) ↔ holds item ∧ ∀ x ∈ before ++ after, holds x := by
  simp only [mem_middle,forall_eq_or_imp]

/-- The only one of a kind has nothing beside it. -/
theorem eq_nil_of_single (single : (before ++ item :: after).length ≤ 1) : before = [] ∧ after = [] := by
  simp only [List.length_append,List.length_cons] at single
  exact ⟨List.eq_nil_of_length_eq_zero (by omega),List.eq_nil_of_length_eq_zero (by omega)⟩

theorem ne_of_nodup_middle {β : Type} {f : α → β} (distinct : ((before ++ item :: after).map f).Nodup)
    (member : other ∈ before ++ after) : f other ≠ f item := by
  intro same
  rw [(List.perm_middle.map f).nodup_iff,List.map_cons,List.nodup_cons] at distinct
  exact distinct.1 (List.mem_map.mpr ⟨other,member,same⟩)

theorem eq_of_nodup_map {β : Type} {f : α → β} {all : List α} (distinct : (all.map f).Nodup) (member : item ∈ all)
    (inside : other ∈ all) (same : f item = f other) : item = other := by
  obtain ⟨before,after,rfl⟩ := List.append_of_mem member
  rcases mem_middle.mp inside with rfl | beside
  · rfl
  · exact (ne_of_nodup_middle distinct beside same.symm).elim

end

/-! ## Lists -/

section
variable {α β : Type}

theorem eraseDups_of_nodup [DecidableEq α] {all : List α} (distinct : all.Nodup) : all.eraseDups = all := by
  induction all with
  | nil => rfl
  | cons a rest ih =>
    obtain ⟨new,distinct⟩ := List.nodup_cons.mp distinct
    have kept : rest.filter (fun b => !b == a) = rest := by
      refine List.filter_eq_self.mpr fun b member => ?_
      have other : b ≠ a := fun same => new (same ▸ member)
      simpa using other
    rw [List.eraseDups_cons,kept,ih distinct]

theorem eraseDups_concat [DecidableEq α] (all : List α) (a : α) :
    (all ++ [a]).eraseDups = if a ∈ all then all.eraseDups else all.eraseDups ++ [a] := by
  rw [List.eraseDups_append]
  by_cases member : a ∈ all <;> simp [List.removeAll,List.eraseDups_cons,member]

theorem lookup_eq_none_of_append [BEq α] {before after : List (α × β)} {key : α}
    (free : ((before ++ after).lookup key).isSome = false) : (before.lookup key).isSome = false := by
  rw [List.lookup_append] at free
  cases found : before.lookup key with
  | none => rfl
  | some value => simp [found] at free

/-- What one member of a list brings about holds after a pass, when no other one undoes it. -/
theorem foldl_establishes {motive : β → Prop} (f : β → α → β) {list : List α} {a : α}
    (member : a ∈ list) (establish : ∀ b, motive (f b a)) (keep : ∀ b a, motive b → motive (f b a)) (b : β) :
    motive (list.foldl f b) := by
  induction list generalizing b with
  | nil => cases member
  | cons first rest ih =>
    rw [List.foldl_cons]
    rcases List.mem_cons.mp member with rfl | member
    · exact List.foldlRecOn _ _ (establish b) fun b holds a _ => keep b a holds
    · exact ih member _

end

/-! ## Results -/

section
variable {ε α β : Type}

theorem ok_of_isOk {result : Except ε α} (isOk : result.isOk = true) : ∃ a, result = .ok a := by
  cases result with
  | error cause => cases isOk
  | ok a => exact ⟨a,rfl⟩

theorem except_bind_eq_ok_iff {x : Except ε α} {f : α → Except ε β} {b : β} :
    (x >>= f) = .ok b ↔ ∃ a, x = .ok a ∧ f a = .ok b := by
  cases x <;> simp [bind,Except.bind]

theorem mapError_eq_ok_iff {ε' : Type} {x : Except ε α} {f : ε → ε'} {a : α} : x.mapError f = .ok a ↔ x = .ok a := by
  cases x with
  | error cause => exact ⟨fun same => (by cases same),fun same => (by cases same)⟩
  | ok value => exact ⟨fun same => (by cases same; rfl),fun same => (by cases same; rfl)⟩

theorem mapM_eq_some_iff {read : α → Option β} {l : List α} {out : List β} :
    l.mapM read = some out ↔ l.map read = out.map some := by
  induction l generalizing out with
  | nil => cases out <;> simp
  | cons a rest ih =>
    rw [List.mapM_cons]
    cases out with
    | nil => simp [Option.bind_eq_some_iff]
    | cons b out => simp [Option.bind_eq_some_iff,ih,and_comm (a := read a = some b)]

end
end Callout
