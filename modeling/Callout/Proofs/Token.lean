import Callout.Engine.Token

/-!
What cancelling reaches. A token comes after the one that it hangs below and is cancelled with it (`Grown`); a new
token and a cancelling keep that. After a token is cancelled, a token is cancelled that was so before, that is the
one, or that hangs below a cancelled one, and no other (`isCancelled_cancel`).
-/
namespace Callout.TokenTree

/-- Whether a token is one of a tree. -/
def Has (tree : TokenTree) (t : Token) : Prop := t.index < tree.states.length

/-- The token that a token hangs below. -/
def parent? (tree : TokenTree) (t : Token) : Option Token := (tree.states[t.index]?).bind (·.parent?)

/-- What holds of every tree: its root hangs below nothing, and every token comes after the one that it hangs below,
and is cancelled with it. -/
structure Grown (tree : TokenTree) : Prop where
  rooted : tree.Has root
  top : tree.parent? root = none
  earlier : ∀ t p, tree.parent? t = some p → p.index < t.index
  closed : ∀ t p, tree.parent? t = some p → tree.isCancelled p = true → tree.isCancelled t = true

theorem grown_new : Grown new := by
  refine ⟨by simp [Has,new,root],rfl,?_,?_⟩
  all_goals
    rintro ⟨index⟩ p hangs
    cases index <;> simp [parent?,new] at hangs

theorem has_of_parent? {tree : TokenTree} {t p : Token} (hangs : tree.parent? t = some p) : tree.Has t := by
  obtain ⟨state,found,_⟩ := Option.bind_eq_some_iff.mp hangs
  exact (List.getElem?_eq_some_iff.mp found).1

/-! ## New tokens -/

theorem has_child {tree : TokenTree} {parent t : Token} (inside : tree.Has t) : (tree.child parent).1.Has t := by
  simp only [Has,child,List.length_append] at inside ⊢
  omega

theorem has_new (tree : TokenTree) (parent : Token) : (tree.child parent).1.Has (tree.child parent).2 := by
  simp [Has,child]

theorem not_has_new (tree : TokenTree) (parent : Token) : ¬tree.Has (tree.child parent).2 := by
  simp [Has,child]

theorem parent?_child {tree : TokenTree} {parent t : Token} (inside : tree.Has t) :
    (tree.child parent).1.parent? t = tree.parent? t := by
  simp only [parent?,child]
  rw [List.getElem?_append_left inside]

@[simp] theorem parent?_new (tree : TokenTree) (parent : Token) :
    (tree.child parent).1.parent? (tree.child parent).2 = some parent := by
  simp [parent?,child]

theorem isCancelled_child {tree : TokenTree} {parent t : Token} (inside : tree.Has t) :
    (tree.child parent).1.isCancelled t = tree.isCancelled t := by
  simp only [isCancelled,flagAt,child]
  rw [List.getElem?_append_left inside]

@[simp] theorem isCancelled_new (tree : TokenTree) (parent : Token) :
    (tree.child parent).1.isCancelled (tree.child parent).2 = tree.isCancelled parent := by
  simp [isCancelled,flagAt,child]

theorem has_child_iff (tree : TokenTree) (parent t : Token) :
    (tree.child parent).1.Has t ↔ tree.Has t ∨ t = (tree.child parent).2 := by
  obtain ⟨index⟩ := t
  simp only [Has,child,List.length_append,List.length_singleton,Token.mk.injEq]
  omega

theorem Grown.child {tree : TokenTree} (grown : tree.Grown) {parent : Token} (inside : tree.Has parent) :
    (tree.child parent).1.Grown := by
  refine ⟨has_child grown.rooted,by rw [parent?_child grown.rooted]; exact grown.top,?_,?_⟩
  · intro t p hangs
    rcases (has_child_iff tree parent t).mp (has_of_parent? hangs) with old | rfl
    · rw [parent?_child old] at hangs
      exact grown.earlier t p hangs
    · rw [parent?_new] at hangs
      cases hangs
      exact inside
  · intro t p hangs cancelled
    rcases (has_child_iff tree parent t).mp (has_of_parent? hangs) with old | rfl
    · rw [parent?_child old] at hangs
      have before : tree.Has p := Nat.lt_trans (grown.earlier t p hangs) old
      rw [isCancelled_child before] at cancelled
      rw [isCancelled_child old]
      exact grown.closed t p hangs cancelled
    · rw [parent?_new] at hangs
      cases hangs
      rw [isCancelled_child inside] at cancelled
      rw [isCancelled_new]
      exact cancelled

/-- A tree with more tokens, in which nothing is cancelled that was not. -/
structure Extends (tree tree' : TokenTree) : Prop where
  has : ∀ t, tree.Has t → tree'.Has t
  parent? : ∀ t, tree.Has t → tree'.parent? t = tree.parent? t
  isCancelled : ∀ t, tree.Has t → tree'.isCancelled t = tree.isCancelled t

theorem Extends.refl (tree : TokenTree) : tree.Extends tree := ⟨fun _ inside => inside,fun _ _ => rfl,fun _ _ => rfl⟩

theorem Extends.child {tree tree' : TokenTree} (more : tree.Extends tree') (parent : Token) :
    tree.Extends (tree'.child parent).1 := by
  refine ⟨fun t inside => has_child (more.has t inside),fun t inside => ?_,fun t inside => ?_⟩
  · rw [parent?_child (more.has t inside)]
    exact more.parent? t inside
  · rw [isCancelled_child (more.has t inside)]
    exact more.isCancelled t inside

/-! ## Cancelling -/

theorem cancelFrom_before (t : Token) {before rest : List TokenState} {i : Nat} (early : i < before.length) :
    (cancelFrom t before rest)[i]? = before[i]? := by
  induction rest generalizing before with
  | nil => rfl
  | cons state rest ih =>
    rw [cancelFrom,ih (by simp only [List.length_append]; omega),List.getElem?_append_left early]

theorem length_cancelFrom (t : Token) (before rest : List TokenState) :
    (cancelFrom t before rest).length = before.length + rest.length := by
  induction rest generalizing before with
  | nil => rfl
  | cons state rest ih =>
    rw [cancelFrom,ih]
    simp only [List.length_append,List.length_cons,List.length_nil]
    omega

/-- What one pass makes of a token, told by what it made of those before. -/
theorem cancelFrom_at (t : Token) {before rest : List TokenState} {i : Nat} {state : TokenState}
    (late : before.length ≤ i) (found : (before ++ rest)[i]? = some state) :
    (cancelFrom t before rest)[i]? =
      some { state with
        cancelled := state.cancelled ||
          (i = t.index || state.parent?.any fun p => flagAt ((cancelFrom t before rest).take i) p) } := by
  induction rest generalizing before with
  | nil =>
    rw [List.append_nil,List.getElem?_eq_none late] at found
    cases found
  | cons first rest ih =>
    rw [cancelFrom]
    rcases Nat.eq_or_lt_of_le late with same | later
    · subst same
      have here : first = state := by simpa using found
      subst here
      rw [cancelFrom_before t (by simp)]
      have made : ∀ next : TokenState, (cancelFrom t (before ++ [next]) rest).take before.length = before := by
        intro next
        refine List.ext_getElem? fun j => ?_
        rw [List.getElem?_take]
        split
        · rename_i early
          rw [cancelFrom_before t (by simp only [List.length_append]; omega),List.getElem?_append_left early]
        · rename_i late
          exact (List.getElem?_eq_none (by omega)).symm
      simp [made]
    · -- the state in front is another one now, but the one sought comes after it
      have beyond : ∀ next : TokenState, (before ++ [next]).length ≤ i := fun next => by
        rw [List.length_append,List.length_singleton]
        exact later
      refine ih (beyond _) ?_
      rw [List.append_cons,List.getElem?_append_right (beyond _)] at found
      rw [List.getElem?_append_right (beyond _)]
      simpa only [List.length_append,List.length_singleton] using found

theorem flagAt_take {states : List TokenState} {t : Token} {n : Nat} (early : t.index < n) :
    flagAt (states.take n) t = flagAt states t := by
  simp only [flagAt,List.getElem?_take_of_lt early]

theorem has_cancel {tree : TokenTree} {t i : Token} : (tree.cancel t).Has i ↔ tree.Has i := by
  simp [Has,cancel,length_cancelFrom]

theorem cancel_at (tree : TokenTree) (t : Token) {i : Token} {state : TokenState}
    (found : tree.states[i.index]? = some state) :
    (tree.cancel t).states[i.index]? =
      some { state with
        cancelled := state.cancelled ||
          (i.index = t.index || state.parent?.any fun p => flagAt ((tree.cancel t).states.take i.index) p) } :=
  cancelFrom_at t (Nat.zero_le _) found

@[simp] theorem parent?_cancel (tree : TokenTree) (t i : Token) : (tree.cancel t).parent? i = tree.parent? i := by
  cases found : tree.states[i.index]? with
  | some state => simp only [parent?,cancel_at tree t found,found,Option.bind_some]
  | none =>
    have outside : (tree.cancel t).states[i.index]? = none := by
      rw [List.getElem?_eq_none_iff] at found ⊢
      simpa [cancel,length_cancelFrom] using found
    simp only [parent?,outside,found]

/-- After a token is cancelled, a token is cancelled that was so before, that is the one, or that hangs below a
cancelled one. -/
theorem isCancelled_cancel {tree : TokenTree} (grown : tree.Grown) {t i : Token} (inside : tree.Has i) :
    (tree.cancel t).isCancelled i = true ↔
      tree.isCancelled i = true ∨ i = t ∨ ∃ p, tree.parent? i = some p ∧ (tree.cancel t).isCancelled p = true := by
  obtain ⟨state,found⟩ : ∃ state, tree.states[i.index]? = some state := ⟨_,List.getElem?_eq_getElem inside⟩
  have hangs : tree.parent? i = state.parent? := by simp [parent?,found]
  have before : tree.isCancelled i = state.cancelled := by simp [isCancelled,flagAt,found]
  have named : i.index = t.index ↔ i = t := by
    obtain ⟨i⟩ := i
    obtain ⟨t⟩ := t
    simp
  have after : (tree.cancel t).isCancelled i = (state.cancelled ||
      (i.index = t.index || state.parent?.any fun p => flagAt ((tree.cancel t).states.take i.index) p)) := by
    simp only [isCancelled,flagAt,cancel_at tree t found,Option.any_some]
  rw [after,before,hangs]
  cases above : state.parent? with
  | none => simp [named]
  | some p =>
    have early := grown.earlier i p (hangs.trans above)
    simp [named,flagAt_take early,isCancelled]

theorem Grown.cancel {tree : TokenTree} (grown : tree.Grown) (t : Token) : (tree.cancel t).Grown := by
  refine ⟨has_cancel.mpr grown.rooted,by rw [parent?_cancel]; exact grown.top,?_,?_⟩
  · intro i p hangs
    rw [parent?_cancel] at hangs
    exact grown.earlier i p hangs
  · intro i p hangs cancelled
    rw [parent?_cancel] at hangs
    exact (isCancelled_cancel grown (has_of_parent? hangs)).mpr (.inr (.inr ⟨p,hangs,cancelled⟩))

end Callout.TokenTree
