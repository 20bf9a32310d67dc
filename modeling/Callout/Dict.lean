/-!
Finite maps with text keys, kept in key order. Keys are compared character by character, by code
point. Because the order is part of the type, two maps with the same entries are equal.
-/
namespace Callout

/-- A finite map with text keys. -/
structure Dict (α : Type) where
  /-- The entries in increasing key order. -/
  entries : List (String × α)
  /-- Every key is less than those after it. -/
  ordered : entries.Pairwise (fun a b => a.1 < b.1)
deriving DecidableEq

namespace Dict
variable {α β : Type}

/-- A list of entries with one more, in the place of the entry with its key if there is one. -/
def insertEntry (key : String) (value : α) : List (String × α) → List (String × α)
  | [] => [(key, value)]
  | (k, v) :: rest =>
    if key < k then (key, value) :: (k, v) :: rest
    else if key = k then (key, value) :: rest
    else (k, v) :: insertEntry key value rest

theorem fst_of_mem_insertEntry {key : String} {value : α} {l : List (String × α)} {e : String × α}
    (h : e ∈ insertEntry key value l) : e.1 = key ∨ e ∈ l := by
  induction l with
  | nil => simp_all [insertEntry]
  | cons head rest ih =>
    obtain ⟨k, v⟩ := head
    simp only [insertEntry] at h
    split at h
    · rcases List.mem_cons.1 h with rfl | h
      · exact .inl rfl
      · exact .inr h
    · split at h
      · rcases List.mem_cons.1 h with rfl | h
        · exact .inl rfl
        · exact .inr (List.mem_cons_of_mem _ h)
      · rcases List.mem_cons.1 h with rfl | h
        · exact .inr List.mem_cons_self
        · rcases ih h with h | h
          · exact .inl h
          · exact .inr (List.mem_cons_of_mem _ h)

theorem ordered_insertEntry {key : String} {value : α} {l : List (String × α)}
    (h : l.Pairwise (fun a b => a.1 < b.1)) :
    (insertEntry key value l).Pairwise (fun a b => a.1 < b.1) := by
  induction l with
  | nil => simp [insertEntry]
  | cons head rest ih =>
    obtain ⟨k, v⟩ := head
    obtain ⟨hk, hrest⟩ := List.pairwise_cons.1 h
    simp only [insertEntry]
    split
    · next lt =>
      refine List.pairwise_cons.2 ⟨fun e he => ?_, h⟩
      rcases List.mem_cons.1 he with rfl | he
      · exact lt
      · exact String.lt_trans lt (hk e he)
    · next nlt =>
      split
      · next eq => exact List.pairwise_cons.2 ⟨fun e he => eq ▸ hk e he, hrest⟩
      · next ne =>
        refine List.pairwise_cons.2 ⟨fun e he => ?_, ih hrest⟩
        rcases fst_of_mem_insertEntry he with he | he
        · rw [he]
          exact Std.lt_of_le_of_ne (String.not_lt.1 nlt) (Ne.symm ne)
        · exact hk e he

/-- The map without entries. -/
def empty : Dict α := ⟨[], .nil⟩

instance : EmptyCollection (Dict α) := ⟨empty⟩
instance : Inhabited (Dict α) := ⟨empty⟩

/-- A map with one more entry; it takes the place of an entry with its key. -/
def insert (d : Dict α) (key : String) (value : α) : Dict α :=
  ⟨insertEntry key value d.entries, ordered_insertEntry d.ordered⟩

/-- The map of a list of entries; of several with one key the last counts. -/
def ofList (l : List (String × α)) : Dict α := l.foldl (fun d e => d.insert e.1 e.2) empty

/-- What stands under a key. -/
def get? (d : Dict α) (key : String) : Option α := d.entries.lookup key

/-- Whether a key has an entry. -/
def contains (d : Dict α) (key : String) : Bool := (d.get? key).isSome

/-- Whether the map has no entries. -/
def isEmpty (d : Dict α) : Bool := d.entries.isEmpty

/-- The keys in order. -/
def keys (d : Dict α) : List String := d.entries.map (·.1)

/-- The number of entries. -/
def size (d : Dict α) : Nat := d.entries.length

/-- The map without the entry of a key. -/
def erase (d : Dict α) (key : String) : Dict α :=
  ⟨d.entries.filter (·.1 ≠ key), d.ordered.filter _⟩

/-! ## Looking up -/

theorem lookup_insertEntry (key : String) (value : α) (l : List (String × α)) (other : String) :
    (insertEntry key value l).lookup other = if other = key then some value else l.lookup other := by
  induction l with
  | nil => grind [insertEntry]
  | cons head rest ih =>
    obtain ⟨k, v⟩ := head
    simp only [insertEntry]
    split
    · grind
    · split <;> grind

theorem lookup_filter_ne (key : String) (l : List (String × α)) (other : String) :
    (l.filter (·.1 ≠ key)).lookup other = if other = key then none else l.lookup other := by
  induction l with
  | nil => simp
  | cons head rest ih =>
    obtain ⟨k, v⟩ := head
    by_cases same : k = key <;> grind

theorem get?_insert (d : Dict α) (key : String) (value : α) (other : String) :
    (d.insert key value).get? other = if other = key then some value else d.get? other :=
  lookup_insertEntry key value d.entries other

theorem get?_erase (d : Dict α) (key other : String) :
    (d.erase key).get? other = if other = key then none else d.get? other :=
  lookup_filter_ne key d.entries other

theorem get?_eq_some_iff (d : Dict α) (key : String) (value : α) :
    d.get? key = some value ↔ (key, value) ∈ d.entries := by
  constructor
  · intro found
    obtain ⟨before, after, same, _⟩ := List.lookup_eq_some_iff.1 found
    simp [same]
  · intro member
    obtain ⟨before, after, same⟩ := List.append_of_mem member
    have ordered := d.ordered
    rw [same] at ordered
    refine List.lookup_eq_some_iff.2 ⟨before, after, same, fun e inside => ?_⟩
    have less := (List.pairwise_append.1 ordered).2.2 e inside (key, value) List.mem_cons_self
    simpa using (Std.ne_of_lt less).symm

/-! ## Maps from their entries -/

theorem eq_of_entries_eq {d e : Dict α} (same : d.entries = e.entries) : d = e := by
  cases d
  cases e
  cases same
  rfl

theorem insertEntry_of_last {key : String} {value : α} {l : List (String × α)} (last : ∀ e ∈ l, e.1 < key) :
    insertEntry key value l = l ++ [(key, value)] := by
  induction l with
  | nil => rfl
  | cons head rest ih =>
    obtain ⟨less, others⟩ := List.forall_mem_cons.1 last
    have before : ¬ key < head.1 := fun more => Std.lt_irrefl (String.lt_trans less more)
    simp only [insertEntry, List.cons_append]
    rw [if_neg before, if_neg (Std.ne_of_lt less).symm, ih others]

theorem entries_foldl_insert (l : List (String × α)) (d : Dict α)
    (ordered : (d.entries ++ l).Pairwise (fun a b => a.1 < b.1)) :
    (l.foldl (fun d e => d.insert e.1 e.2) d).entries = d.entries ++ l := by
  induction l generalizing d with
  | nil => simp
  | cons e rest ih =>
    have last : ∀ a ∈ d.entries, a.1 < e.1 := fun a member =>
      (List.pairwise_append.1 ordered).2.2 a member e List.mem_cons_self
    have inserted : (d.insert e.1 e.2).entries = d.entries ++ [e] := insertEntry_of_last last
    rw [List.foldl_cons, ih (d.insert e.1 e.2) (by simpa [inserted] using ordered), inserted]
    simp

theorem ofList_entries (d : Dict α) : ofList d.entries = d :=
  eq_of_entries_eq (entries_foldl_insert d.entries empty (by simpa [empty] using d.ordered))

end Dict
end Callout
