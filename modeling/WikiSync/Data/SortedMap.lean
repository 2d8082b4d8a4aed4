/-!
# Sorted Maps

Finite maps from texts, in increasing order of their keys. The order is part
of the type: whatever walks over a map sees the keys sorted, and two maps with
the same entries are equal.

## Main definitions

* `SortedMap`: The type.
* `SortedMap.get?`, `SortedMap.insert`, `SortedMap.ofList`: Its operations.
-/

namespace WikiSync

/-- A finite map from texts, its entries in increasing order of their keys. -/
structure SortedMap (α : Type) where
  entries : List (String × α)
  sorted : entries.Pairwise fun a b => a.1 < b.1

namespace SortedMap

variable {α : Type}

/-- No entries. -/
def empty : SortedMap α :=
  ⟨[], .nil⟩

/-- Inserts into sorted entries, replacing the entry with the same key. -/
def insertEntry (key : String) (value : α) : List (String × α) → List (String × α)
  | [] => [(key, value)]
  | e :: rest =>
    if key < e.1 then (key, value) :: e :: rest
    else if key = e.1 then (key, value) :: rest
    else e :: insertEntry key value rest

theorem mem_insertEntry {key : String} {value : α} {e : String × α} {es : List (String × α)}
    (h : e ∈ insertEntry key value es) : e = (key, value) ∨ e ∈ es := by
  induction es with
  | nil => simpa [insertEntry] using h
  | cons d rest ih =>
    rw [insertEntry] at h
    split at h
    · simpa using h
    · split at h
      · rcases List.mem_cons.1 h with h | h
        · exact .inl h
        · exact .inr (List.mem_cons_of_mem _ h)
      · rcases List.mem_cons.1 h with h | h
        · exact .inr (h ▸ List.mem_cons_self)
        · exact (ih h).imp_right (List.mem_cons_of_mem _)

/-- Inserting keeps the order. -/
theorem insertEntry_sorted (key : String) (value : α) {es : List (String × α)}
    (h : es.Pairwise fun a b => a.1 < b.1) :
    (insertEntry key value es).Pairwise fun a b => a.1 < b.1 := by
  induction es with
  | nil => simp [insertEntry]
  | cons d rest ih =>
    obtain ⟨hd, hrest⟩ := List.pairwise_cons.1 h
    rw [insertEntry]
    split
    · next hlt =>
      refine List.pairwise_cons.2 ⟨fun e he => ?_, h⟩
      rcases List.mem_cons.1 he with rfl | he
      · exact hlt
      · exact String.lt_trans hlt (hd e he)
    · next hge =>
      split
      · next heq =>
        exact List.pairwise_cons.2 ⟨fun e he => heq ▸ hd e he, hrest⟩
      · next hne =>
        refine List.pairwise_cons.2 ⟨fun e he => ?_, ih hrest⟩
        rcases mem_insertEntry he with rfl | he
        · exact Decidable.byContradiction fun hlt =>
            hne (String.le_antisymm (String.not_lt.1 hlt) (String.not_lt.1 hge))
        · exact hd e he

/-- Sets the value of a key. -/
def insert (m : SortedMap α) (key : String) (value : α) : SortedMap α :=
  ⟨insertEntry key value m.entries, insertEntry_sorted key value m.sorted⟩

/-- The value of a key. -/
def get? (m : SortedMap α) (key : String) : Option α :=
  m.entries.lookup key

/-- Whether a key has a value. -/
def contains (m : SortedMap α) (key : String) : Bool :=
  (m.get? key).isSome

/-- Whether there are no entries. -/
def isEmpty (m : SortedMap α) : Bool :=
  m.entries.isEmpty

/-- The keys in order. -/
def keys (m : SortedMap α) : List String :=
  m.entries.map (·.1)

/-- The values in the order of their keys. -/
def values (m : SortedMap α) : List α :=
  m.entries.map (·.2)

/-- A map from a list of entries; of two with the same key the later counts. -/
def ofList (es : List (String × α)) : SortedMap α :=
  es.foldl (fun m e => m.insert e.1 e.2) empty

end SortedMap

end WikiSync
